import Mathlib.Data.List.Basic

/-!
# Stable sorting

The library sorts diagnostics and candidates by merge sort, which keeps the order of elements
with equal keys.  Two consequences are used throughout.

* `filterMap_mergeSort`: choosing and relabelling elements commutes with sorting.
* `mergeSort_eq_append`: where the elements with a property all come before the others, the two
  parts can be sorted one by one.
-/

namespace SolidityLint.Order

variable {α β : Type} {le : α → α → Bool} {le' : β → β → Bool}

/-- A relation to sort by: transitive, and any two elements are related. -/
structure IsRanking (le : α → α → Bool) : Prop where
  trans : ∀ a b c, le a b = true → le b c = true → le a c = true
  total : ∀ a b, (le a b || le b a) = true

/-- Comparing by an integer key is a ranking. -/
theorem isRanking_of_key (key : α → Int) : IsRanking fun a b => decide (key a ≤ key b) where
  trans a b c hab hbc := by
    simp only [decide_eq_true_eq] at *
    omega
  total a b := by
    simp only [Bool.or_eq_true, decide_eq_true_eq]
    omega

/-- A list is cut in one way only into a part without a property and a part with it. -/
theorem eq_of_append_eq_append {q : α → Prop} {xs ys zs ws : List α} (h : xs ++ ys = zs ++ ws)
    (hxs : ∀ a ∈ xs, ¬q a) (hys : ∀ a ∈ ys, q a) (hzs : ∀ a ∈ zs, ¬q a) (hws : ∀ a ∈ ws, q a) :
    xs = zs ∧ ys = ws := by
  rcases List.append_eq_append_iff.1 h with ⟨t, rfl, rfl⟩ | ⟨t, rfl, rfl⟩
  · cases t with
    | nil => simp
    | cons a t => exact absurd (hys a (by simp)) (hzs a (by simp))
  · cases t with
    | nil => simp
    | cons a t => exact absurd (hws a (by simp)) (hxs a (by simp))

/-- Choosing and relabelling the elements of a list commutes with sorting it, if the labels are
compared as the elements they are made of. -/
theorem filterMap_mergeSort (hle : IsRanking le) (hle' : IsRanking le') {g : α → Option β}
    {l : List α}
    (h : ∀ a ∈ l, ∀ b ∈ l, ∀ x y, g a = some x → g b = some y → le a b = le' x y) :
    (l.mergeSort le).filterMap g = (l.filterMap g).mergeSort le' := by
  induction l with
  | nil => simp
  | cons a l ih =>
      have hrest := ih fun b hb c hc =>
        h b (List.mem_cons_of_mem _ hb) c (List.mem_cons_of_mem _ hc)
      obtain ⟨l₁, l₂, hcons, hl, hbefore⟩ := List.mergeSort_cons hle.trans hle.total a l
      have hsorted := List.pairwise_mergeSort hle.trans hle.total (a :: l)
      rw [hcons, List.pairwise_append] at hsorted
      have hmem : ∀ b, b ∈ l₁ ∨ b ∈ l₂ → b ∈ a :: l := fun b hb => by
        rw [← List.mem_append, ← hl, List.mem_mergeSort] at hb
        exact List.mem_cons_of_mem _ hb
      rw [hl, List.filterMap_append] at hrest
      cases hg : g a with
      | none => rw [hcons, List.filterMap_append, List.filterMap_cons_none hg,
          List.filterMap_cons_none hg, hrest]
      | some x =>
          obtain ⟨m₁, m₂, hcons', hm, hbefore'⟩ :=
            List.mergeSort_cons hle'.trans hle'.total x (l.filterMap g)
          have hsorted' := List.pairwise_mergeSort hle'.trans hle'.total (x :: l.filterMap g)
          rw [hcons', List.pairwise_append] at hsorted'
          rw [hcons, List.filterMap_append, List.filterMap_cons_some hg,
            List.filterMap_cons_some hg, hcons']
          -- both lists put `x` where the elements stop being smaller than it
          have hkey : ∀ b, b ∈ l₁ ∨ b ∈ l₂ → ∀ y, g b = some y → le a b = le' x y :=
            fun b hb y hgb => h a (List.mem_cons_self ..) b (hmem b hb) x y hg hgb
          have hsmaller : ∀ y ∈ l₁.filterMap g, ¬le' x y = true := fun y hy => by
            obtain ⟨b, hb, hgb⟩ := List.mem_filterMap.1 hy
            rw [← hkey b (.inl hb) y hgb]
            simpa using hbefore b hb
          have hlarger : ∀ y ∈ l₂.filterMap g, le' x y = true := fun y hy => by
            obtain ⟨b, hb, hgb⟩ := List.mem_filterMap.1 hy
            rw [← hkey b (.inr hb) y hgb]
            exact List.rel_of_pairwise_cons hsorted.2.1 hb
          obtain ⟨h₁, h₂⟩ := eq_of_append_eq_append (q := fun y => le' x y = true)
            (hrest.trans hm) hsmaller hlarger (fun y hy => by simpa using hbefore' y hy)
            fun y hy => List.rel_of_pairwise_cons hsorted'.2.1 hy
          rw [h₁, h₂]

/-- Choosing elements of a list commutes with sorting it. -/
theorem filter_mergeSort (hle : IsRanking le) (p : α → Bool) (l : List α) :
    (l.mergeSort le).filter p = (l.filter p).mergeSort le := by
  rw [← List.filterMap_eq_filter, filterMap_mergeSort hle hle]
  intro a _ b _ x y hx hy
  rw [(Option.guard_eq_some_iff.1 hx).1, (Option.guard_eq_some_iff.1 hy).1]

/-- A sorted list is cut by a property of its smaller elements. -/
theorem filter_append_filter_not (le : α → α → Bool) {p : α → Bool} {l : List α}
    (hl : l.Pairwise (le · ·))
    (hp : ∀ a ∈ l, ∀ b ∈ l, p a = true → p b = false → le b a = false) :
    l.filter p ++ l.filter (!p ·) = l := by
  induction l with
  | nil => rfl
  | cons a l ih =>
      obtain ⟨ha, hl⟩ := List.pairwise_cons.1 hl
      have hrest := ih hl fun b hb c hc =>
        hp b (List.mem_cons_of_mem _ hb) c (List.mem_cons_of_mem _ hc)
      cases hpa : p a with
      | true => simpa [hpa] using hrest
      | false =>
          have hnone : ∀ b ∈ l, p b = false := fun b hb => by
            by_contra hpb
            have := hp b (List.mem_cons_of_mem _ hb) a (List.mem_cons_self ..)
              (by simpa using hpb) hpa
            rw [ha b hb] at this
            exact Bool.noConfusion this
          rw [List.filter_cons, if_neg (by simp [hpa]), List.filter_cons, if_pos (by simp [hpa]),
            List.filter_eq_nil_iff.2 fun b hb => by simp [hnone b hb],
            List.filter_eq_self.2 fun b hb => by simp [hnone b hb], List.nil_append]

/-- Where the elements with a property come before the others, the two parts can be sorted one by
one. -/
theorem mergeSort_eq_append (hle : IsRanking le) {p : α → Bool} {l : List α}
    (hp : ∀ a ∈ l, ∀ b ∈ l, p a = true → p b = false → le b a = false) :
    l.mergeSort le = (l.filter p).mergeSort le ++ (l.filter (!p ·)).mergeSort le := by
  rw [← filter_mergeSort hle, ← filter_mergeSort hle]
  refine (filter_append_filter_not le (List.pairwise_mergeSort hle.trans hle.total l) ?_).symm
  intro a ha b hb
  exact hp a (List.mem_mergeSort.1 ha) b (List.mem_mergeSort.1 hb)

end SolidityLint.Order
