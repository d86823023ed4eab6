import SolidityLint.Files.Path
import SolidityLint.Proofs.Order.Stable

/-!
# The order of paths

Texts are compared by the first character in which they differ, and paths by the first part.  Both
compare lists by their elements (`Order.leLists`), which gives an order if the elements have one
(`Order.IsOrder.isOrder_leLists`).  Hence paths can be sorted by their parts
(`Path.isRanking_le`).
-/

namespace SolidityLint

namespace Order

variable {α : Type} {le : α → α → Bool}

/-- A relation to sort by that relates different elements in one direction only. -/
structure IsOrder (le : α → α → Bool) : Prop extends IsRanking le where
  antisymm : ∀ a b, le a b = true → le b a = true → a = b

/-- Lists compared by their first difference; a list comes before those that go on where it
ends. -/
def leLists [DecidableEq α] (le : α → α → Bool) : List α → List α → Bool
  | [], _ => true
  | _ :: _, [] => false
  | a :: as, b :: bs => if a = b then leLists le as bs else le a b

theorem leLists_cons_iff [DecidableEq α] (a b : α) (as bs : List α) :
    leLists le (a :: as) (b :: bs) = true ↔
      a = b ∧ leLists le as bs = true ∨ a ≠ b ∧ le a b = true := by
  rw [leLists]
  split <;> simp [*]

namespace IsOrder

variable [DecidableEq α]

theorem leLists_trans (h : IsOrder le) (as bs cs : List α) (hab : leLists le as bs = true)
    (hbc : leLists le bs cs = true) : leLists le as cs = true := by
  induction as generalizing bs cs with
  | nil => rfl
  | cons a as ih =>
      cases bs with
      | nil => simp [leLists] at hab
      | cons b bs =>
          cases cs with
          | nil => simp [leLists] at hbc
          | cons c cs =>
              rw [leLists_cons_iff] at *
              rcases hab with ⟨rfl, hab⟩ | ⟨hne, hab⟩
              · exact hbc.imp_left fun ⟨heq, hbc⟩ => ⟨heq, ih bs cs hab hbc⟩
              rcases hbc with ⟨rfl, -⟩ | ⟨-, hbc⟩
              · exact .inr ⟨hne, hab⟩
              · refine .inr ⟨?_, h.trans a b c hab hbc⟩
                rintro rfl
                exact hne (h.antisymm a b hab hbc)

theorem leLists_total (h : IsOrder le) (as bs : List α) :
    (leLists le as bs || leLists le bs as) = true := by
  induction as generalizing bs with
  | nil => rfl
  | cons a as ih =>
      cases bs with
      | nil => rfl
      | cons b bs =>
          rw [leLists, leLists]
          by_cases heq : a = b
          · rw [if_pos heq, if_pos heq.symm]
            exact ih bs
          · rw [if_neg heq, if_neg (Ne.symm heq)]
            exact h.total a b

theorem leLists_antisymm (h : IsOrder le) (as bs : List α) (hab : leLists le as bs = true)
    (hba : leLists le bs as = true) : as = bs := by
  induction as generalizing bs with
  | nil =>
      cases bs with
      | nil => rfl
      | cons b bs => simp [leLists] at hba
  | cons a as ih =>
      cases bs with
      | nil => simp [leLists] at hab
      | cons b bs =>
          rw [leLists_cons_iff] at hab hba
          rcases hab with ⟨rfl, hab⟩ | ⟨hne, hab⟩
          · rw [ih bs hab (hba.resolve_right fun h => h.1 rfl).2]
          · exact absurd (h.antisymm a b hab (hba.resolve_left fun h => hne h.1.symm).2) hne

/-- An order of elements is an order of lists. -/
theorem isOrder_leLists (h : IsOrder le) : IsOrder (leLists le) where
  trans := h.leLists_trans
  total := h.leLists_total
  antisymm := h.leLists_antisymm

end IsOrder

end Order

theorem Text.le_eq : Text.le = Order.leLists fun c d => decide (c.toNat ≤ d.toNat) := by
  funext s t
  induction s generalizing t with
  | nil => rfl
  | cons c s ih =>
      cases t with
      | nil => rfl
      | cons d t =>
          rw [Text.le, Order.leLists, ih]
          split
          · rfl
          · rename_i hne
            have hcode : c.toNat ≠ d.toNat := fun heq => hne (Char.toNat_inj.1 heq)
            rw [decide_eq_decide]
            omega

theorem Text.isOrder_le : Order.IsOrder Text.le := by
  rw [Text.le_eq]
  refine Order.IsOrder.isOrder_leLists ⟨⟨fun a b c => ?_, fun a b => ?_⟩, fun a b => ?_⟩
  · simp only [decide_eq_true_eq]
    exact Nat.le_trans
  · simp only [Bool.or_eq_true, decide_eq_true_eq]
    exact Nat.le_total ..
  · simp only [decide_eq_true_eq]
    exact fun hab hba => Char.toNat_inj.1 (Nat.le_antisymm hab hba)

namespace Path

theorem leParts_eq : leParts = Order.leLists Text.le := by
  funext ss ts
  induction ss generalizing ts with
  | nil => rfl
  | cons s ss ih =>
      cases ts with
      | nil => rfl
      | cons t ts => rw [leParts, Order.leLists, ih]

/-- Paths can be sorted by their parts. -/
theorem isRanking_le : Order.IsRanking le := by
  have hparts : Order.IsOrder leParts := leParts_eq ▸ Text.isOrder_le.isOrder_leLists
  exact ⟨fun p q r => hparts.trans p.orderKey q.orderKey r.orderKey,
    fun p q => hparts.total p.orderKey q.orderKey⟩

theorem le_refl (p : Path) : le p p = true := by
  simpa using isRanking_le.total p p

theorem pairwise_sort (ps : List Path) : (sort ps).Pairwise fun p q => le p q = true :=
  List.pairwise_mergeSort isRanking_le.trans isRanking_le.total ps

theorem mem_sort {p : Path} {ps : List Path} : p ∈ sort ps ↔ p ∈ ps :=
  List.mem_mergeSort

end Path

end SolidityLint
