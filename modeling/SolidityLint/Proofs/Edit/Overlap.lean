import Mathlib.Order.Bounds.Basic
import SolidityLint.Proofs.Edit.Sweep

/-!
# Where a sweep stops

The sweep compares each edit with the end of the one before it only.  That is enough to notice
every overlap: as long as it has not stopped, the ends of the edits grow, so the cursor is the
largest end so far, and an edit that starts before any earlier end starts before the cursor.

* `exists_of_sweep_eq_error`: the edits before the one at which the sweep stops are in order.
* `applyAll_eq_error_iff`: the sweep stops at the first edit that starts before an earlier end, and
  reports the largest of these ends.
-/

namespace SolidityLint.Edit

/-- Does the edit at place `j` of a list start before the end of an edit before it? -/
def StartsEarly (es : List Edit) (j : Nat) : Prop :=
  ∃ i a b, i < j ∧ es[i]? = some a ∧ es[j]? = some b ∧ b.range.start < a.range.stop

variable {source : Text} {cursor : Int} {o : Overlap} {es pre post : List Edit}

/-! ## The edits before an overlap -/

/-- The edits before the one at which a sweep stops are in order, and the cursor reported is the
end of one of them, or where it stood at first. -/
theorem exists_of_sweep_eq_error (hes : ∀ e ∈ es, e.range.start ≤ e.range.stop)
    (h : sweep source cursor es = .error o) :
    ∃ pre post, es = pre ++ o.edit :: post ∧ InOrder o.cursor cursor pre ∧
      o.edit.range.start < o.cursor ∧ (o.cursor = cursor ∨ ∃ a ∈ pre, a.range.stop = o.cursor) := by
  induction es generalizing cursor with
  | nil => cases h
  | cons e es ih =>
      obtain ⟨hstop, hrest⟩ := List.forall_mem_cons.1 hes
      rw [sweep] at h
      split at h
      · rename_i hearly
        cases h
        exact ⟨[], es, rfl, Int.le_refl _, hearly, .inl rfl⟩
      · rename_i hstart
        obtain ⟨pre, post, hsplit, horder, hearly, hcursor⟩ := ih hrest (map_eq_error_iff.1 h)
        refine ⟨e :: pre, post, by rw [hsplit, List.cons_append],
          ⟨Int.not_lt.1 hstart, hstop, horder⟩, hearly, .inr ?_⟩
        rcases hcursor with heq | ⟨a, ha, heq⟩
        · exact ⟨e, List.mem_cons_self .., heq.symm⟩
        · exact ⟨a, List.mem_cons_of_mem _ ha, heq⟩

/-! ## The first overlap -/

theorem not_startsEarly_of_pairwise (h : es.Pairwise fun a b => a.range.stop ≤ b.range.start)
    (j : Nat) : ¬StartsEarly es j := by
  rintro ⟨i, a, b, hij, ha, hb, hlt⟩
  obtain ⟨hi, rfl⟩ := List.getElem?_eq_some_iff.1 ha
  obtain ⟨hj, rfl⟩ := List.getElem?_eq_some_iff.1 hb
  have := List.pairwise_iff_getElem.1 h i j hi hj hij
  omega

/-- What comes behind an edit has no part in whether it starts early. -/
theorem StartsEarly.of_append {j : Nat} (hj : j < pre.length) (h : StartsEarly (pre ++ post) j) :
    StartsEarly pre j := by
  obtain ⟨i, a, b, hij, ha, hb, hlt⟩ := h
  rw [List.getElem?_append_left (by omega)] at ha
  rw [List.getElem?_append_left hj] at hb
  exact ⟨i, a, b, hij, ha, hb, hlt⟩

/-- Behind edits that do not overlap, the next one is the first to start early if it does. -/
theorem isLeast_startsEarly {e a : Edit}
    (hpre : pre.Pairwise fun a b => a.range.stop ≤ b.range.start) (ha : a ∈ pre)
    (hlt : e.range.start < a.range.stop) :
    IsLeast {j | StartsEarly (pre ++ e :: post) j} pre.length := by
  constructor
  · obtain ⟨i, hi⟩ := List.mem_iff_getElem?.1 ha
    have hlen := (List.getElem?_eq_some_iff.1 hi).1
    refine ⟨i, a, e, hlen, ?_, ?_, hlt⟩
    · rw [List.getElem?_append_left hlen, hi]
    · simp
  · intro j hj
    by_contra hbefore
    exact not_startsEarly_of_pairwise hpre j (StartsEarly.of_append (Nat.not_le.1 hbefore) hj)

/-- The edit and the cursor that a sweep reports. -/
theorem reported_of_applyAll_eq_error
    (hes : ∀ e ∈ es, 0 ≤ e.range.start ∧ e.range.start ≤ e.range.stop)
    (h : applyAll source es = .error o) :
    ∃ j, IsLeast {j | StartsEarly es j} j ∧ es[j]? = some o.edit ∧
      IsGreatest {n | ∃ a ∈ es.take j, a.range.stop = n} o.cursor := by
  obtain ⟨pre, post, rfl, horder, hearly, hcursor⟩ :=
    exists_of_sweep_eq_error (fun e he => (hes e he).2) (map_eq_error_iff.1 h)
  have hstart := (hes o.edit (by simp)).1
  obtain ⟨a, ha, hstop⟩ := hcursor.resolve_left (by omega)
  refine ⟨pre.length, isLeast_startsEarly horder.pairwise ha (by omega), ?_, ?_⟩
  · simp
  · rw [List.take_left]
    refine ⟨⟨a, ha, hstop⟩, ?_⟩
    rintro n ⟨b, hb, rfl⟩
    exact (horder.of_mem hb).2.2

theorem exists_applyAll_eq_error_iff
    (hes : ∀ e ∈ es, 0 ≤ e.range.start ∧ e.range.start ≤ e.range.stop) :
    (∃ o, applyAll source es = .error o) ↔ ∃ j, StartsEarly es j := by
  constructor
  · rintro ⟨o, ho⟩
    obtain ⟨j, hleast, -⟩ := reported_of_applyAll_eq_error hes ho
    exact ⟨j, hleast.1⟩
  · rintro ⟨j, hj⟩
    cases hsweep : sweep source 0 es with
    | error o => exact ⟨o, map_eq_error_iff.2 hsweep⟩
    | ok output =>
        have hpairs := (pairwise_of_sweep_eq_ok (fun e he => (hes e he).2) hsweep).2
        exact absurd hj (not_startsEarly_of_pairwise hpairs j)

/-- **Where a sweep stops.**  Edits of which none is reversed are refused exactly if some edit
starts before the end of one before it, however many lie between the two.  What is reported then is
the first edit that does so and the largest end of those before it. -/
theorem applyAll_eq_error_iff
    (hes : ∀ e ∈ es, 0 ≤ e.range.start ∧ e.range.start ≤ e.range.stop) :
    ((∃ o, applyAll source es = .error o) ↔ ∃ j, StartsEarly es j) ∧
    ∀ o, applyAll source es = .error o ↔
      ∃ j, IsLeast {j | StartsEarly es j} j ∧ es[j]? = some o.edit ∧
        IsGreatest {n | ∃ a ∈ es.take j, a.range.stop = n} o.cursor := by
  refine ⟨exists_applyAll_eq_error_iff hes, fun o => ⟨reported_of_applyAll_eq_error hes, ?_⟩⟩
  rintro ⟨j, hleast, hedit, hcursor⟩
  obtain ⟨⟨e', cursor'⟩, h'⟩ := (exists_applyAll_eq_error_iff hes).2 ⟨j, hleast.1⟩
  -- what is reported is determined by the place of the first edit that starts early
  obtain ⟨j', hleast', hedit', hcursor'⟩ := reported_of_applyAll_eq_error hes h'
  obtain rfl := hleast.unique hleast'
  have hsame : e' = o.edit := Option.some.inj (hedit'.symm.trans hedit)
  have hend : cursor' = o.cursor := hcursor'.unique hcursor
  rw [h', hsame, hend]

/-- The third edit starts within the first one and before the end of the second.  It stops the
sweep, and the fourth one, which starts within the first one too, is not looked at. -/
theorem applyAll_eq_error_of_nested :
    let source := "0123456789".toList
    let es : List Edit := [⟨⟨0, 5⟩, []⟩, ⟨⟨6, 8⟩, "a".toList⟩, ⟨⟨2, 7⟩, "b".toList⟩,
      ⟨⟨3, 4⟩, []⟩]
    (∀ e ∈ es, 0 ≤ e.range.start ∧ e.range.start ≤ e.range.stop) ∧
      applyAll source es = .error ⟨⟨⟨2, 7⟩, "b".toList⟩, 8⟩ ∧
      IsLeast {j | StartsEarly es j} 2 ∧
      IsGreatest {n | ∃ a ∈ es.take 2, a.range.stop = n} 8 := by
  intro source es
  have hes : ∀ e ∈ es, 0 ≤ e.range.start ∧ e.range.start ≤ e.range.stop := by decide
  have hsweep : applyAll source es = .error ⟨⟨⟨2, 7⟩, "b".toList⟩, 8⟩ := rfl
  obtain ⟨j, hleast, hedit, hcursor⟩ := ((applyAll_eq_error_iff hes).2 _).1 hsweep
  have hplace : ∀ j < es.length, es[j]? = some ⟨⟨2, 7⟩, "b".toList⟩ → j = 2 := by decide
  obtain rfl := hplace j (List.getElem?_eq_some_iff.1 hedit).1 hedit
  exact ⟨hes, hsweep, hleast, hcursor⟩

end SolidityLint.Edit
