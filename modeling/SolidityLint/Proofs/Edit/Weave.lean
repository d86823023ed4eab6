import SolidityLint.Proofs.Edit.Sweep

/-!
# Edits woven into what is left of a text

For proofs that read a text piece by piece it is convenient to hold what is left of the text after
an offset instead of the whole text.  `Edit.weave` applies edits in that form.

* `patched_eq_weave`: it is the same answer.
* `weave_append`: what lies before all edits is copied.
* `weave_cons`: an edit of the next characters puts its text in their place.
-/

namespace SolidityLint.Edit

/-- What is left of a text after offset `o`, once the edits are applied. -/
def weave (o : Nat) (rest : Text) : List Edit → Text
  | [] => rest
  | e :: es =>
      rest.take (e.range.start.toNat - o) ++ e.text ++
        weave e.range.stop.toNat (rest.drop (e.range.stop.toNat - o)) es

variable {o : Nat} {a b : Text} {es : List Edit}

theorem patched_eq_weave {source : Text} {limit : Int} (h : InOrder limit o es) :
    patched source o es = weave o (source.drop o) es := by
  induction es generalizing o with
  | nil => rw [patched, weave, Text.sliceFrom_natCast]
  | cons e es ih =>
      obtain ⟨hstart, hstop, hrest⟩ := h
      obtain ⟨i, hi⟩ := Int.eq_ofNat_of_zero_le (show 0 ≤ e.range.start by omega)
      obtain ⟨j, hj⟩ := Int.eq_ofNat_of_zero_le (show 0 ≤ e.range.stop by omega)
      rw [hj] at hrest
      rw [patched, weave, hi, hj, Text.slice_natCast, ih hrest, Int.toNat_natCast,
        Int.toNat_natCast, List.drop_drop, Nat.add_sub_of_le (by omega)]

/-- What lies before all edits is copied. -/
theorem weave_append (h : ∀ e ∈ es, (o + a.length : Nat) ≤ e.range.start ∧
    e.range.start ≤ e.range.stop) : weave o (a ++ b) es = a ++ weave (o + a.length) b es := by
  cases es with
  | nil => rfl
  | cons e es =>
      obtain ⟨hstart, hstop⟩ := h e (List.mem_cons_self ..)
      have hi : e.range.start.toNat - o = a.length + (e.range.start.toNat - (o + a.length)) := by
        omega
      have hj : e.range.stop.toNat - o = a.length + (e.range.stop.toNat - (o + a.length)) := by
        omega
      rw [weave, weave, hi, hj, List.take_length_add_append, List.drop_length_add_append]
      simp only [List.append_assoc]

/-- An edit of the next characters puts its text in their place. -/
theorem weave_cons (o : Nat) (a b text : Text) (es : List Edit) :
    weave o (a ++ b) (⟨⟨(o : Int), ((o + a.length : Nat) : Int)⟩, text⟩ :: es) =
      text ++ weave (o + a.length) b es := by
  rw [weave, Int.toNat_natCast, Int.toNat_natCast, Nat.sub_self, Nat.add_sub_cancel_left,
    List.take_zero, List.nil_append, List.drop_left]

end SolidityLint.Edit
