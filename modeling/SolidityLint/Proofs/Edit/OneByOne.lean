import SolidityLint.Proofs.Edit.Stretches

/-!
# Edits made one at a time

The sweep writes the text after all edits in one go.  By hand one would make the edits one at a
time, each on the text that the one before has left.  From the last edit to the first, the ranges
still to come stay where they are (`backward`); from the first to the last, each range has moved by
the deltas of the edits before it (`forward`).  Both ways lead to the text of the sweep.

* `rewrite_append`: one edit puts its text in the place of what it covers.
* `backward_eq`, `forward_eq`: what has been done after some of the edits.
* `applyAll_eq_one_by_one`: the sweep and the two ways agree.
-/

namespace SolidityLint.Edit

/-- A text with one edit made: what lies before the range, the new text, what lies behind. -/
def rewrite (e : Edit) (source : Text) : Text :=
  source.slice 0 e.range.start ++ e.text ++ source.sliceFrom e.range.stop

/-- The edit with its range moved along the text. -/
def moved (e : Edit) (distance : Int) : Edit :=
  ⟨⟨e.range.start + distance, e.range.stop + distance⟩, e.text⟩

/-- A text with the edits made one at a time, from the last to the first. -/
def backward (source : Text) (es : List Edit) : Text :=
  es.foldr rewrite source

/-- A text with the edits made one at a time, from the first to the last.  Each range is moved by
`drift`, the sum of the deltas of the edits made before. -/
def forward (drift : Int) (source : Text) : List Edit → Text
  | [] => source
  | e :: es => forward (drift + e.delta) ((e.moved drift).rewrite source) es

variable {source : Text} {e : Edit} {es : List Edit} {cursor drift : Int}

/-! ## One edit -/

/-- One edit puts its text in the place of what it covers. -/
theorem rewrite_append {a b c : Text} (hstart : e.range.start = a.length)
    (hstop : e.range.stop = a.length + b.length) : e.rewrite (a ++ b ++ c) = a ++ e.text ++ c := by
  have hbefore : (a ++ b ++ c).slice 0 (a.length : Int) = a := by
    rw [← Int.natCast_zero, Text.slice_natCast, Nat.sub_zero, List.drop_zero, List.append_assoc,
      List.take_left]
  have hbehind : (a ++ b ++ c).sliceFrom (a.length + b.length : Int) = c := by
    rw [← Int.natCast_add, Text.sliceFrom_natCast, ← List.length_append, List.drop_left]
  rw [rewrite, hstart, hstop, hbefore, hbehind]

/-! ## One edit after the other -/

/-- With the edits behind the cursor made, what lies before it is as it was. -/
theorem backward_eq (hcursor : 0 ≤ cursor) (h : InOrder source.length cursor es) :
    backward source es = source.slice 0 cursor ++ patched source cursor es := by
  induction es generalizing cursor with
  | nil =>
      rw [patched, ← sliceFrom_eq_append (Int.le_refl 0) hcursor]
      rfl
  | cons e es ih =>
      obtain ⟨hstart, hstop, hrest⟩ := h
      have hstart0 : 0 ≤ e.range.start := Int.le_trans hcursor hstart
      have hlimit := hrest.cursor_le
      have hbefore : ((source.slice 0 e.range.start).length : Int) = e.range.start - 0 :=
        length_slice (Int.le_refl 0) hstart0 (by omega)
      have hcovered := length_slice hstart0 hstop hlimit
      calc backward source (e :: es)
          = e.rewrite (backward source es) := rfl
        _ = e.rewrite (source.slice 0 e.range.start ++ source.slice e.range.start e.range.stop ++
              patched source e.range.stop es) := by
            rw [ih (by omega) hrest, Text.slice_append_slice (Int.le_refl 0) hstart0 hstop]
        _ = source.slice 0 e.range.start ++ e.text ++ patched source e.range.stop es :=
            rewrite_append (by omega) (by omega)
        _ = source.slice 0 cursor ++ patched source cursor (e :: es) := by
            rw [patched, ← Text.slice_append_slice (Int.le_refl 0) hcursor hstart]
            simp only [List.append_assoc]

/-- With the edits before the cursor made, what lies behind it is as it was, moved by `drift`. -/
theorem forward_eq (done : Text) (hcursor : 0 ≤ cursor) (h : InOrder source.length cursor es)
    (hdone : (done.length : Int) = cursor + drift) :
    forward drift (done ++ source.sliceFrom cursor) es = done ++ patched source cursor es := by
  induction es generalizing cursor drift done with
  | nil => rfl
  | cons e es ih =>
      obtain ⟨hstart, hstop, hrest⟩ := h
      have hstart0 : 0 ≤ e.range.start := Int.le_trans hcursor hstart
      have hkept := length_slice hcursor hstart (Int.le_trans hstop hrest.cursor_le)
      have hcovered := length_slice hstart0 hstop hrest.cursor_le
      have hdelta := delta_of_le hstop
      have hstep : (e.moved drift).rewrite (done ++ source.sliceFrom cursor) =
          done ++ source.slice cursor e.range.start ++ e.text ++
            source.sliceFrom e.range.stop := by
        rw [sliceFrom_eq_append hcursor hstart, sliceFrom_eq_append hstart0 hstop,
          ← List.append_assoc, ← List.append_assoc]
        refine rewrite_append ?_ ?_ <;> simp only [moved, List.length_append] <;> omega
      rw [forward, hstep, ih _ (by omega) hrest, patched]
      · simp only [List.append_assoc]
      · simp only [List.length_append]
        omega

/-- **The sweep makes the edits one by one.**  Edits that lie within the text, in order and apart
from each other, give the same text when they are swept over it, when they are made from the last to
the first, and when they are made from the first to the last, each moved by the deltas of those
before it. -/
theorem applyAll_eq_one_by_one
    (hes : ∀ e ∈ es, 0 ≤ e.range.start ∧ e.range.start ≤ e.range.stop ∧
      e.range.stop ≤ (source.length : Int))
    (hapart : es.Pairwise fun a b => a.range.stop ≤ b.range.start) :
    applyAll source es = .ok ⟨!es.isEmpty, backward source es⟩ ∧
      backward source es = forward 0 source es := by
  have horder : InOrder source.length 0 es :=
    inOrder_of_pairwise (Int.natCast_nonneg _) hes hapart
  have hnone : source.slice 0 0 = [] := by simp [Text.slice]
  have hbackward : backward source es = patched source 0 es := by
    rw [backward_eq (Int.le_refl 0) horder, hnone, List.nil_append]
  have hforward : forward 0 source es = patched source 0 es :=
    forward_eq [] (Int.le_refl 0) horder rfl
  rw [applyAll, sweep_eq_ok horder, hbackward, hforward]
  exact ⟨rfl, rfl⟩

/-- Two insertions at one offset, and two adjacent edits behind them. -/
theorem one_by_one_of_insertions :
    let source := "0123456789".toList
    let es : List Edit := [⟨⟨3, 3⟩, "ab".toList⟩, ⟨⟨3, 3⟩, "c".toList⟩, ⟨⟨3, 5⟩, []⟩,
      ⟨⟨5, 8⟩, "vwxyz".toList⟩]
    (∀ e ∈ es, 0 ≤ e.range.start ∧ e.range.start ≤ e.range.stop ∧
        e.range.stop ≤ (source.length : Int)) ∧
      (es.Pairwise fun a b => a.range.stop ≤ b.range.start) ∧
      applyAll source es = .ok ⟨true, "012abcvwxyz89".toList⟩ ∧
      backward source es = "012abcvwxyz89".toList ∧
      forward 0 source es = "012abcvwxyz89".toList := by
  intro source es
  have hes : ∀ e ∈ es, 0 ≤ e.range.start ∧ e.range.start ≤ e.range.stop ∧
      e.range.stop ≤ (source.length : Int) := by decide
  have hapart : es.Pairwise fun a b => a.range.stop ≤ b.range.start := by decide
  obtain ⟨hsweep, hways⟩ := applyAll_eq_one_by_one hes hapart
  have hbackward : backward source es = "012abcvwxyz89".toList := by decide
  rw [← hways, hsweep, hbackward]
  exact ⟨hes, hapart, rfl, rfl, rfl⟩

end SolidityLint.Edit
