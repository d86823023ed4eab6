import SolidityLint.Report

/-!
# Positions in the order of offsets

The position of an offset is a line and a column.  Compared by their lines, and by their columns on
one line, the positions within a text are in the order of the offsets, and no two offsets within it
have the same position (`Text.position_lt`).  An offset outside the text counts as its nearer end
(`Text.clamp`).
-/

namespace SolidityLint.Text

/-- Does the position `a` stand before the position `b`? -/
def StandsBefore (a b : Nat × Nat) : Prop :=
  a.1 < b.1 ∨ a.1 = b.1 ∧ a.2 < b.2

/-- A text that goes on on its last line. -/
theorem positionAfter_append {before more : Text} (h : '\n' ∉ more) :
    positionAfter (before ++ more) =
      ((positionAfter before).1, (positionAfter before).2 + more.length) := by
  have hmore : ∀ c ∈ more.reverse, decide (c ≠ '\n') = true := fun c hc =>
    decide_eq_true fun heq => h (heq ▸ List.mem_reverse.1 hc)
  simp only [positionAfter, List.count_append, List.count_eq_zero.2 h, Nat.add_zero,
    List.reverse_append, List.takeWhile_append_of_pos hmore, List.length_append,
    List.length_reverse, Prod.mk.injEq, true_and]
  omega

/-- A text that goes on has a later position at its end. -/
theorem standsBefore_append {before more : Text} (h : more ≠ []) :
    StandsBefore (positionAfter before) (positionAfter (before ++ more)) := by
  by_cases hmore : '\n' ∈ more
  · have hcount := List.count_pos_iff.2 hmore
    refine .inl ?_
    simp only [positionAfter, List.count_append]
    omega
  · have hlength := List.length_pos_iff.2 h
    rw [positionAfter_append hmore]
    exact .inr ⟨rfl, by simp only; omega⟩

/-- The offset within a text that is nearest to an offset. -/
def clamp (source : Text) (offset : Int) : Nat :=
  min offset.toNat source.length

theorem position_clamp (source : Text) (offset : Int) :
    source.position offset = source.position (source.clamp offset) := by
  rw [position, position, clamp, Int.toNat_natCast, List.take_eq_take_min]

/-- Positions are in the order of the offsets within the text. -/
theorem position_lt (source : Text) {a b : Int} (h : source.clamp a < source.clamp b) :
    StandsBefore (source.position a) (source.position b) := by
  rw [position_clamp source a, position_clamp source b]
  generalize ha : source.clamp a = i at h ⊢
  have hj : source.clamp b ≤ source.length := Nat.min_le_right ..
  generalize source.clamp b = j at h hj ⊢
  have hsplit : source.take j = source.take i ++ (source.take j).drop i := by
    have htake := List.take_append_drop i (source.take j)
    rwa [List.take_take, Nat.min_eq_left (Nat.le_of_lt h), eq_comm] at htake
  rw [position, position, Int.toNat_natCast, Int.toNat_natCast, hsplit]
  refine standsBefore_append fun hnil => ?_
  have hlength := congrArg List.length hnil
  rw [List.length_drop, List.length_take, List.length_nil] at hlength
  omega

end SolidityLint.Text
