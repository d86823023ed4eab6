import Mathlib.Data.List.Pairwise
import SolidityLint.Proofs.Text.Pieces

/-!
# Where the lines of a text lie

The lines of a text are its pieces, numbered and placed one behind the other
(`lines_eq_placeLines`).

* `bounds_of_mem_lines`: a line lies within the text, and its content within the line.
* `pairwise_lines`: it ends before the next one starts.
* `map_slice_lines`: from the start of a line to that of the next one the text holds its piece.
-/

namespace SolidityLint.Text

/-! ## The lines of a text and its pieces -/

/-- The pieces that the lines of a text are made of: the empty text has one empty line. -/
def pieces (source : Text) : List Text :=
  if source = [] then [[]] else cutLines source

theorem lines_eq_placeLines (source : Text) : source.lines = placeLines 1 0 source.pieces := by
  rw [pieces]
  split
  · rename_i h
    rw [h]
    rfl
  · rename_i h
    rw [lines]
    split
    · rename_i hcut
      exact absurd (cutLines_eq_nil_iff.1 hcut) h
    · rfl

theorem lines_of_ne_nil {source : Text} (hne : source ≠ []) :
    source.lines = placeLines 1 0 (cutLines source) := by
  rw [lines_eq_placeLines, pieces, if_neg hne]

theorem flatten_pieces (source : Text) : source.pieces.flatten = source := by
  rw [pieces]
  split
  · rename_i h
    rw [h]
    rfl
  · exact flatten_cutLines source

theorem length_withoutEnd_le (piece : Text) : (withoutEnd piece).length ≤ piece.length := by
  have h := congrArg List.length (withoutEnd_append_lineEnd piece)
  rw [List.length_append] at h
  omega

/-! ## Placed pieces -/

theorem map_content_placeLines (n o : Nat) (ps : List Text) :
    (placeLines n o ps).map (·.content) = ps.map withoutEnd := by
  induction ps generalizing n o with
  | nil => rfl
  | cons p ps ih => rw [placeLines, List.map_cons, List.map_cons, ih]

theorem bounds_of_mem_placeLines {n o : Nat} {ps : List Text} {l : Line}
    (h : l ∈ placeLines n o ps) :
    o ≤ l.start ∧ l.stop ≤ l.next ∧ l.next ≤ o + ps.flatten.length := by
  induction ps generalizing n o with
  | nil => simp [placeLines] at h
  | cons p ps ih =>
      rw [List.flatten_cons, List.length_append]
      rcases List.mem_cons.1 h with rfl | h
      · have hcontent := length_withoutEnd_le p
        simp only [Line.stop]
        omega
      · have hrest := ih h
        omega

theorem pairwise_placeLines (n o : Nat) (ps : List Text) :
    (placeLines n o ps).Pairwise fun a b => a.next ≤ b.start := by
  induction ps generalizing n o with
  | nil => exact .nil
  | cons p ps ih => exact .cons (fun l hl => (bounds_of_mem_placeLines hl).1) (ih ..)

/-- Behind the part of a text that has been read, the lines hold the pieces they are made of. -/
theorem map_slice_placeLines (n : Nat) (front : Text) (ps : List Text) :
    (placeLines n front.length ps).map
      (fun l => (front ++ ps.flatten).slice l.start l.next) = ps := by
  induction ps generalizing n front with
  | nil => rfl
  | cons p ps ih =>
      have hrest := ih (n + 1) (front ++ p)
      rw [List.length_append, List.append_assoc] at hrest
      rw [placeLines, List.map_cons, List.flatten_cons, hrest, slice_natCast, List.drop_left,
        Nat.add_sub_cancel_left, List.take_left]

/-! ## The lines of a text -/

variable {source : Text} {l : Line}

theorem bounds_of_mem_lines (h : l ∈ source.lines) : l.stop ≤ l.next ∧ l.next ≤ source.length := by
  rw [lines_eq_placeLines] at h
  have hbounds := bounds_of_mem_placeLines h
  rw [flatten_pieces] at hbounds
  omega

/-- Every line ends before the next one starts. -/
theorem pairwise_lines (source : Text) : source.lines.Pairwise fun a b => a.next ≤ b.start := by
  rw [lines_eq_placeLines]
  exact pairwise_placeLines ..

theorem map_slice_lines (source : Text) :
    source.lines.map (fun l => source.slice l.start l.next) = source.pieces := by
  have hslices := map_slice_placeLines 1 [] source.pieces
  rw [List.nil_append, flatten_pieces] at hslices
  rw [lines_eq_placeLines]
  exact hslices

end SolidityLint.Text
