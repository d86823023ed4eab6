import SolidityLint.Proofs.Pass.Fixpoint

/-!
# Passes leave the code alone

The code of a text is what stands between the first and the last character of its lines, where
these are not blank (`Text.codeLines`).  No pass changes it, and so no number of passes does
(`codeLines_iterate_fixed`): a line that is removed is blank, a line that is tidied loses and gains
white space at its ends only, and the line feed put behind the last line starts no line with code.
-/

namespace SolidityLint

namespace Text

/-- The lines of a text that are not blank, without the white space at their ends. -/
def codeLines (source : Text) : List Text :=
  (source.lines.filter fun l => !l.isBlank).map fun l => strip l.content

/-- The pieces that are not blank, without the white space at their ends. -/
def codePieces (ps : List Text) : List Text :=
  (ps.filter fun p => !p.isBlankPiece).map strip

theorem codePieces_cons (p : Text) (ps : List Text) :
    codePieces (p :: ps) = codePieces [p] ++ codePieces ps := by
  rw [codePieces, codePieces, codePieces, ← List.map_append, ← List.filter_append]
  rfl

theorem codePieces_append (ps qs : List Text) :
    codePieces (ps ++ qs) = codePieces ps ++ codePieces qs := by
  rw [codePieces, List.filter_append, List.map_append]
  rfl

theorem codePieces_singleton_of_isBlank {p : Text} (h : p.isBlankPiece = true) :
    codePieces [p] = [] := by
  simp [codePieces, h]

theorem map_strip_placeLines (n o : Nat) (ps : List Text) :
    ((placeLines n o ps).filter fun l => !l.isBlank).map (fun l => strip l.content) =
      codePieces ps := by
  induction ps generalizing n o with
  | nil => rfl
  | cons p ps ih =>
      rw [codePieces_cons, ← ih (n + 1) (o + p.length), placeLines, List.filter_cons,
        Repairs.isBlank_placed]
      cases h : p.isBlankPiece with
      | true => simp [codePieces, h]
      | false => simp [codePieces, h, Repairs.strip_withoutEnd]

theorem codeLines_eq (source : Text) : source.codeLines = codePieces (cutLines source) := by
  rw [codeLines, lines_eq_placeLines, map_strip_placeLines, pieces]
  split
  · rename_i h
    rw [h]
    rfl
  · rfl

end Text

namespace Repairs

variable {r : Repairs} {before : Nat} {dropping dropped : Bool} {piece : Text}

/-- What is left of a line has the code of the line. -/
theorem codePieces_remainder (h : dropped = true → piece.isBlankPiece = true) :
    Text.codePieces (r.remainder dropped piece) = Text.codePieces [piece] := by
  cases dropped with
  | true =>
      have hblank : (r.closing piece).isBlankPiece = true := isBlankPiece_append_closing [] piece
      rw [Text.codePieces_singleton_of_isBlank (h rfl), remainder]
      simp only [if_true, List.nil_append]
      split
      · rfl
      · exact Text.codePieces_singleton_of_isBlank hblank
  | false =>
      have hstrip : Text.strip (r.tidy piece ++ r.closing piece) = Text.strip piece := by
        rw [Text.strip_append _ fun c hc => isBlank_of_mem_closing hc, strip_tidy]
      have hblank : (r.tidy piece ++ r.closing piece).isBlankPiece = piece.isBlankPiece := by
        rw [isBlankPiece_append_closing, isBlankPiece_tidy]
      rw [remainder]
      simp only [Bool.false_eq_true, if_false]
      split
      · rename_i hnil
        rw [hnil] at hblank
        exact (Text.codePieces_singleton_of_isBlank hblank.symm).symm
      · simp [Text.codePieces, List.filter_cons, hblank, hstrip, apply_ite (List.map Text.strip)]

theorem codePieces_rewriteFrom (ps : List Text) :
    Text.codePieces (r.rewriteFrom before dropping ps) = Text.codePieces ps := by
  induction ps generalizing before dropping with
  | nil => rfl
  | cons p ps ih =>
      have hdrops : r.drops before dropping p = true → p.isBlankPiece = true := by
        intro h
        simp only [drops, Bool.and_eq_true] at h
        exact h.1.2
      rw [rewriteFrom, Text.codePieces_append, codePieces_remainder hdrops, ih,
        ← Text.codePieces_cons]

end Repairs

namespace Linter

variable {s : Settings} {l : Linter}

theorem codeLines_fixed (h : ofSettings Rule.catalogue s = .ok l) (path source : Text) :
    Text.codeLines (l.fixed path source) = source.codeLines := by
  rw [Text.codeLines_eq, cutLines_fixed h, Repairs.rewrite, Repairs.codePieces_rewriteFrom,
    Text.codeLines_eq]

/-- **Passes leave the code alone**: no line with code is lost, added, joined with another, split
or moved, and none is changed between its first and its last character. -/
theorem codeLines_iterate_fixed (h : ofSettings Rule.catalogue s = .ok l) (path source : Text)
    (n : Nat) : Text.codeLines ((l.fixed path)^[n] source) = source.codeLines := by
  induction n with
  | zero => rfl
  | succ n ih => rw [Function.iterate_succ_apply', codeLines_fixed h, ih]

/-- Two lines with code, among white space that hides carriage returns. -/
theorem codeLines_of_hidden_return :
    Text.codeLines ((standard.fixed [])^[3] "\t\r\ta \n\n\n\r b\r".toList) =
      [['a'], ['b']] := by
  rw [codeLines_iterate_fixed ofSettings_standard]
  decide

end Linter

end SolidityLint
