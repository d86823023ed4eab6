import SolidityLint.Text.Blank
import SolidityLint.Text.Grapheme
import SolidityLint.Text.Tab

/-!
# Wrapped lines

A line that takes more cells than there are is broken between words.  A word goes together with
the blanks behind it, which may stand beyond the last cell.  A word that is wider than a whole
line is either folded, so that it goes on in the next line, or stands on a line of its own and is
cut later.  Breaking a line into its words loses nothing (`flatten_words`).
-/

namespace SolidityLint.Console

/-- The number of cells in a line of the console. -/
def consoleWidth : Nat := 200

/-- What becomes of a word that is wider than a line. -/
inductive Overflow where
  /-- It goes on in the next line. -/
  | fold
  /-- It is cut, and an ellipsis shows that it was. -/
  | ellipsis
  deriving DecidableEq, Repr

namespace Wrap

/-! ## Words -/

/-- Is `c` part of a word? -/
def isInk (c : Char) : Bool :=
  !Text.isBlank c

/-- A word with the blanks behind it, and before it if it is the first one. -/
def firstWord (s : Text) : Text :=
  let afterBlanks := s.dropWhile Text.isBlank
  s.takeWhile Text.isBlank ++ afterBlanks.takeWhile isInk ++
    (afterBlanks.dropWhile isInk).takeWhile Text.isBlank

/-- What follows the first word. -/
def afterFirstWord (s : Text) : Text :=
  ((s.dropWhile Text.isBlank).dropWhile isInk).dropWhile Text.isBlank

theorem firstWord_append (s : Text) : firstWord s ++ afterFirstWord s = s := by
  simp [firstWord, afterFirstWord, List.takeWhile_append_dropWhile]

theorem length_afterFirstWord {c : Char} {s t : Text} (h : s.dropWhile Text.isBlank = c :: t) :
    (afterFirstWord s).length < s.length := by
  have hc : isInk c = true := by
    have := List.head_dropWhile_not Text.isBlank (l := s) (by simp [h])
    simpa [h, isInk] using this
  have h1 : (afterFirstWord s).length ≤ t.length := by
    simp only [afterFirstWord, h, List.dropWhile_cons, hc, ↓reduceIte]
    exact ((List.dropWhile_suffix _).trans (List.dropWhile_suffix _)).length_le
  have h2 := (List.dropWhile_suffix Text.isBlank (l := s)).length_le
  rw [h, List.length_cons] at h2
  omega

/-- The words of a line, if there are any. -/
def words (s : Text) : List Text :=
  match h : s.dropWhile Text.isBlank with
  | [] => []
  | _ :: _ =>
      have : (afterFirstWord s).length < s.length := length_afterFirstWord h
      firstWord s :: words (afterFirstWord s)
termination_by s.length

/-! ## Lines -/

/-- The number of cells of a word without the blanks behind it. -/
def inkCells (word : Text) : Nat :=
  (word.trimEnd Text.isBlank).cells

/-- A line as a list of one, unless it is empty. -/
def nonEmpty (line : Text) : List Text :=
  if line.isEmpty then [] else [line]

/-- Puts words on lines: `line` is what stands on the line so far, and `used` the number of cells
that it takes. -/
def fill (overflow : Overflow) (width : Nat) (line : Text) (used : Nat) : List Text → List Text
  | [] => [line]
  | word :: ws =>
      if used + inkCells word ≤ width then
        fill overflow width (line ++ word) (used + word.cells) ws
      else if width < inkCells word && overflow == .fold then
        let chopped := word.chop width
        let last := chopped.getLastD []
        nonEmpty line ++ chopped.dropLast ++ fill overflow width last last.cells ws
      else nonEmpty line ++ fill overflow width word word.cells ws

/-- The lines that a line is broken into. -/
def breakLine (overflow : Overflow) (width : Nat) (s : Text) : List Text :=
  match words s with
  | [] => [s]
  | ws => fill overflow width [] 0 ws

/-- A line without as many of the blanks at its end as it has characters too many. -/
def dropExcess (width : Nat) (s : Text) : Text :=
  s.take (s.length - min (s.reverse.takeWhile Text.isBlank).length (s.length - width))

/-- A line that takes no more than a number of cells. -/
def cut (overflow : Overflow) (width : Nat) (s : Text) : Text :=
  if s.cells ≤ width then s
  else
    match overflow with
    | .fold => s.crop width
    | .ellipsis => s.crop (width - 1) ++ ['…']

/-- The lines of a text on a console of a width, before they are cut. -/
def lines (overflow : Overflow) (width : Nat) (s : Text) : List Text :=
  (Text.splitOn '\n' s).flatMap fun line =>
    (breakLine overflow width line.expandLineTabs).map (dropExcess width)

/-! ## Nothing is lost between words -/

theorem dropBlanks_dropBlanks (s : Text) :
    (s.dropWhile Text.isBlank).dropWhile Text.isBlank = s.dropWhile Text.isBlank := by
  induction s with
  | nil => rfl
  | cons c s ih => by_cases h : Text.isBlank c <;> simp [h, ih]

theorem dropBlanks_afterFirstWord (s : Text) :
    (afterFirstWord s).dropWhile Text.isBlank = afterFirstWord s :=
  dropBlanks_dropBlanks _

theorem flatten_words {s : Text} (h : words s ≠ []) : (words s).flatten = s := by
  fun_induction words s with
  | case1 s hs => exact absurd rfl h
  | case2 s c t hs _ ih =>
    rw [List.flatten_cons]
    by_cases hw : words (afterFirstWord s) = []
    · have hr : afterFirstWord s = [] := by
        rw [← dropBlanks_afterFirstWord]
        unfold words at hw
        split at hw
        · assumption
        · simp at hw
      have := firstWord_append s
      rw [hr] at this
      rw [hw]
      exact this
    · rw [ih hw, firstWord_append]

end Wrap

end SolidityLint.Console
