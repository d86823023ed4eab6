import SolidityLint.Text.Width

/-!
# Graphemes

A grapheme is a character together with what is shown in its place: the characters without cells
behind it, and those that a joiner joins to it.  A text is cut between graphemes only, and cutting
it into graphemes loses nothing (`flatten_graphemes`).
-/

namespace SolidityLint.Text

/-- Characters that are shown together. -/
structure Grapheme where
  /-- The characters. -/
  text : Text
  /-- The number of cells they take. -/
  cells : Nat
  deriving DecidableEq, Repr

namespace Grapheme

/-- The grapheme with a character behind it that takes no cell of its own. -/
def push (g : Grapheme) (c : Char) : Grapheme :=
  { g with text := g.text ++ [c] }

/-- The grapheme with the emoji selector behind it. -/
def select (g : Grapheme) (last : Option Char) : Grapheme :=
  { g.push emojiSelector with cells := g.cells + if last.any isWidened then 1 else 0 }

theorem text_push (g : Grapheme) (c : Char) : (g.push c).text = g.text ++ [c] := rfl

theorem text_select (g : Grapheme) (last : Option Char) :
    (g.select last).text = g.text ++ [emojiSelector] := rfl

end Grapheme

/-- The graphemes of a text behind a grapheme that may go on; `last` is the last character with
cells. -/
def graphemesAfter (g : Grapheme) (last : Option Char) : Text → List Grapheme
  | [] => [g]
  | c :: s =>
      if c = joiner then
        match s with
        | [] => [g.push c]
        | d :: s => graphemesAfter ((g.push c).push d) last s
      else if c = emojiSelector then
        graphemesAfter (g.select last) (if last.any isWidened then none else last) s
      else if cellsOf c = 0 then graphemesAfter (g.push c) last s
      else g :: graphemesAfter ⟨[c], cellsOf c⟩ (some c) s

/-- The graphemes of a text.  Characters without cells at its start are graphemes as well. -/
def graphemes : Text → List Grapheme
  | [] => []
  | c :: s => graphemesAfter ⟨[c], cellsOf c⟩ (if cellsOf c = 0 then none else some c) s

/-! ## Nothing is lost -/

theorem flatten_graphemesAfter (g : Grapheme) (last : Option Char) (s : Text) :
    (graphemesAfter g last s).flatMap (·.text) = g.text ++ s := by
  fun_induction graphemesAfter g last s with
  | case1 => simp
  | case2 => simp [Grapheme.text_push]
  | case3 _ _ _ _ ih => simp [ih, Grapheme.text_push]
  | case4 _ _ _ _ ih => simp [ih, Grapheme.text_select]
  | case5 _ _ _ _ _ _ _ ih => simp [ih, Grapheme.text_push]
  | case6 _ _ _ _ _ _ _ ih => simp [ih]

theorem flatten_graphemes (s : Text) : (graphemes s).flatMap (·.text) = s := by
  cases s with
  | nil => rfl
  | cons c s => exact flatten_graphemesAfter ..

/-! ## Cutting a text at a number of cells -/

/-- As many of the first graphemes as fit into a number of cells, and a blank in place of one that
fits only in part. -/
def cropGraphemes : Nat → List Grapheme → Text
  | 0, _ => []
  | _ + 1, [] => []
  | n + 1, g :: gs =>
      if g.cells ≤ n + 1 then g.text ++ cropGraphemes (n + 1 - g.cells) gs else [' ']
termination_by _ gs => gs.length

/-- A text that takes more than a number of cells cut down to it. -/
def crop (width : Nat) (s : Text) : Text :=
  if s.cells ≤ width then s else cropGraphemes width (graphemes s)

/-- Puts graphemes on lines of a width: `line` is what stands on the line so far, and `used` the
number of cells that it takes. -/
def chopGraphemes (width : Nat) (line : Text) (used : Nat) : List Grapheme → List Text
  | [] => if used = 0 then [] else [line]
  | g :: gs =>
      if width < used + g.cells then line :: chopGraphemes width g.text g.cells gs
      else chopGraphemes width (line ++ g.text) (used + g.cells) gs

/-- A text cut into lines of a width. -/
def chop (width : Nat) (s : Text) : List Text :=
  chopGraphemes width [] 0 (graphemes s)

end SolidityLint.Text
