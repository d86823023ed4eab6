import SolidityLint.Text.Blank

/-!
# Physical lines

A source text is cut after every line feed.  A line knows its number, the offset at which it
starts, its content without the line end (a line feed, or a carriage return and a line feed),
and the offset at which the next line starts.  A line feed at the end of the text starts no
further line, and the empty text has one empty line.

* `flatten_cutLines`: cutting loses nothing.
-/

namespace SolidityLint

/-- One physical line of a text. -/
structure Line where
  /-- The number of the line; the first line has number 1. -/
  number : Nat
  /-- The offset of the first character. -/
  start : Nat
  /-- The characters of the line without its end. -/
  content : Text
  /-- The offset at which the next line starts, or the length of the text after the last line. -/
  next : Nat
  deriving DecidableEq, Repr

namespace Line

/-- The offset just after the content. -/
def stop (l : Line) : Nat :=
  l.start + l.content.length

/-- A line is blank when its content consists of blank characters. -/
def isBlank (l : Line) : Bool :=
  l.content.all Text.isBlank

end Line

namespace Text

/-- Cuts a text after every line feed, keeping the line feeds. -/
def cutLines : Text → List Text
  | [] => []
  | c :: cs =>
      if c = '\n' then [c] :: cutLines cs
      else
        match cutLines cs with
        | [] => [[c]]
        | l :: ls => (c :: l) :: ls

theorem flatten_cutLines (s : Text) : (cutLines s).flatten = s := by
  fun_induction cutLines s with
  | case1 => rfl
  | case2 cs ih => simp [ih]
  | case3 c cs _ h ih => simp only [h, List.flatten_nil] at ih; simp [← ih]
  | case4 c cs _ l ls h ih => simp only [h, List.flatten_cons] at ih; simp [← ih]

/-- Drops the last character if it is `c`. -/
def dropLastIf (c : Char) (s : Text) : Text :=
  if s.getLast? = some c then s.dropLast else s

/-- A cut piece without its line end. -/
def withoutEnd (piece : Text) : Text :=
  dropLastIf '\r' (dropLastIf '\n' piece)

/-- Numbers and places the pieces of a text, from line `number` at offset `start` on. -/
def placeLines (number start : Nat) : List Text → List Line
  | [] => []
  | piece :: rest =>
      ⟨number, start, withoutEnd piece, start + piece.length⟩ ::
        placeLines (number + 1) (start + piece.length) rest

/-- The physical lines of a source text. -/
def lines (source : Text) : List Line :=
  match cutLines source with
  | [] => [⟨1, 0, [], 0⟩]
  | pieces => placeLines 1 0 pieces

end Text

end SolidityLint
