import SolidityLint.Text.Control

/-!
# Styled texts

A styled text is put together from pieces, some of which have a style.  It is known by its
characters and by the spans that have a style; a piece without characters makes no span.
-/

namespace SolidityLint

/-- A style of a piece of text. -/
inductive Style where
  | underline
  | dim
  | red
  | yellow
  | boldRed
  | boldYellow
  deriving DecidableEq, Repr

namespace Style

/-- The name of a style. -/
def name : Style → Text
  | underline => "underline".toList
  | dim => "dim".toList
  | red => "red".toList
  | yellow => "yellow".toList
  | boldRed => "bold red".toList
  | boldYellow => "bold yellow".toList

end Style

/-- A piece of text, perhaps with a style. -/
structure Piece where
  /-- The style. -/
  style : Option Style
  /-- The characters. -/
  text : Text
  deriving DecidableEq, Repr

/-- A part of a text that has a style. -/
structure Span where
  /-- Where the part starts. -/
  start : Nat
  /-- Where the part stops. -/
  stop : Nat
  /-- Its style. -/
  style : Style
  deriving DecidableEq, Repr

namespace Piece

/-- The characters of pieces as a console shows them. -/
def plain (ps : List Piece) : Text :=
  ps.flatMap fun p => p.text.withoutSwallowed

/-- The spans of pieces that start at a given offset.  A piece that had characters has a span even
if the console dropped all of them. -/
def spansFrom (offset : Nat) : List Piece → List Span
  | [] => []
  | p :: ps =>
      let stop := offset + p.text.withoutSwallowed.length
      let rest := spansFrom stop ps
      match p.style, p.text with
      | some style, _ :: _ => ⟨offset, stop, style⟩ :: rest
      | _, _ => rest

/-- The spans of pieces. -/
def spans (ps : List Piece) : List Span :=
  spansFrom 0 ps

end Piece

end SolidityLint
