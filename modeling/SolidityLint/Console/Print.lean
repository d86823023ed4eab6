import SolidityLint.Console.Box
import SolidityLint.Console.Markup
import SolidityLint.Console.Wrap
import SolidityLint.Present.Format

/-!
# Printing on a console

A text is printed with pictures for their names, without the characters that a console drops, and
with spaces for tabs; a styled text keeps the names of pictures.  An empty text prints nothing.
Only a line with markup is wrapped where it is too long, and the styles of what it shows must not
hold a colour with an empty part.
-/

namespace SolidityLint.Console

/-- A text with the line feed that ends it. -/
def line (s : Text) : Text :=
  s ++ ['\n']

/-- What printing a text shows. -/
def printText (s : Text) : Text :=
  if s.isEmpty then [] else line (withPictures s).withoutSwallowed.expandTabs

/-- What printing a styled text shows. -/
def printPieces (ps : List Piece) : Text :=
  line (Piece.plain ps).expandTabs

/-- What printing a line with markup shows. -/
def printMarkup (s : Text) : Except MarkupError Text := do
  let lines := (← Markup.render s).lines .fold consoleWidth
  if lines.any fun l => l.spans.any fun span => TagStyle.hasEmptyNumber span.style then
    throw .emptyNumber
  return lines.flatMap fun l => line (l.shown consoleWidth)

/-- What printing a presentation shows. -/
def print : Presentation → Text
  | .plain s => printText s
  | .styled ps => printPieces ps
  | .grid g => (Box.lines g).flatMap line

end SolidityLint.Console
