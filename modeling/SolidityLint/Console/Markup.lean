import SolidityLint.Console.Literal
import SolidityLint.Console.MarkedText
import SolidityLint.Console.Picture
import SolidityLint.Console.TagStyle
import SolidityLint.Text.Control

/-!
# Markup

In a line with markup a word in square brackets is a tag: it opens a style, or, after a slash,
closes one, and is not shown.  A tag starts with a lower-case letter, a number sign, a slash or an
at sign; a backslash before it makes it plain text.  The name of a tag, up to an equals sign,
counts by its style.  A closing tag must match a tag that is open, and a parameter of a tag whose
name starts with an at sign must be a literal once the tag is closed.  The text that is shown is
marked with a span for every tag.
-/

namespace SolidityLint.Console

/-- A piece of a line with markup. -/
inductive MarkupPiece where
  /-- Text that is shown. -/
  | text (s : Text)
  /-- A tag, by what stands between its brackets. -/
  | tag (s : Text)
  deriving DecidableEq, Repr

/-- Why a line with markup cannot be shown. -/
inductive MarkupError where
  /-- A closing tag matches no open one. -/
  | unmatched (tag : Text)
  /-- The parameter of a tag is no literal. -/
  | badParameter (parameter : Text)
  /-- A part of a colour is empty where a number is expected. -/
  | emptyNumber
  deriving DecidableEq, Repr

namespace MarkupError

/-- The message that reports a line with markup that cannot be shown. -/
def message : MarkupError → Text
  | unmatched tag => "No open tag matches ".toList ++ ('[' :: tag ++ [']'])
  | badParameter parameter => "Not a literal: ".toList ++ parameter
  | emptyNumber => "invalid literal for int() with base 10: ''".toList

end MarkupError

/-- A tag that is open. -/
structure OpenTag where
  /-- The number of characters that are shown before it. -/
  start : Nat
  /-- The normal form of its name. -/
  name : Text
  /-- What follows the equals sign; empty if there is none. -/
  parameter : Text
  deriving DecidableEq, Repr

namespace OpenTag

/-- May a tag be closed?  A parameter must be a literal if the name starts with an at sign. -/
def mayClose (t : OpenTag) : Bool :=
  t.name.head? != some '@' || t.parameter.isEmpty || Literal.isParameter t.parameter

/-- The span of a tag that ends behind a number of characters. -/
def span (stop : Nat) (t : OpenTag) : Span :=
  ⟨t.start, stop, t.name ++ ' ' :: t.parameter⟩

end OpenTag

namespace Markup

/-- Can a tag start with `c`? -/
def startsTag (c : Char) : Bool :=
  c.isLower || c == '#' || c == '/' || c == '@'

/-- Is `c` no square bracket? -/
def isInside (c : Char) : Bool :=
  c != '[' && c != ']'

/-- What stands between the brackets of a tag at the start of a text, and the rest. -/
def tag? : Text → Option (Text × Text)
  | '[' :: c :: s =>
      if startsTag c then
        match s.dropWhile isInside with
        | ']' :: rest => some (c :: s.takeWhile isInside, rest)
        | _ => none
      else none
  | _ => none

theorem length_rest_of_tag? {s inside rest : Text} (h : tag? s = some (inside, rest)) :
    rest.length < s.length := by
  unfold tag? at h
  split at h
  · next c r =>
    split at h
    · split at h
      · next r' hr =>
        simp only [Option.some.injEq, Prod.mk.injEq] at h
        have h1 := (List.dropWhile_suffix isInside (l := r)).length_le
        rw [hr, h.2] at h1
        simp only [List.length_cons] at h1 ⊢
        omega
      · simp at h
    · simp at h
  · simp at h

/-- A backslash. -/
def isBackslash (c : Char) : Bool :=
  c == '\\'

/-- The text read so far as a piece, if there is any. -/
def flush (read : Text) : List MarkupPiece :=
  if read.isEmpty then [] else [.text read.reverse]

/-- The pieces that a tag after backslashes makes: two backslashes stand for one, and a single one
makes the tag plain text. -/
def escapedTag (backslashes : Nat) (inside : Text) : List MarkupPiece :=
  (if backslashes / 2 = 0 then [] else [.text (List.replicate (backslashes / 2) '\\')]) ++
    [if backslashes % 2 = 0 then .tag inside else .text ('[' :: inside ++ [']'])]

/-- The pieces of a line, given the text read so far in reverse. -/
def piecesFrom (read : Text) : Text → List MarkupPiece
  | [] => flush read
  | c :: s =>
      match h : tag? ((c :: s).dropWhile isBackslash) with
      | some (inside, rest) =>
          have : rest.length < (c :: s).length :=
            Nat.lt_of_lt_of_le (length_rest_of_tag? h)
              (List.dropWhile_suffix isBackslash (l := c :: s)).length_le
          flush read ++ escapedTag ((c :: s).takeWhile isBackslash).length inside ++
            piecesFrom [] rest
      | none => piecesFrom (c :: read) s
termination_by s => s.length
decreasing_by
  · exact this
  · exact Nat.lt_succ_self s.length

/-- The pieces of a line. -/
def pieces (s : Text) : List MarkupPiece :=
  piecesFrom [] s

/-- A text without the backslashes before its opening brackets. -/
def unescape : Text → Text
  | '\\' :: '[' :: s => '[' :: unescape s
  | c :: s => c :: unescape s
  | [] => []

/-- The normal form of a name. -/
def normalName (name : Text) : Except MarkupError Text :=
  match TagStyle.normalName name with
  | .ok normal => .ok normal
  | .error _ => .error .emptyNumber

/-- The normal form of a name behind a slash; empty if there is none. -/
def closedName (name : Text) : Except MarkupError Text :=
  if name.strip.isEmpty then .ok [] else normalName name.strip

/-- What is known behind a piece of a line. -/
structure Progress where
  /-- What is shown so far, with the spans of the tags that are closed. -/
  shown : MarkedText
  /-- The tags that are open, the innermost one first. -/
  opened : List OpenTag
  deriving DecidableEq, Repr

namespace Progress

/-- Shows a text. -/
def addText (s : Text) (p : Progress) : Progress :=
  { p with shown := { p.shown with text := p.shown.text ++ s } }

/-- Opens a tag. -/
def openTag (name parameter : Text) (p : Progress) : Progress :=
  { p with opened := ⟨p.shown.text.length, name, parameter⟩ :: p.opened }

/-- Closes a tag of a name, or the innermost one if no name is given; `inside` is what stands
between the brackets. -/
def closeTag (inside name : Text) (p : Progress) : Except MarkupError Progress :=
  match p.opened.find? fun t => name.isEmpty || t.name == name with
  | none => .error (.unmatched inside)
  | some t =>
      if t.mayClose then
        let span := t.span p.shown.text.length
        .ok ⟨{ p.shown with spans := span :: p.shown.spans }, p.opened.erase t⟩
      else .error (.badParameter t.parameter)

/-- Reads a tag, by what stands between its brackets. -/
def passTag (inside : Text) (p : Progress) : Except MarkupError Progress :=
  match inside.takeWhile (· ≠ '=') with
  | '/' :: name => do p.closeTag inside (← closedName name)
  | name => do
      return p.openTag (← normalName name) ((inside.dropWhile (· ≠ '=')).drop 1)

/-- Reads a piece of a line. -/
def pass (p : Progress) : MarkupPiece → Except MarkupError Progress
  | .text s => .ok (p.addText (withPictures (unescape s)).withoutSwallowed)
  | .tag inside => p.passTag inside

/-- What is shown in the end.  The tags that are still open go on to the last character. -/
def result (p : Progress) : MarkedText :=
  { p.shown with spans := p.opened.map (OpenTag.span p.shown.text.length) ++ p.shown.spans }

end Progress

/-- What a line with markup shows. -/
def render (s : Text) : Except MarkupError MarkedText :=
  ((pieces s).foldlM Progress.pass ⟨⟨[], []⟩, []⟩).map Progress.result

end Markup

end SolidityLint.Console
