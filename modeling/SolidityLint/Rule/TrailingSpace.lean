import SolidityLint.Rule.Basic

/-!
# No white space at the end of a line

The rule reports the spaces and tabs at the end of the content of a line; its repair removes
them.
-/

namespace SolidityLint.Rule

/-- The content of a line without the spaces and tabs at its end. -/
def withoutTrailingSpace (content : Text) : Text :=
  content.trimEnd Text.isSpaceOrTab

/-- The finding in one line: the spaces and tabs at its end, if there are any. -/
def trailingSpaceIn (l : Line) : Option Finding :=
  let kept := withoutTrailingSpace l.content
  if kept.length = l.content.length then none
  else
    some (.removing "Trailing whitespace not allowed".toList
      ⟨((l.start + kept.length : Nat) : Int), (l.stop : Int)⟩)

/-- The rule against spaces and tabs at the end of a line. -/
def trailingSpace : Rule where
  id := "no-trailing-whitespace".toList
  description := "Disallow trailing whitespace at the end of lines".toList
  defaultSeverity := .warning
  isFixable := true
  check _ source := .ok (source.lines.filterMap trailingSpaceIn)

end SolidityLint.Rule
