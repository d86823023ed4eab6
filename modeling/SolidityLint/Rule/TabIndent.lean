import SolidityLint.Rule.Basic

/-!
# No tabs in the indentation

The indentation of a line is the run of spaces and tabs it starts with.  The rule reports an
indentation with a tab in it; its repair turns every tab of it into four spaces.
-/

namespace SolidityLint.Rule

/-- The number of spaces a tab counts for. -/
def tabWidth : Nat := 4

/-- The spaces and tabs a text starts with. -/
def indentOf (content : Text) : Text :=
  content.takeWhile Text.isSpaceOrTab

/-- Turns every tab into spaces. -/
def spacesForTabs (indent : Text) : Text :=
  indent.flatMap fun c => if c = '\t' then List.replicate tabWidth ' ' else [c]

/-- The finding in one line: its indentation, if it has a tab in it. -/
def tabIndentIn (l : Line) : Option Finding :=
  let indent := indentOf l.content
  if '\t' ∈ indent then
    some (.replacing "Tab character used for indentation".toList
      ⟨(l.start : Int), ((l.start + indent.length : Nat) : Int)⟩ (spacesForTabs indent))
  else none

/-- The rule against tabs in the indentation. -/
def tabIndent : Rule where
  id := "no-tabs-indent".toList
  description := "Indent with spaces, a tab counts as ".toList ++ Text.ofNat tabWidth ++
    " spaces".toList
  defaultSeverity := .warning
  isFixable := true
  check _ source := .ok (source.lines.filterMap tabIndentIn)

end SolidityLint.Rule
