import SolidityLint.Rule.Basic

/-!
# A newline at the end of the text

The rule reports a text that is not empty and does not end in a line feed; its repair inserts
one at the end.
-/

namespace SolidityLint.Rule

/-- The finding in a text: the missing line feed at its end, if it is missing. -/
def missingNewlineIn (source : Text) : Option Finding :=
  if source = [] ∨ source.getLast? = some '\n' then none
  else
    some
      { message := "Newline required at end of file".toList
        location := ⟨source.length, source.length⟩
        fix := some (.ofFactory fun f => f.insertAfter ⟨0, source.length⟩ ['\n']) }

/-- The rule for a line feed at the end of the text. -/
def finalNewline : Rule where
  id := "eol-last".toList
  description := "Require a newline at the end of the file".toList
  defaultSeverity := .warning
  isFixable := true
  check _ source := .ok (missingNewlineIn source).toList

end SolidityLint.Rule
