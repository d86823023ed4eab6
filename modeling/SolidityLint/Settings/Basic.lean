import SolidityLint.Rule.Basic
import SolidityLint.Settings.Level

/-!
# Settings

The settings say at which level each rule runs, which files are never linted, which files of a
directory are, the limits of the rules, and how reports are presented.
-/

namespace SolidityLint

/-- The settings of a run. -/
structure Settings where
  /-- The levels given to rules, by rule identifier, in the order in which they were given. -/
  rules : List (Text × Level) := []
  /-- The patterns of files that are never linted. -/
  excluded : List Text := []
  /-- The suffixes of the files that are linted when a directory is. -/
  extensions : List Text := [".sol".toList]
  /-- The limits of the rules. -/
  limits : Limits := {}
  /-- The name of the presentation of reports. -/
  formatter : Text := "stylish".toList
  deriving DecidableEq, Repr

namespace Settings

/-- The level that the settings give to a rule. -/
def level? (s : Settings) (id : Text) : Option Level :=
  s.rules.lookup id

/-- Settings a run can use: patterns that are not empty, at least one suffix, each with a dot in
front, lines of at least one character, and the name of a presentation. -/
structure Valid (s : Settings) : Prop where
  excluded_ne_nil : ∀ p ∈ s.excluded, p ≠ []
  extensions_ne_nil : s.extensions ≠ []
  extensions_dot : ∀ e ∈ s.extensions, ∃ rest, e = '.' :: rest
  one_le_lineLength : 1 ≤ s.limits.lineLength
  formatter_ne_nil : s.formatter ≠ []

end Settings

end SolidityLint
