import SolidityLint.Diagnostic

/-!
# Rule levels

The settings give each rule a level: off, a warning, or an error.
-/

namespace SolidityLint

/-- What the settings ask of a rule. -/
inductive Level where
  | off
  | warn
  | error
  deriving DecidableEq, Repr

namespace Level

/-- The name of a level in the settings. -/
def name : Level → Text
  | off => "off".toList
  | warn => "warn".toList
  | error => "error".toList

/-- All levels, in the order in which messages list them. -/
def all : List Level :=
  [off, warn, error]

/-- The level of a given name. -/
def ofName? (s : Text) : Option Level :=
  all.find? fun level => level.name == s

theorem ofName?_name (level : Level) : ofName? level.name = some level := by
  cases level <;> decide

/-- The severity of the findings of a rule at a level; a rule that is off finds nothing. -/
def severity? : Level → Option Severity
  | off => none
  | warn => some .warning
  | error => some .error

/-- The level at which a rule runs where the settings name none. -/
def ofSeverity : Severity → Level
  | .warning => warn
  | .error => error

end Level

end SolidityLint
