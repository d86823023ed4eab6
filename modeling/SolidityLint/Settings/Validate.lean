import SolidityLint.Settings.Basic
import SolidityLint.Settings.Layer

/-!
# Settings from a table of fields

A table of fields becomes settings if every field has a value of the right kind; a field that is
not given has its default.  The checks run in a fixed order, and the first one that fails is
reported.
-/

namespace SolidityLint

/-- A field whose value is of the wrong kind or out of bounds. -/
inductive InvalidField where
  | rulesNotTable
  | notList (field : Field)
  | badLevel (rule : Text) (value : Value)
  | longLevel
  | emptyPattern
  | noExtension
  | badExtension
  | lineLengthNotInteger
  | lineLengthNotPositive
  | blankLinesNotInteger
  | blankLinesNegative
  | noFormatter
  deriving Repr

namespace InvalidField

/-- The message that reports an invalid field. -/
def message : InvalidField → Text
  | rulesNotTable => "rules must be a table of rule id to level".toList
  | notList field => field.name ++ " must be a list of strings".toList
  | badLevel rule value =>
      "rule '".toList ++ rule ++ "' has invalid level '".toList ++ value.display ++
        "' (expected one of: ".toList ++ Text.join ", ".toList (Level.all.map Level.name) ++
        ")".toList
  | longLevel =>
      "Exceeds the limit (4300 digits) for integer string conversion; ".toList ++
        "use sys.set_int_max_str_digits() to increase the limit".toList
  | emptyPattern => "excluded_files must be a list of non-empty strings".toList
  | noExtension => "extensions must not be empty".toList
  | badExtension => "extensions must be strings starting with '.'".toList
  | lineLengthNotInteger => "max_line_length must be an integer".toList
  | lineLengthNotPositive => "max_line_length must be positive".toList
  | blankLinesNotInteger => "max_empty_lines must be an integer".toList
  | blankLinesNegative => "max_empty_lines must not be negative".toList
  | noFormatter => "formatter must be a non-empty string".toList

end InvalidField

/-- Why a table does not become settings. -/
inductive SettingsError where
  /-- A field that settings do not have. -/
  | unknownField (key : Text)
  /-- A value without elements where a list is expected. -/
  | noElements (field : Field)
  /-- A field with a value that is not allowed. -/
  | invalid (reason : InvalidField)
  deriving Repr

namespace Settings

/-- The table of rule levels, if the field is a table. -/
def ruleFields : Option Value → Except SettingsError Table
  | none => .ok []
  | some (.table levels) => .ok levels
  | some _ => .error (.invalid .rulesNotTable)

/-- Refuses a text where a list is expected. -/
def refuseText (field : Field) : Option Value → Except SettingsError Unit
  | some (.text _) => .error (.invalid (.notList field))
  | _ => .ok ()

/-- The elements of a field: those of a list, or the keys of a table. -/
def elements (field : Field) (defaults : List Value) :
    Option Value → Except SettingsError (List Value)
  | none => .ok defaults
  | some (.list vs) => .ok vs
  | some (.table fields) => .ok (fields.map fun f => .text f.1)
  | some _ => .error (.noElements field)

/-- The level that a value names. -/
def levelOf? : Value → Option Level
  | .text s => Level.ofName? s
  | _ => none

/-- What is wrong with a value that names no level. -/
def badLevel (rule : Text) (value : Value) : InvalidField :=
  if value.isShowable then .badLevel rule value else .longLevel

/-- The levels of a table, unless one of its values names none. -/
def levels : Table → Except SettingsError (List (Text × Level))
  | [] => .ok []
  | (rule, value) :: rest =>
      match levelOf? value with
      | none => .error (.invalid (badLevel rule value))
      | some level => (levels rest).map ((rule, level) :: ·)

/-- A text with at least one character. -/
def nonEmptyText? : Value → Option Text
  | .text (c :: cs) => some (c :: cs)
  | _ => none

/-- A text that starts with a dot. -/
def dottedText? : Value → Option Text
  | .text ('.' :: cs) => some ('.' :: cs)
  | _ => none

/-- The texts of a list, if each element passes `read?`. -/
def texts (read? : Value → Option Text) (reason : InvalidField) :
    List Value → Except SettingsError (List Text)
  | [] => .ok []
  | v :: vs =>
      match read? v with
      | none => .error (.invalid reason)
      | some s => (texts read? reason vs).map (s :: ·)

/-- The integer of a field that is at least `least`. -/
def bound (default least : Nat) (notInteger tooSmall : InvalidField) :
    Option Value → Except SettingsError Nat
  | none => .ok default
  | some (.int n) => if n < least then .error (.invalid tooSmall) else .ok n.toNat
  | some _ => .error (.invalid notInteger)

/-- The name of a presentation, which must not be empty. -/
def formatterName (default : Text) : Option Value → Except SettingsError Text
  | none => .ok default
  | some v =>
      match nonEmptyText? v with
      | none => .error (.invalid .noFormatter)
      | some s => .ok s

/-- The settings that the values of the fields describe. -/
def ofGiven (given : Field → Option Value) : Except SettingsError Settings := do
  let defaults : Settings := {}
  let rules ← ruleFields (given .rules)
  refuseText .excluded (given .excluded)
  refuseText .extensions (given .extensions)
  let excluded ← elements .excluded [] (given .excluded)
  let extensions ← elements .extensions (defaults.extensions.map .text) (given .extensions)
  let rules ← levels rules
  let excluded ← texts nonEmptyText? .emptyPattern excluded
  if extensions.isEmpty then throw (.invalid .noExtension)
  let extensions ← texts dottedText? .badExtension extensions
  let lineLength ← bound defaults.limits.lineLength 1 .lineLengthNotInteger .lineLengthNotPositive
    (given .lineLength)
  let blankLines ← bound defaults.limits.blankLines 0 .blankLinesNotInteger .blankLinesNegative
    (given .blankLines)
  let formatter ← formatterName defaults.formatter (given .formatter)
  return { rules, excluded, extensions, limits := { lineLength, blankLines }, formatter }

/-- The settings that a table of fields describes. -/
def ofTable (t : Table) : Except SettingsError Settings :=
  match t.find? fun field => !Field.isName field.1 with
  | some (key, _) => .error (.unknownField key)
  | none => ofGiven fun field => t.get? field.name

end Settings

end SolidityLint
