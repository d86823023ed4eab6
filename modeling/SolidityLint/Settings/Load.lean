import SolidityLint.Files.Nearest
import SolidityLint.Settings.File
import SolidityLint.Settings.Validate
import SolidityLint.Text.Numeral
import SolidityLint.Toml.Document

/-!
# Loading settings

Settings are merged from four layers, of which a later one wins: the section of the nearest
project file, the settings file that is named or else the nearest one, the environment, and the
overrides of a command.  A file that was merely found and is no document counts as empty; one that
was named has to be there and to be a document.
-/

namespace SolidityLint

/-- The part of the environment that settings come from. -/
structure Environment where
  /-- The name of the presentation. -/
  formatter : Option Text := none
  /-- The greatest length of a line, as it is written. -/
  lineLength : Option Text := none
  deriving DecidableEq, Repr

/-- Why no settings were loaded. -/
inductive LoadError where
  /-- The settings file that was named is missing or no document. -/
  | file (error : SettingsFileError)
  /-- A path that is given cannot be looked up. -/
  | path (error : FileError)
  /-- A settings file is not UTF-8. -/
  | notUtf8 (error : Utf8.DecodeError)
  /-- A settings file holds an integer with more digits than are read. -/
  | tooManyDigits (count : Nat)
  /-- Lists and tables in a settings file are nested too deeply. -/
  | tooDeep
  /-- The section of a project file is not a table. -/
  | sectionNotTable
  /-- The environment gives a length that is not an integer. -/
  | lineLengthNotInteger (given : Text)
  /-- The layers cannot be merged. -/
  | unmergeable (error : MergeError)
  /-- The merged layers are not settings. -/
  | settings (error : SettingsError)
  deriving Repr

namespace LoadError

/-- The message that reports why no settings were loaded, for the faults that have one. -/
def message? : LoadError → Option Text
  | file error => some error.message
  | path error => if error.fault = .nullCharacter then some error.message else none
  | notUtf8 error => some error.message
  | tooManyDigits count => some (Toml.Fault.tooManyDigits count).message
  | lineLengthNotInteger given =>
      some ("SOLLINT_MAX_LINE_LENGTH must be an integer, got '".toList ++ given ++ "'".toList)
  | settings (.invalid reason) => some reason.message
  | settings (.unknownField _) | settings (.noElements _) | tooDeep | sectionNotTable
  | unmergeable _ => none

end LoadError

namespace Settings

/-- The name of a settings file. -/
def fileName : Text := ".sollintrc".toList

/-- The name of a project file. -/
def projectFileName : Text := "pyproject.toml".toList

/-- What the bytes of a settings file describe; nothing if they are no document. -/
def document? (bytes : Bytes) : Except LoadError (Option Table) :=
  match Utf8.decode bytes with
  | .error error => .error (.notUtf8 error)
  | .ok source =>
      match Toml.Document.read source with
      | .ok t => .ok (some t)
      | .error .malformed => .ok none
      | .error (.tooManyDigits count) => .error (.tooManyDigits count)
      | .error .tooDeep => .error .tooDeep

/-- What the nearest file of a name describes; nothing if there is none or it is no document. -/
def nearestDocument (t : Tree) (name : Text) (start : Option Path) : Except LoadError Table :=
  match t.nearestFrom (.ofText name) start with
  | .error error => .error (.path error)
  | .ok none => .ok []
  | .ok (some path) =>
      match t.read path with
      | .error _ => .ok []
      | .ok bytes => (document? bytes).map (·.getD [])

/-- The section of a project file. -/
def projectSection (project : Table) : Except LoadError Table :=
  match project.get? "tool".toList with
  | none => .ok []
  | some (.table tool) =>
      match Table.get? tool "sollint".toList with
      | none => .ok []
      | some (.table fields) => .ok fields
      | some _ => .error .sectionNotTable
  | some _ => .error .sectionNotTable

/-- What the settings file of a given path describes. -/
def namedDocument (t : Tree) (path : Path) : Except LoadError Table :=
  match t.read path with
  | .error error =>
      .error (if error.fault = .tooLong then .path error else .file ⟨path, .noSettingsFile⟩)
  | .ok bytes => do
      match ← document? bytes with
      | some fields => return fields
      | none => throw (.file ⟨path, .malformed⟩)

/-- The settings that the environment gives. -/
def ofEnvironment (e : Environment) : Except LoadError Table := do
  let formatter : Table := match e.formatter with
    | none => []
    | some name => [(Field.formatter.name, .text name)]
  match e.lineLength with
  | none => return formatter
  | some given =>
      match given.integer? with
      | none => throw (.lineLengthNotInteger given)
      | some n => return formatter ++ [(Field.lineLength.name, .int n)]

/-- The layers of settings, from the first to the last. -/
def layers (t : Tree) (e : Environment) (start named : Option Path) (overrides : Table) :
    Except LoadError (List Table) := do
  let project ← projectSection (← nearestDocument t projectFileName start)
  let file ← match named with
    | some path => namedDocument t path
    | none => nearestDocument t fileName start
  let environment ← ofEnvironment e
  return [project.onlyFields, file.onlyFields, environment, overrides.onlyFields]

/-- The settings that all layers give. -/
def load (t : Tree) (e : Environment) (start named : Option Path) (overrides : Table) :
    Except LoadError Settings := do
  match Table.merge (← layers t e start named overrides) with
  | .error error => throw (.unmergeable error)
  | .ok merged =>
      match ofTable merged with
      | .error error => throw (.settings error)
      | .ok settings => return settings

end Settings

end SolidityLint
