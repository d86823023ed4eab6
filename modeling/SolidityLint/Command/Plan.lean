import SolidityLint.Command.Request
import SolidityLint.Command.World
import SolidityLint.Files.Target
import SolidityLint.Linter
import SolidityLint.Present.Format
import SolidityLint.Settings.Ignore

/-!
# Plans

Before anything is repaired or presented a run makes a plan: it loads the settings, finds the
presentation, reads the ignore file, sets up the linter, collects the files and lints them.  The
first of these steps that fails stops the run, and none of them changes a file.
-/

namespace SolidityLint

/-- What a run that lints files has found out before it repairs or presents anything. -/
structure Plan where
  /-- The presentation. -/
  format : Format
  /-- The reports of the files. -/
  reports : List Report

namespace Plan

/-- Why settings that were not loaded stop a run. -/
def stopOfLoadError : LoadError → Stop
  | .file error => .failure Stop.userError ("Cannot load configuration: ".toList ++ error.message)
  | error =>
      match error.message? with
      | some message => .failure Stop.userError ("Invalid configuration: ".toList ++ message)
      | none => .crash (.settings error)

/-- The fields that a command line sets.  An empty name in the environment does not count as one
given on the command line. -/
def overrides (e : Environment) (formatter : Option Text) : Table :=
  match formatter.or (e.formatter.filter fun name => !name.isEmpty) with
  | none => []
  | some name => [(Field.formatter.name, .text name)]

/-- The settings of a run. -/
def settingsOf (w : World) (formatter settingsFile : Option Text) : Except Stop Settings :=
  match Settings.load w.tree w.environment none (settingsFile.map Path.ofText)
      (overrides w.environment formatter) with
  | .ok s => .ok s
  | .error error => .error (stopOfLoadError error)

/-- The presentation that the settings name. -/
def formatOf (s : Settings) : Except Stop Format :=
  match Format.ofName s.formatter with
  | .ok f => .ok f
  | .error error =>
      .error (.failure Stop.userError
        ("There was a problem loading formatter option: ".toList ++ error.message))

/-- The patterns of the ignore file. -/
def ignoredBy (t : Tree) (ignoreFile : Option Text) : Except Stop (List Text) :=
  match Ignore.load t (ignoreFile.map Path.ofText) none with
  | .ok patterns => .ok patterns
  | .error (.file error) =>
      .error (.failure Stop.userError (error.path.text ++ " is not a valid path.".toList))
  | .error (.path error) => .error (.crash (.path error))
  | .error (.notUtf8 error) => .error (.crash (.notUtf8 error))

/-- The linter for the settings. -/
def linterOf (s : Settings) : Except Stop Linter :=
  match Linter.ofSettings Rule.catalogue s with
  | .ok l => .ok l
  | .error error =>
      .error (.failure Stop.userError ("Invalid configuration: ".toList ++ error.message))

/-- The files that a run lints; there must be one. -/
def filesOf (t : Tree) (s : Settings) (ignored targets : List Text) : Except Stop (List Path) :=
  match Target.collect t s ignored none targets with
  | .error error => .error (.crash (.path error))
  | .ok [] =>
      .error (.failure Stop.userError ("No files matching: ".toList ++ Text.join [' '] targets))
  | .ok files => .ok files

/-- The stop of a run that cannot read a file. -/
def unreadable (reason : Text) : Stop :=
  .failure Stop.systemError ("Cannot read source file: ".toList ++ reason)

/-- The report of a file. -/
def reportOf (t : Tree) (l : Linter) (p : Path) : Except Stop Report :=
  match t.read p with
  | .error error => .error (unreadable error.message)
  | .ok bytes =>
      match Utf8.decode bytes with
      | .error error => .error (unreadable error.message)
      | .ok source => .ok (l.lint p.text source)

/-- The reports of files, in their order, unless one cannot be read. -/
def reportsOf (t : Tree) (l : Linter) : List Path → Except Stop (List Report)
  | [] => .ok []
  | p :: ps => do
      let r ← reportOf t l p
      return r :: (← reportsOf t l ps)

/-- The plan of a run. -/
def make (w : World) (r : LintRequest) : Except Stop Plan := do
  let settings ← settingsOf w r.formatter r.settingsFile
  let format ← formatOf settings
  let ignored ← ignoredBy w.tree r.ignoreFile
  let linter ← linterOf settings
  let files ← filesOf w.tree settings ignored r.targets
  return ⟨format, ← reportsOf w.tree linter files⟩

end Plan

end SolidityLint
