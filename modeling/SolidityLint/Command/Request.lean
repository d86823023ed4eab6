import SolidityLint.Command.Option
import SolidityLint.Text.Numeral

/-!
# Requests

A command line asks for the version, for help, or for one of the commands: to lint files, to lint
the standard input, or to create a settings file.
-/

namespace SolidityLint

/-- What is asked of the command that lints files. -/
structure LintRequest where
  /-- The files, directories and paths with wildcards. -/
  targets : List Text
  /-- Are the problems to be repaired? -/
  fix : Bool
  /-- Are the repairs to be shown only? -/
  dryRun : Bool
  /-- The name of the presentation. -/
  formatter : Option Text
  /-- The greatest number of warnings that is no failure. -/
  maxWarnings : Option Nat
  /-- The path of the settings file. -/
  settingsFile : Option Text
  /-- Are only errors to be presented? -/
  quiet : Bool
  /-- The path of the ignore file. -/
  ignoreFile : Option Text
  /-- Is a settings file to be created first? -/
  init : Bool
  /-- Is each repair to be told? -/
  verbose : Bool
  deriving DecidableEq, Repr

/-- What is asked of the command that lints the standard input. -/
structure StdinRequest where
  /-- The name of the text. -/
  filename : Option Text
  /-- The name of the presentation. -/
  formatter : Option Text
  /-- The path of the settings file. -/
  settingsFile : Option Text
  /-- Are only errors to be presented? -/
  quiet : Bool
  deriving DecidableEq, Repr

/-- What a command line asks for. -/
inductive Request where
  | version
  | help
  | lint (r : LintRequest)
  | stdin (r : StdinRequest)
  | initConfig
  deriving DecidableEq, Repr

namespace Request

/-! ## Options -/

/-- What the options stand for. -/
inductive Key where
  | version
  | help
  | fix
  | dryRun
  | formatter
  | maxWarnings
  | settingsFile
  | quiet
  | ignoreFile
  | init
  | verbose
  | filename
  deriving DecidableEq, Repr

/-- The option that asks for help. -/
def helpOption : OptionSpec Key := ⟨.help, "help".toList, none, false⟩

/-- The option that names a presentation. -/
def formatterOption : OptionSpec Key := ⟨.formatter, "formatter".toList, some 'f', true⟩

/-- The option that names a settings file. -/
def settingsFileOption : OptionSpec Key := ⟨.settingsFile, "config".toList, some 'c', true⟩

/-- The option that asks for errors only. -/
def quietOption : OptionSpec Key := ⟨.quiet, "quiet".toList, some 'q', false⟩

/-- The options before the name of a command. -/
def commonOptions : List (OptionSpec Key) :=
  [⟨.version, "version".toList, some 'v', false⟩, helpOption]

/-- The options of the command that lints files. -/
def lintOptions : List (OptionSpec Key) :=
  [⟨.fix, "fix".toList, none, false⟩, ⟨.dryRun, "dry-run".toList, some 'n', false⟩,
    formatterOption, ⟨.maxWarnings, "max-warnings".toList, some 'w', true⟩, settingsFileOption,
    quietOption, ⟨.ignoreFile, "ignore-path".toList, none, true⟩,
    ⟨.init, "init".toList, none, false⟩, ⟨.verbose, "verbose".toList, none, false⟩, helpOption]

/-- The options of the command that lints the standard input. -/
def stdinOptions : List (OptionSpec Key) :=
  [⟨.filename, "filename".toList, none, true⟩, formatterOption, settingsFileOption, quietOption,
    helpOption]

/-! ## Commands -/

/-- The number of warnings that a text gives. -/
def warningLimit : Option Text → Except UsageError (Option Nat)
  | none => .ok none
  | some given =>
      match given.count? with
      | none => .error (.notANumber given)
      | some n => if n < 0 then .error (.negativeNumber given) else .ok (some n.toNat)

/-- Refuses operands where a command takes none. -/
def refuseOperands : List Text → Except UsageError Unit
  | [] => .ok ()
  | operand :: _ => .error (.unexpectedOperand operand)

/-- Reads the arguments of the command that lints files. -/
def ofLintArguments (args : List Text) : Except UsageError Request := do
  let a ← Arguments.read lintOptions true args
  if a.has .help then return .help
  let maxWarnings ← warningLimit (a.value? .maxWarnings)
  return .lint {
    targets := a.operands
    fix := a.has .fix
    dryRun := a.has .dryRun
    formatter := a.value? .formatter
    maxWarnings
    settingsFile := a.value? .settingsFile
    quiet := a.has .quiet
    ignoreFile := a.value? .ignoreFile
    init := a.has .init
    verbose := a.has .verbose }

/-- Reads the arguments of the command that lints the standard input. -/
def ofStdinArguments (args : List Text) : Except UsageError Request := do
  let a ← Arguments.read stdinOptions true args
  if a.has .help then return .help
  refuseOperands a.operands
  return .stdin {
    filename := a.value? .filename
    formatter := a.value? .formatter
    settingsFile := a.value? .settingsFile
    quiet := a.has .quiet }

/-- Reads the arguments of the command that creates a settings file. -/
def ofInitArguments (args : List Text) : Except UsageError Request := do
  let a ← Arguments.read [helpOption] true args
  if a.has .help then return .help
  refuseOperands a.operands
  return .initConfig

/-- The request that common options make, if there are any: the first one counts. -/
def common? : List (GivenOption Key) → Option Request
  | [] => none
  | g :: _ => some (if g.key = .version then .version else .help)

/-- Reads words of which the first one names no command.  They may still be common options after
two hyphens. -/
def ofUnknown (name : Text) (args : List Text) : Except UsageError Request := do
  let a ← Arguments.read commonOptions false (name :: args)
  match common? a.given with
  | some request => return request
  | none => throw (.unknownCommand name)

/-- Reads the name of a command and its arguments. -/
def ofCommand (name : Text) (args : List Text) : Except UsageError Request :=
  if name = "lint".toList then ofLintArguments args
  else if name = "stdin".toList then ofStdinArguments args
  else if name = "init-config".toList then ofInitArguments args
  else ofUnknown name args

/-- What a command line asks for. -/
def ofArguments (args : List Text) : Except UsageError Request := do
  let a ← Arguments.read commonOptions false args
  match common? a.given, a.operands with
  | some request, _ => return request
  | none, [] => throw .noCommand
  | none, name :: args => ofCommand name args

end Request

end SolidityLint
