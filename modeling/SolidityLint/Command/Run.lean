import SolidityLint.Command.Lint
import SolidityLint.Command.Sample

/-!
# Runs of the command

A command line is read, and the request it makes is carried out in a world.  Exit codes are 0 if no
problem counts, 1 if one does or the run was refused, and 2 if a file cannot be read or written or
the command line is refused.
-/

namespace SolidityLint

namespace Run

/-- The line that tells the version. -/
def versionLine : Text := "sollint version 0.3.0".toList

/-- The lines that tell how the command is used. -/
def usage : Text :=
  Text.join ['\n'] (["Usage: sollint [--version] COMMAND [OPTIONS]", "",
    "  lint PATHS...   Lint Solidity sources and optionally fix them",
    "  stdin           Lint source code provided on standard input",
    "  init-config     Create a sample settings file"].map String.toList)

/-- Creates the sample settings file. -/
def createSample (t : Tree) : Except Stop (Tree × Shown) :=
  match Sample.create t with
  | .ok (after, created) => .ok (after, .info (Sample.notice created))
  | .error error =>
      .error (.failure Stop.systemError
        ("Cannot write configuration file: ".toList ++ error.message))

/-- Carries out a request to create the sample settings file. -/
def initConfig (t : Tree) : RunResult :=
  match createSample t with
  | .ok (after, shown) => ⟨.exit 0, shown, after⟩
  | .error stop => stop.result {} t

/-- Lints the targets of a request, of which there must be one. -/
def lintGiven (resolver : Resolver) (w : World) (r : LintRequest) (shown : Shown) : RunResult :=
  if r.targets.isEmpty then Lint.noTargets.result shown w.tree
  else Lint.lintTargets resolver w r shown

/-- Carries out a request to lint files. -/
def lint (resolver : Resolver) (w : World) (r : LintRequest) : RunResult :=
  if r.init then
    match createSample w.tree with
    | .error stop => stop.result {} w.tree
    | .ok (after, shown) =>
        if r.targets.isEmpty then ⟨.exit 0, shown, after⟩
        else lintGiven resolver { w with tree := after } r shown
  else lintGiven resolver w r {}

/-- The name of the text on the standard input, unless another one is given. -/
def stdinName (filename : Option Text) : Text :=
  match filename with
  | some (c :: cs) => c :: cs
  | _ => "stdin".toList

/-- The presentation and the report of the text on the standard input. -/
def stdinPlan (w : World) (r : StdinRequest) : Except Stop Plan := do
  let settings ← Plan.settingsOf w r.formatter r.settingsFile
  let format ← Plan.formatOf settings
  let linter ← Plan.linterOf settings
  match Utf8.decode w.input with
  | .error error => throw (.crash (.notUtf8 error))
  | .ok source => return ⟨format, [linter.lint (stdinName r.filename) source.unifyNewlines]⟩

/-- Carries out a request to lint the standard input. -/
def stdin (w : World) (r : StdinRequest) : RunResult :=
  match stdinPlan w r with
  | .error stop => stop.result {} w.tree
  | .ok plan =>
      let (code, reason) := Lint.verdict none plan.reports
      ⟨.exit code, Lint.shownReports plan.format r.quiet plan.reports ++ reason, w.tree⟩

end Run

namespace Request

/-- Carries out a request in a world. -/
def run (resolver : Resolver) (w : World) : Request → RunResult
  | version => ⟨.exit 0, .info Run.versionLine, w.tree⟩
  | help => ⟨.exit 0, .info Run.usage, w.tree⟩
  | lint r => Run.lint resolver w r
  | stdin r => Run.stdin w r
  | initConfig => Run.initConfig w.tree

end Request

namespace World

/-- Runs a command line in a world. -/
def run (w : World) (args : List Text) (resolver : Resolver) : RunResult :=
  match Request.ofArguments args with
  | .error error => ⟨.refused error, {}, w.tree⟩
  | .ok request => request.run resolver w

end World

end SolidityLint
