import SolidityLint.Command.Option
import SolidityLint.Console.Print
import SolidityLint.Settings.Load

/-!
# Worlds and results of runs

A run starts from a world: a tree of files, an environment and the standard input.  It ends with
an exit code, with what it wrote to its two outputs, and with the tree it leaves; or it breaks down
on a fault that the command does not report.
-/

namespace SolidityLint

/-- What a run starts from. -/
structure World where
  /-- The files. -/
  tree : Tree
  /-- The environment. -/
  environment : Environment := {}
  /-- The bytes of the standard input. -/
  input : Bytes := []
  deriving Repr

/-- A fault that the command does not report. -/
inductive Crash where
  /-- The settings are of a wrong kind that has no message. -/
  | settings (error : LoadError)
  /-- The ignore file or the standard input is not UTF-8. -/
  | notUtf8 (error : Utf8.DecodeError)
  /-- A path that is given holds a null character. -/
  | path (error : FileError)
  /-- A path holds tags with which it cannot be shown. -/
  | markup (error : Console.MarkupError)
  deriving Repr

namespace Crash

/-- The message that tells what went wrong. -/
def message : Crash → Text
  | settings error => error.message?.getD "The settings are not of the right kind".toList
  | notUtf8 error => error.message
  | path error => error.message
  | markup error => error.message

end Crash

/-- How a run ends. -/
inductive Ending where
  | exit (code : Nat)
  | crash (fault : Crash)
  | refused (error : UsageError)
  deriving Repr

/-- What a run wrote to its two outputs. -/
structure Shown where
  /-- What it wrote to the standard output. -/
  out : Text := []
  /-- What it wrote to the standard error output. -/
  err : Text := []
  deriving DecidableEq, Repr

namespace Shown

/-- What was written by one part of a run and then by another. -/
def append (a b : Shown) : Shown :=
  ⟨a.out ++ b.out, a.err ++ b.err⟩

instance : Append Shown := ⟨append⟩

/-- A line on the standard output. -/
def info (message : Text) : Shown :=
  ⟨Console.line message.withoutSequences, []⟩

/-- A line on the standard error output after a word and a colon. -/
def told (word : String) (message : Text) : Shown :=
  ⟨[], Console.line (word.toList ++ ": ".toList ++ message.withoutSequences)⟩

end Shown

/-- What a run comes to. -/
structure RunResult where
  /-- How it ends. -/
  ending : Ending
  /-- What it wrote. -/
  shown : Shown := {}
  /-- The tree it leaves. -/
  tree : Tree

/-- Why a run stops before it is done. -/
inductive Stop where
  /-- The run is refused with a message. -/
  | failure (code : Nat) (message : Text)
  /-- The run breaks down. -/
  | crash (fault : Crash)
  deriving Repr

namespace Stop

/-- The exit code of a refused run. -/
def userError : Nat := 1

/-- The exit code of a run that could not read or write a file. -/
def systemError : Nat := 2

/-- The result of a run that stops. -/
def result (s : Stop) (shown : Shown) (t : Tree) : RunResult :=
  match s with
  | failure code message => ⟨.exit code, shown ++ .told "Error" message, t⟩
  | crash fault => ⟨.crash fault, shown, t⟩

end Stop

end SolidityLint
