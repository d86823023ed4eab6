import SolidityLint.Command.Run

/-!
# The command

The outermost layer of the command.  It reads the files that a command line can reach into a tree,
runs the command line, shows what the run wrote, and writes the files that the run changed.
-/

namespace SolidityLint.Main

/-- The text of the path to a location. -/
def pathText (l : Location) : String :=
  String.ofList (Path.ofLocation l).text

/-- Adds the file at a location to a tree. -/
def gatherFile (t : Tree) (l : Location) : IO Tree := do
  let bytes ← IO.FS.readBinFile (pathText l)
  return { t with files := (l, bytes.toList) :: t.files }

/-- Adds whatever lies at a location to a tree; of a directory all that lies below it, but nothing
behind a link. -/
partial def gather (t : Tree) (l : Location) : IO Tree := do
  let root ← IO.currentDir
  let path := root / pathText l
  let .ok metadata ← path.symlinkMetadata.toBaseIO | return t
  match metadata.type with
  | .file => gatherFile t l
  | .dir =>
      let mut t := { t with directories := l :: t.directories }
      for entry in ← path.readDir do
        t ← gather t (l ++ [entry.fileName.toList])
      return t
  | _ => return t

/-- The paths that a request names. -/
def pathsOf : Request → List Text
  | .lint r => r.targets ++ r.settingsFile.toList ++ r.ignoreFile.toList
  | .stdin r => r.settingsFile.toList
  | _ => []

/-- The locations at which a run started at `here` can find files: the current directory, the
settings files above it, and what the paths lead to up to their first wildcard. -/
def reachable (here : Location) (paths : List Text) : List Location :=
  let settings := (Path.selfAndAbove here.dropLast).flatMap fun l =>
    [l ++ [Settings.fileName], l ++ [Settings.projectFileName]]
  let named := paths.map fun s =>
    let p := Path.ofText s
    Path.resolve here ⟨p.start, p.parts.takeWhile fun part => !Wildcard.isMagic part⟩
  here :: (settings ++ named).filter fun l => !here.isPrefixOf l

/-- The part of the environment that settings come from. -/
def environment : IO Environment := do
  let formatter ← IO.getEnv "SOLLINT_FORMATTER"
  let lineLength ← IO.getEnv "SOLLINT_MAX_LINE_LENGTH"
  return ⟨formatter.map String.toList, lineLength.map String.toList⟩

/-- The standard input, if a request asks for it. -/
def input : Request → IO Bytes
  | .stdin _ => do return (← (← IO.getStdin).readBinToEnd).toList
  | _ => return []

/-- The world in which a request is carried out. -/
def world (r : Request) : IO World := do
  let root ← IO.currentDir
  let here := (Path.ofText root.toString.toList).parts
  let tree ← (reachable here (pathsOf r)).foldlM gather ⟨[], [], here⟩
  return ⟨tree, ← environment, ← input r⟩

/-- Writes the files that a run changed. -/
def save (after before : Tree) : IO Unit := do
  for (l, bytes) in after.changedFrom before do
    IO.FS.writeBinFile (pathText l) ⟨bytes.toArray⟩

/-- The exit code of a run, and what is told about its end. -/
def close : Ending → UInt32 × Text
  | .exit code => (code.toUInt32, [])
  | .refused error => (2, Console.line ("Error: ".toList ++ error.message))
  | .crash fault => (1, Console.line ("Error: ".toList ++ fault.message))

/-- Shows the result of a run and writes the files that it changed. -/
def finish (before : Tree) (result : RunResult) : IO UInt32 := do
  let (code, reason) := close result.ending
  save result.tree before
  IO.print (String.ofList result.shown.out)
  IO.eprint (String.ofList (result.shown.err ++ reason))
  return code

/-- Runs a command line. -/
def run (args : List Text) : IO UInt32 := do
  match Request.ofArguments args with
  | .error error => finish ⟨[], [], []⟩ ⟨.refused error, {}, ⟨[], [], []⟩⟩
  | .ok request =>
      let w ← world request
      finish w.tree (request.run .greedy w)

end SolidityLint.Main

/-- Runs the command line. -/
def main (args : List String) : IO UInt32 :=
  SolidityLint.Main.run (args.map String.toList)
