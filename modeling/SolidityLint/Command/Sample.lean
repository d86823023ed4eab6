import SolidityLint.Files.Tree
import SolidityLint.Settings.Load

/-!
# The sample settings file

A settings file with the default settings can be created in the current directory, unless there
already is an entry of its name.
-/

namespace SolidityLint.Sample

/-- The text of the sample settings file. -/
def source : Text :=
  Text.join ['\n'] (["# sollint configuration", "formatter = \"stylish\"", "max_line_length = 120",
    "max_empty_lines = 1", "excluded_files = []", "", "[rules]",
    "no-trailing-whitespace = \"warn\"", "eol-last = \"warn\"", "no-tabs-indent = \"warn\"",
    "no-multiple-empty-lines = \"warn\"", "max-line-length = \"error\"", ""].map String.toList)

/-- The path of the settings file in the current directory. -/
def path (t : Tree) : Path :=
  (Path.ofLocation t.here).child Settings.fileName

/-- The tree with the sample settings file, and whether it was created. -/
def create (t : Tree) : Except FileError (Tree × Bool) :=
  if t.isEntry (path t) then .ok (t, false)
  else (t.write (path t) (Utf8.encode source)).map fun after => (after, true)

/-- What is told about the creation. -/
def notice (created : Bool) : Text :=
  if created then "Configuration file created!".toList
  else "Configuration file already exists".toList

end SolidityLint.Sample
