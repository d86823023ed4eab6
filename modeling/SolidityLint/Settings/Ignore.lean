import SolidityLint.Settings.File
import SolidityLint.Text.Break

/-!
# Ignore files

An ignore file holds one pattern on each line.  Blanks around a pattern do not count, and lines
that are blank or start with a number sign hold none.  The file that is looked for without being
named may be missing.
-/

namespace SolidityLint

/-- Why no patterns were read. -/
inductive IgnoreError where
  /-- The file is missing or cannot be read. -/
  | file (error : SettingsFileError)
  /-- The path of the file holds a null character. -/
  | path (error : FileError)
  /-- The file is not UTF-8. -/
  | notUtf8 (error : Utf8.DecodeError)
  deriving DecidableEq, Repr

namespace Ignore

/-- The name of the ignore file that is read unless another one is named. -/
def fileName : Text := ".sollintignore".toList

/-- The pattern on a line, if there is one. -/
def pattern? (line : Text) : Option Text :=
  match line.strip with
  | [] => none
  | '#' :: _ => none
  | pattern => some pattern

/-- The patterns of an ignore file. -/
def patternsOf (source : Text) : List Text :=
  source.unifyNewlines.breakLines.filterMap pattern?

/-- The ignore file that is read unless another one is named. -/
def defaultPath (t : Tree) (start : Option Path) : Path :=
  (start.getD (.ofLocation t.here)).child fileName

/-- The patterns of the ignore file that is named or, if none is, of the one in the start
directory. -/
def load (t : Tree) (named start : Option Path) : Except IgnoreError (List Text) :=
  let path := named.getD (defaultPath t start)
  match t.read path with
  | .ok bytes =>
      match Utf8.decode bytes with
      | .ok source => .ok (patternsOf source)
      | .error error => .error (.notUtf8 error)
  | .error error =>
      match error.fault with
      | .missing => if named.isSome then .error (.file ⟨path, .noIgnoreFile⟩) else .ok []
      | .nullCharacter => .error (.path error)
      | _ => .error (.file ⟨path, .unreadableIgnoreFile error⟩)

end Ignore

end SolidityLint
