import SolidityLint.Present.Grid
import SolidityLint.Present.Tap
import SolidityLint.Present.Unix

/-!
# Presentations by name

The presentation of reports is chosen by name.
-/

namespace SolidityLint

/-- A presentation of reports. -/
inductive Format where
  | json
  | stylish
  | table
  | tap
  | unix
  deriving DecidableEq, Repr

/-- What a presentation makes of reports. -/
inductive Presentation where
  /-- A text for programs. -/
  | plain (s : Text)
  /-- A styled text. -/
  | styled (ps : List Piece)
  /-- A grid. -/
  | grid (g : Grid)

/-- A name that no presentation has. -/
structure UnknownFormat where
  /-- The name. -/
  name : Text
  deriving DecidableEq, Repr

namespace Format

/-- The name of a presentation. -/
def name : Format → Text
  | json => "json".toList
  | stylish => "stylish".toList
  | table => "table".toList
  | tap => "tap".toList
  | unix => "unix".toList

/-- All presentations, in the order of their names. -/
def all : List Format :=
  [json, stylish, table, tap, unix]

/-- The presentation of a given name. -/
def ofName (s : Text) : Except UnknownFormat Format :=
  match all.find? fun f => f.name == s with
  | some f => .ok f
  | none => .error ⟨s⟩

/-- Presents some reports. -/
def present : Format → List Report → Presentation
  | json, rs => .plain (Json.present rs)
  | stylish, rs => .styled (Stylish.pieces rs)
  | table, rs => .grid (.ofReports rs)
  | tap, rs => .plain (Tap.present rs)
  | unix, rs => .plain (Unix.present rs)

end Format

namespace UnknownFormat

/-- The message that reports a name that no presentation has. -/
def message (e : UnknownFormat) : Text :=
  "Unknown formatter '".toList ++ e.name ++ "' (available: ".toList ++
    Text.join ", ".toList (Format.all.map Format.name) ++ ")".toList

end UnknownFormat

end SolidityLint
