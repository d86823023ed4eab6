import SolidityLint.Text.Basic

/-!
# Paths

A path is a sequence of parts that is relative or starts at a root.  Reading a path drops empty
parts and single dots but keeps double dots, which are only undone when the path is resolved
against a directory.  Two leading slashes denote a root of their own; any other number of them
denotes the common one.
-/

namespace SolidityLint

/-- Where a path starts. -/
inductive Start where
  /-- At the directory it is looked up from. -/
  | here
  /-- At the root. -/
  | root
  /-- At the root that is written with two slashes. -/
  | doubleRoot
  deriving DecidableEq, Repr

/-- A place in a tree of files: the names on the way from the root to it. -/
abbrev Location := List Text

/-- A path. -/
structure Path where
  /-- Where the path starts. -/
  start : Start
  /-- The names on the way. -/
  parts : List Text
  deriving DecidableEq, Repr

namespace Start

/-- How a start is written. -/
def text : Start → Text
  | here => []
  | root => ['/']
  | doubleRoot => ['/', '/']

/-- The start that a text names by its leading slashes. -/
def ofText : Text → Start
  | '/' :: '/' :: '/' :: _ => root
  | '/' :: '/' :: _ => doubleRoot
  | '/' :: _ => root
  | _ => here

end Start

namespace Path

/-! ## Reading and writing -/

/-- The part that leads to the directory above. -/
def up : Text := ['.', '.']

/-- Is `part` kept when a path is read? -/
def isKept (part : Text) : Bool :=
  !(part.isEmpty || part == ['.'])

/-- The path that a text names. -/
def ofText (s : Text) : Path :=
  ⟨.ofText s, (Text.splitOn '/' s).filter isKept⟩

/-- A path as it is written; the path without parts is a single dot. -/
def text (p : Path) : Text :=
  match p.start, p.parts with
  | .here, [] => ['.']
  | start, parts => start.text ++ Text.join ['/'] parts

/-- The path from the root to a location. -/
def ofLocation (l : Location) : Path :=
  ⟨.root, l⟩

/-- Does the path start at a root? -/
def isAbsolute (p : Path) : Bool :=
  p.start != .here

/-- Does a path hold a null character?  No entry of a tree has such a name. -/
def hasNull (p : Path) : Bool :=
  p.parts.any fun part => part.contains '\x00'

/-! ## Names and suffixes -/

/-- The last part of a path; empty if there is none. -/
def name (p : Path) : Text :=
  p.parts.getLastD []

/-- The suffix of a name from its last dot on; empty if that dot is its first or its last
character, or if there is none. -/
def suffixOf (name : Text) : Text :=
  match (name.reverse.takeWhile (· ≠ '.')).reverse, (name.reverse.dropWhile (· ≠ '.')).reverse with
  | c :: cs, _ :: _ :: _ => '.' :: c :: cs
  | _, _ => []

/-- The suffix of the last part of a path. -/
def suffix (p : Path) : Text :=
  suffixOf p.name

/-! ## Combining and comparing -/

/-- The path `q` seen from the directory `p`. -/
def append (p q : Path) : Path :=
  match q.start with
  | .here => ⟨p.start, p.parts ++ q.parts⟩
  | _ => q

instance : Append Path := ⟨append⟩

/-- The path of an entry of the directory `p`. -/
def child (p : Path) (name : Text) : Path :=
  ⟨p.start, p.parts ++ [name]⟩

/-- One step of resolving: a double dot leads up, every other part down. -/
def step (l : Location) (part : Text) : Location :=
  if part = up then l.dropLast else l ++ [part]

/-- The location that a path denotes when it is looked up from `here`. -/
def resolve (here : Location) (p : Path) : Location :=
  p.parts.foldl step (if p.isAbsolute then [] else here)

/-- The parts by which paths are ordered: the root, if any, comes first. -/
def orderKey (p : Path) : List Text :=
  if p.isAbsolute then p.start.text :: p.parts else p.parts

/-- Do parts come before others, or equal them?  The first difference decides, and parts come
before those that go on where they end. -/
def leParts : List Text → List Text → Bool
  | [], _ => true
  | _ :: _, [] => false
  | s :: ss, t :: ts => if s = t then leParts ss ts else Text.le s t

/-- Does `p` come before `q`, or at the same place, in the order of their parts? -/
def le (p q : Path) : Bool :=
  leParts p.orderKey q.orderKey

/-- Paths in the order of their parts. -/
def sort (ps : List Path) : List Path :=
  ps.mergeSort le

/-! ## The parts of a path -/

theorem mem_parts_ofText {s part : Text} (h : part ∈ (ofText s).parts) :
    part ≠ [] ∧ part ≠ ['.'] := by
  simpa [ofText, isKept] using (List.mem_filter.1 h).2

theorem parts_append (p q : Path) (h : q.start = .here) : (p ++ q).parts = p.parts ++ q.parts := by
  show (append p q).parts = _
  simp [append, h]

end Path

end SolidityLint
