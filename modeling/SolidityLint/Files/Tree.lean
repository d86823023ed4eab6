import SolidityLint.Files.Path
import SolidityLint.Text.Utf8

/-!
# Trees of files

A tree holds files with their bytes and directories, and one directory is the current one.  A
path is looked up part by part: every part but the last must be a directory, also the one before
a double dot, and a part that is looked up in a directory must not be too long.  Reading and writing
go through this look-up, and each way in which it can fail is a fault of its own.
-/

namespace SolidityLint

/-- A tree of files without links. -/
structure Tree where
  /-- The files with their bytes. -/
  files : List (Location × Bytes)
  /-- The directories that are there even if nothing lies in them. -/
  directories : List Location
  /-- The current directory. -/
  here : Location
  deriving Repr

/-- Why a path could not be used. -/
inductive FileFault where
  /-- There is no such entry. -/
  | missing
  /-- The path names a directory. -/
  | isDirectory
  /-- The path leads through a file. -/
  | notDirectory
  /-- The path, or a part of it that is looked up, is too long. -/
  | tooLong
  /-- The path holds a null character. -/
  | nullCharacter
  deriving DecidableEq, Repr

/-- A path that could not be used. -/
structure FileError where
  /-- Why it could not. -/
  fault : FileFault
  /-- The path. -/
  path : Path
  deriving DecidableEq, Repr

namespace FileFault

/-- What is wrong, after the number of the fault if it has one. -/
def description : FileFault → Text
  | missing => "[Errno 2] No such file or directory".toList
  | isDirectory => "[Errno 21] Is a directory".toList
  | notDirectory => "[Errno 20] Not a directory".toList
  | tooLong => "[Errno 36] File name too long".toList
  | nullCharacter => "embedded null byte".toList

end FileFault

namespace FileError

/-- The message that reports a path that could not be used; one with a null character is not
shown. -/
def message (e : FileError) : Text :=
  match e.fault with
  | .nullCharacter => FileFault.nullCharacter.description
  | fault => fault.description ++ ": ".toList ++ e.path.text.quoted

end FileError

namespace Tree

/-! ## What lies at a location -/

/-- Does `l` lie strictly below the directory `d`? -/
def isBelow (d l : Location) : Bool :=
  d.isPrefixOf l && decide (d.length < l.length)

/-- The bytes of the file at a location, if there is one. -/
def bytesAt? (t : Tree) (l : Location) : Option Bytes :=
  t.files.lookup l

/-- Is there a file at a location? -/
def hasFile (t : Tree) (l : Location) : Bool :=
  (t.bytesAt? l).isSome

/-- The locations of all files and directories that the tree lists. -/
def listed (t : Tree) : List Location :=
  t.files.map (·.1) ++ t.directories

/-- Is there a directory at a location?  The root is one, and whatever has an entry below it. -/
def hasDirectory (t : Tree) (l : Location) : Bool :=
  l.isEmpty || t.directories.contains l || t.listed.any (isBelow l)

/-- Is there anything at a location? -/
def hasEntry (t : Tree) (l : Location) : Bool :=
  t.hasFile l || t.hasDirectory l

/-- The names of the entries of a directory, in the order in which the tree lists them. -/
def entryNames (t : Tree) (d : Location) : List Text :=
  (t.listed.filterMap fun l => if isBelow d l then l[d.length]? else none).eraseDups

/-- The names on the way from a directory to each entry below it. -/
def waysBelow (t : Tree) (d : Location) : List (List Text) :=
  (t.listed.flatMap fun l =>
    let way := if isBelow d l then l.drop d.length else []
    (List.range way.length).map fun n => way.take (n + 1)).eraseDups

/-! ## Looking up paths -/

/-- The greatest number of bytes in a part of a path. -/
def maxPartBytes : Nat := 255

/-- The greatest number of bytes in a path. -/
def maxPathBytes : Nat := 4095

/-- Does a text take more than a number of bytes? -/
def exceeds (most : Nat) (s : Text) : Bool :=
  decide (most < (Utf8.encode s).length)

/-- Goes from a location along the parts of a path. -/
def walk (t : Tree) (l : Location) : List Text → Except FileFault Location
  | [] => .ok l
  | part :: parts =>
      if t.hasFile l then .error .notDirectory
      else if !t.hasDirectory l then .error .missing
      else if exceeds maxPartBytes part then .error .tooLong
      else walk t (Path.step l part) parts

/-- The location that a path leads to; whether anything lies there is another question. -/
def locate (t : Tree) (p : Path) : Except FileFault Location :=
  if p.hasNull then .error .nullCharacter
  else if exceeds maxPathBytes p.text then .error .tooLong
  else t.walk (if p.isAbsolute then [] else t.here) p.parts

/-- Does a path lead to a location with a given property? -/
def leadsTo (t : Tree) (p : Path) (test : Location → Bool) : Bool :=
  match t.locate p with
  | .ok l => test l
  | .error _ => false

/-- Does a path lead to a file? -/
def isFile (t : Tree) (p : Path) : Bool :=
  t.leadsTo p t.hasFile

/-- Does a path lead to a file?  There is no answer for a path that is too long. -/
def checkFile (t : Tree) (p : Path) : Except FileError Bool :=
  match t.locate p with
  | .ok l => .ok (t.hasFile l)
  | .error .tooLong => .error ⟨.tooLong, p⟩
  | .error _ => .ok false

/-- Does a path lead to a directory? -/
def isDirectory (t : Tree) (p : Path) : Bool :=
  t.leadsTo p t.hasDirectory

/-- Does a path lead to anything? -/
def isEntry (t : Tree) (p : Path) : Bool :=
  t.leadsTo p t.hasEntry

/-- The location that a path denotes, whether anything lies there or not. -/
def resolve (t : Tree) (p : Path) : Except FileError Location :=
  if p.hasNull then .error ⟨.nullCharacter, p⟩ else .ok (p.resolve t.here)

/-! ## Reading and writing -/

/-- The bytes of the file that a path leads to. -/
def read (t : Tree) (p : Path) : Except FileError Bytes :=
  match t.locate p with
  | .error fault => .error ⟨fault, p⟩
  | .ok l =>
      match t.bytesAt? l with
      | some bytes => .ok bytes
      | none => .error ⟨if t.hasDirectory l then .isDirectory else .missing, p⟩

/-- The files with new bytes at a location: a file that is there keeps its place, a new one
comes last. -/
def putFile (files : List (Location × Bytes)) (l : Location) (bytes : Bytes) :
    List (Location × Bytes) :=
  match files with
  | [] => [(l, bytes)]
  | (k, old) :: rest => if k = l then (k, bytes) :: rest else (k, old) :: putFile rest l bytes

/-- The tree with a file that holds given bytes at the location that a path leads to. -/
def write (t : Tree) (p : Path) (bytes : Bytes) : Except FileError Tree :=
  match t.locate p with
  | .error fault => .error ⟨fault, p⟩
  | .ok l =>
      if t.hasDirectory l && !t.hasFile l then .error ⟨.isDirectory, p⟩
      else .ok { t with files := putFile t.files l bytes }

/-- The files of a tree that another tree lacks or holds with other bytes. -/
def changedFrom (t before : Tree) : List (Location × Bytes) :=
  t.files.filter fun f => before.bytesAt? f.1 != some f.2

/-! ## A file after a write -/

theorem lookup_putFile (files : List (Location × Bytes)) (l k : Location) (bytes : Bytes) :
    (putFile files l bytes).lookup k = if k = l then some bytes else files.lookup k := by
  induction files with
  | nil =>
      by_cases h : k = l
      · simp [putFile, h]
      · simp [putFile, List.lookup_cons, beq_eq_false_iff_ne.2 h, h]
  | cons f rest ih =>
      obtain ⟨m, old⟩ := f
      by_cases hm : m = l
      · subst hm
        by_cases hk : k = m
        · simp [putFile, hk]
        · simp [putFile, List.lookup_cons, beq_eq_false_iff_ne.2 hk, hk]
      · by_cases hk : k = m
        · subst hk; simp [putFile, hm]
        · simp [putFile, List.lookup_cons, hm, beq_eq_false_iff_ne.2 hk, ih]

end Tree

end SolidityLint
