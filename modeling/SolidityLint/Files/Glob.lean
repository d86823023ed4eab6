import SolidityLint.Files.Tree
import SolidityLint.Files.Wildcard

/-!
# Paths with wildcards

A path whose parts are patterns stands for the entries of a tree that match it part by part.  No
pattern matches a name that begins with a dot unless it begins with one itself.  A part of two
stars stands for any number of directories, none of them with such a name; as the last part it
stands for every entry below.  It always stands for the place where it is, whatever lies there.
-/

namespace SolidityLint

namespace Tree

/-- Does a name begin with a dot? -/
def isHidden (name : Text) : Bool :=
  name.head? == some '.'

/-- The part that crosses directories. -/
def anyDepth : Text := ['*', '*']

/-- The names on the way from a directory to each entry below it, hidden entries and what lies
below them left out. -/
def visibleBelow (t : Tree) (d : Location) : List (List Text) :=
  (t.waysBelow d).filter fun way => !way.any isHidden

/-- The entries that a part of a path with wildcards leads to from `p`; only directories if
another part follows. -/
def globPart (t : Tree) (isLast : Bool) (part : Text) (p : Path) : List Path :=
  let kept (q : Path) : Bool := isLast || t.isDirectory q
  if part = anyDepth then
    match t.locate p with
    | .error _ => [p]
    | .ok d =>
        p :: ((t.visibleBelow d).map fun way => (⟨p.start, p.parts ++ way⟩ : Path)).filter kept
  else if Wildcard.isMagic part then
    match t.locate p with
    | .error _ => []
    | .ok d =>
        let names := (t.entryNames d).filter fun name =>
          (isHidden part || !isHidden name) && Wildcard.textMatches part name
        (names.map p.child).filter kept
  else [p.child part].filter t.isEntry

/-- The entries that the remaining parts of a path with wildcards lead to. -/
def globParts (t : Tree) : List Text → List Path → List Path
  | [], ps => ps
  | part :: parts, ps => globParts t parts (ps.flatMap (t.globPart parts.isEmpty part))

/-- The entries that a path with wildcards stands for.  What comes before its first wildcard is
taken as it is and must be a name that a directory can have. -/
def glob (t : Tree) (pattern : Path) : Except FileError (List Path) :=
  let isPlain (part : Text) : Bool := !Wildcard.isMagic part
  let plain : Path := ⟨pattern.start, pattern.parts.takeWhile isPlain⟩
  match pattern.parts.dropWhile isPlain with
  | [] => .ok [plain]
  | parts =>
      if plain.hasNull then .error ⟨.nullCharacter, plain⟩ else .ok (t.globParts parts [plain])

end Tree

end SolidityLint
