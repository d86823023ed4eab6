import SolidityLint.Files.Exclusion
import SolidityLint.Files.Glob
import SolidityLint.Settings.Basic

/-!
# Targets

A target is a file, a directory or a path with wildcards.  A file stands for itself; a directory
stands for the files with a given suffix below it, those in build and tool directories left out;
a path with wildcards stands for the matching files with a given suffix.  The files of all targets
are collected in the order of the targets, each file once, without the excluded ones.
-/

namespace SolidityLint

namespace Target

/-- The names of directories that are left out below a directory. -/
def ignoredDirectories : List Text :=
  [".venv", "venv", "node_modules", "__pycache__", ".git", "dist", "build", "artifacts", "cache",
    ".tox", ".nox"].map String.toList

/-- Does the way to a file lead through a directory that is left out? -/
def crossesIgnored (way : List Text) : Bool :=
  way.dropLast.any ignoredDirectories.contains

/-- Does a path have one of the given suffixes? -/
def hasSuffix (extensions : List Text) (p : Path) : Bool :=
  extensions.contains p.suffix

/-- The files with a given suffix among some paths.  Every path is looked up, and one that is too
long is a fault. -/
def filesAmong (t : Tree) (extensions : List Text) : List Path → Except FileError (List Path)
  | [] => .ok []
  | p :: ps => do
      let isFile ← t.checkFile p
      let rest ← filesAmong t extensions ps
      return if isFile && hasSuffix extensions p then p :: rest else rest

/-- The files below a directory that are linted when it is, in the order of their paths. -/
def filesOfDirectory (t : Tree) (extensions : List Text) (p : Path) :
    Except FileError (List Path) :=
  match t.locate p with
  | .error _ => .ok []
  | .ok d =>
      let entries := (t.waysBelow d).map fun way => (⟨p.start, p.parts ++ way⟩ : Path)
      (filesAmong t extensions entries).map fun qs =>
        Path.sort (qs.filter fun q => !crossesIgnored (q.parts.drop p.parts.length))

/-- The files that match a path with wildcards, in the order of their paths. -/
def filesOfGlob (t : Tree) (extensions : List Text) (p : Path) : Except FileError (List Path) := do
  return Path.sort (← filesAmong t extensions (← t.glob p))

/-- The files that a target stands for. -/
def files (t : Tree) (extensions : List Text) (p : Path) : Except FileError (List Path) := do
  if ← t.checkFile p then return [p]
  else if t.isDirectory p then filesOfDirectory t extensions p
  else filesOfGlob t extensions p

/-- The files that targets stand for, in the order of the targets. -/
def filesOfAll (t : Tree) (extensions : List Text) : List Path → Except FileError (List Path)
  | [] => .ok []
  | p :: ps => do
      let found ← files t extensions p
      return found ++ (← filesOfAll t extensions ps)

/-- Picks from a list of paths those that denote a new location and are not excluded. -/
def pick (here : Location) (isExcluded : Path → Bool) (seen : List Location) : List Path → List Path
  | [] => []
  | p :: ps =>
      if seen.contains (p.resolve here) || isExcluded p then pick here isExcluded seen ps
      else p :: pick here isExcluded (p.resolve here :: seen) ps

/-- The path of a target, seen from the base directory if one is given. -/
def pathOf (base : Option Path) (target : Text) : Path :=
  match base with
  | none => .ofText target
  | some b => b ++ Path.ofText target

/-- The files of a list of targets, without those that the settings or the `ignored` patterns
exclude.  Patterns, and targets that are not absolute, are read from the base directory, which is
the current one unless another is given. -/
def collect (t : Tree) (s : Settings) (ignored : List Text) (base : Option Path)
    (targets : List Text) : Except FileError (List Path) :=
  let isExcluded := Path.isExcluded t.here (base.getD (.ofLocation t.here)) (s.excluded ++ ignored)
  (filesOfAll t s.extensions (targets.map (pathOf base))).map (pick t.here isExcluded [])

end Target

end SolidityLint
