import SolidityLint.Files.Tree

/-!
# The nearest file of a name

A file of a given name is searched for in a directory, then in the directory above it, and so on
up to the root.  The search ends early where a path would be too long.
-/

namespace SolidityLint

namespace Path

/-- A location and the locations above it, the nearest first. -/
def selfAndAbove (l : Location) : List Location :=
  (List.range (l.length + 1)).reverse.map l.take

theorem mem_selfAndAbove_iff {l a : Location} : a ∈ selfAndAbove l ↔ a <+: l := by
  simp only [selfAndAbove, List.mem_map, List.mem_reverse, List.mem_range]
  constructor
  · rintro ⟨n, -, rfl⟩
    exact List.take_prefix n l
  · intro h
    exact ⟨a.length, Nat.lt_succ_of_le h.length_le, (List.prefix_iff_eq_take.1 h).symm⟩

end Path

namespace Tree

/-- The first of some paths that leads to a file. -/
def firstFile (t : Tree) : List Path → Except FileError (Option Path)
  | [] => .ok none
  | p :: ps => do
      if ← t.checkFile p then return some p else firstFile t ps

/-- The path of the nearest file of a name at or above a directory. -/
def nearest (t : Tree) (name : Path) (d : Location) : Except FileError (Option Path) :=
  t.firstFile ((Path.selfAndAbove d).map fun above => Path.ofLocation above ++ name)

/-- The path of the nearest file of a name at or above the start directory, which is the current
one unless another is given. -/
def nearestFrom (t : Tree) (name : Path) (start : Option Path) :
    Except FileError (Option Path) := do
  t.nearest name (← t.resolve (start.getD (.ofLocation t.here)))

end Tree

end SolidityLint
