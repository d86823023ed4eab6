import SolidityLint.Diff.Script

/-!
# Hunks

A script that keeps long stretches is shown by its hunks alone: every change with at most
`context` kept elements before and after it.  Changes that are at most twice that apart share a
hunk.  A hunk knows at which element of either list it starts.
-/

namespace SolidityLint.Diff

variable {α : Type}

/-- A part of a script, with the places at which it starts in either list. -/
structure Hunk (α : Type) where
  /-- The number of elements of the first list before the hunk. -/
  beforeStart : Nat
  /-- The number of elements of the second list before the hunk. -/
  afterStart : Nat
  /-- The segments of the hunk. -/
  script : Script α
  deriving DecidableEq, Repr

namespace Hunk

/-- The hunk with one more segment at its end. -/
def push (h : Hunk α) (s : Segment α) : Hunk α :=
  { h with script := h.script ++ [s] }

/-- The number of elements of the first list that the hunk covers. -/
def beforeLength (h : Hunk α) : Nat :=
  (Script.before h.script).length

/-- The number of elements of the second list that the hunk covers. -/
def afterLength (h : Hunk α) : Nat :=
  (Script.after h.script).length

/-- The last `n` elements of a list. -/
def lastElements (n : Nat) (xs : List α) : List α :=
  xs.drop (xs.length - n)

/-- A hunk that starts with the last kept elements before place `i` of the first list and `j` of
the second. -/
def opening (context i j : Nat) (kept : List α) : Hunk α :=
  let shown := lastElements context kept
  ⟨i + kept.length - shown.length, j + kept.length - shown.length, [.keep shown]⟩

/-- The hunks of the rest of a script that goes on at places `i` and `j`, after the hunk `current`
that is still open. -/
def collect (context : Nat) (current : Hunk α) (i j : Nat) : Script α → List (Hunk α)
  | [] => [current]
  | .change old new :: rest =>
      collect context (current.push (.change old new)) (i + old.length) (j + new.length) rest
  | .keep kept :: [] => [current.push (.keep (kept.take context))]
  | .keep kept :: s :: rest =>
      if 2 * context < kept.length then
        current.push (.keep (kept.take context)) ::
          collect context (opening context i j kept) (i + kept.length) (j + kept.length) (s :: rest)
      else
        collect context (current.push (.keep kept)) (i + kept.length) (j + kept.length) (s :: rest)

/-- The hunks of a script. -/
def ofScript (context : Nat) : Script α → List (Hunk α)
  | [] => []
  | .keep _ :: [] => []
  | .keep kept :: s :: rest =>
      collect context (opening context 0 0 kept) kept.length kept.length (s :: rest)
  | .change old new :: rest =>
      collect context ⟨0, 0, [.change old new]⟩ old.length new.length rest

end Hunk

end SolidityLint.Diff
