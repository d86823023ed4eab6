import SolidityLint.Repair.Candidate

/-!
# Resolving conflicts

Candidates that overlap cannot all be applied.  They are scanned in the order of their starts,
an earlier diagnostic first on equal starts, and each one that starts at or after the end of the
last one accepted is accepted too.  Adjacent edits do not conflict.
-/

namespace SolidityLint

/-- A split of candidates into those to apply and those to leave. -/
structure Resolution where
  /-- The candidates to apply, in the order of the text. -/
  accepted : List Candidate
  /-- The candidates left for another run. -/
  rejected : List Candidate

/-- Chooses among candidates. -/
abbrev Resolver := List Candidate → Resolution

namespace Candidate

/-- Does `a` come before `b`, or at the same place, in the order of scanning? -/
def comesBefore (a b : Candidate) : Bool :=
  decide (a.start < b.start) || (a.start == b.start && decide (a.order ≤ b.order))

/-- The candidates in the order of scanning; equal keys keep their order. -/
def sort (cs : List Candidate) : List Candidate :=
  cs.mergeSort comesBefore

/-- Accepts every candidate that starts at or after the end of the last one accepted. -/
def scan (cursor : Int) : List Candidate → Resolution
  | [] => ⟨[], []⟩
  | c :: cs =>
      if cursor ≤ c.start then
        let rest := scan c.stop cs
        { rest with accepted := c :: rest.accepted }
      else
        let rest := scan cursor cs
        { rest with rejected := c :: rest.rejected }

end Candidate

namespace Resolver

/-- The choice of the earliest start first. -/
def greedy : Resolver :=
  fun cs => Candidate.scan 0 (Candidate.sort cs)

/-- The choice that accepts every candidate as it comes. -/
def acceptAll : Resolver :=
  fun cs => ⟨cs, []⟩

end Resolver

end SolidityLint
