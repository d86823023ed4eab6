import SolidityLint.Edit.Apply
import SolidityLint.Repair.Conflict

/-!
# The repair of one text

The candidates of a report are resolved, the accepted edits are applied, and the diagnostics
they belong to leave the report.  If the accepted edits overlap, which no sound resolver lets
happen, nothing is changed at all and the outcome says why.
-/

namespace SolidityLint

/-- What the repair of one text came to. -/
structure Outcome where
  /-- The report as it was given to the repair. -/
  given : Report
  /-- The report without the repaired diagnostics. -/
  report : Report
  /-- The text after the repair. -/
  patch : Patch
  /-- The candidates applied. -/
  accepted : List Candidate
  /-- The candidates left for another run. -/
  rejected : List Candidate
  /-- Was the file rewritten? -/
  written : Bool
  /-- The overlap for which the repair was given up, if it was. -/
  skipped : Option Overlap

namespace Outcome

/-- The outcome of a repair that is given up because of an overlap. -/
def abandoned (r : Report) (o : Overlap) : Outcome :=
  ⟨r, r, ⟨false, r.source⟩, [], [], false, some o⟩

/-- Why a repair was given up. -/
def skipMessage (o : Overlap) : Text :=
  "Fixes not applied: ".toList ++ o.message

/-- Must the file be rewritten so that it holds the text after the repair? -/
def needsWrite (o : Outcome) : Bool :=
  o.patch.changed && o.patch.output != o.given.source

end Outcome

namespace Report

/-- Repairs the text of a report by the candidates that a resolver accepts, without writing. -/
def repairWith (resolver : Resolver) (r : Report) : Except Overlap Outcome :=
  let resolution := resolver r.candidates
  (Edit.applyAll r.source (resolution.accepted.map (·.edit))).map fun patch =>
    if patch.changed then
      ⟨r, r.prune resolution.accepted, patch, resolution.accepted, resolution.rejected, false, none⟩
    else
      ⟨r, r, patch, [], resolution.rejected, false, none⟩

/-- Repairs the text of a report, giving up on an overlap. -/
def repairSafely (resolver : Resolver) (r : Report) : Outcome :=
  match r.repairWith resolver with
  | .ok outcome => outcome
  | .error overlap => .abandoned r overlap

/-- Repairs the text of a report by the greedy choice, without writing. -/
def repair (r : Report) : Except Overlap Outcome :=
  r.repairWith .greedy

end Report

end SolidityLint
