import SolidityLint.Report

/-!
# Candidates for repair

Every fixable diagnostic of a report is asked for its edit once.  An edit that lies within the
text becomes a candidate; a producer that offers nothing, fails, or offers an edit outside the
text contributes none, and its diagnostic stays unrepaired.
-/

namespace SolidityLint

/-- A diagnostic with the edit that would resolve it. -/
structure Candidate where
  /-- The diagnostic. -/
  diagnostic : Diagnostic
  /-- The edit its producer offered. -/
  edit : Edit
  /-- The place of the diagnostic in its report. -/
  order : Int

namespace Candidate

/-- The offset at which the edit starts. -/
def start (c : Candidate) : Int :=
  c.edit.range.start

/-- The offset at which the edit stops. -/
def stop (c : Candidate) : Int :=
  c.edit.range.stop

end Candidate

namespace Diagnostic

/-- The edit that the producer of a diagnostic offers. -/
def offer? (d : Diagnostic) (f : EditFactory) : Option Edit := do
  let producer ← d.fix
  match producer f with
  | .ok offered => offered
  | .error _ => none

/-- The edit that the producer of a diagnostic offers, if it lies within the text. -/
def edit? (d : Diagnostic) (f : EditFactory) : Option Edit :=
  (d.offer? f).filter fun e => decide (f.Admits e.range)

/-- The candidate of a diagnostic at a given place of its report. -/
def candidate? (d : Diagnostic) (f : EditFactory) (order : Nat) : Option Candidate :=
  (d.edit? f).map fun e => ⟨d, e, order⟩

end Diagnostic

namespace Report

/-- The candidates that the diagnostics of a report offer to a factory, in the order of the
report. -/
def candidatesFor (r : Report) (f : EditFactory) : List Candidate :=
  r.diagnostics.zipIdx.filterMap fun (d, order) => d.candidate? f order

/-- The candidates of a report. -/
def candidates (r : Report) : List Candidate :=
  r.candidatesFor (.ofText r.source)

/-- The report without the diagnostics whose candidates were applied. -/
def prune (r : Report) (applied : List Candidate) : Report :=
  { r with
    diagnostics := (r.diagnostics.zipIdx.filter fun (_, order) =>
      !applied.any fun c => c.order == (order : Int)).map (·.1) }

end Report

end SolidityLint
