import SolidityLint.Files.Tree
import SolidityLint.Repair.Outcome

/-!
# Repairing files

Each report of a batch is repaired by a job of its own: the text after the repair is complete
before the file is opened for writing, and a file is only written if its text differs.  A job that
is given up because of an overlap leaves its file alone and does not stop the others; a write that
fails stops the batch.
-/

namespace SolidityLint

/-- The repair of one file. -/
structure RepairJob where
  /-- The report of the file. -/
  report : Report
  /-- The choice among the candidates. -/
  resolver : Resolver := .greedy

/-- What a batch came to. -/
structure BatchResult where
  /-- The tree after the batch. -/
  tree : Tree
  /-- The outcomes in the order of the reports, or the write that failed. -/
  outcomes : Except FileError (List Outcome)

namespace Outcome

/-- Writes the text after a repair to its file if the file has to be rewritten. -/
def store (dryRun : Bool) (t : Tree) (o : Outcome) : Except FileError (Outcome × Tree) :=
  if dryRun || !o.needsWrite then .ok (o, t)
  else
    (t.write (.ofText o.report.path) (Utf8.encode o.patch.output)).map fun after =>
      ({ o with written := true }, after)

end Outcome

namespace RepairJob

/-- The outcome of a job before anything is written. -/
def outcome (job : RepairJob) : Outcome :=
  job.report.repairSafely job.resolver

/-- Runs a job on a tree; a dry run writes nothing. -/
def run (dryRun : Bool) (t : Tree) (job : RepairJob) : Except FileError (Outcome × Tree) :=
  job.outcome.store dryRun t

/-- Runs jobs one after the other until a write fails. -/
def runAll (dryRun : Bool) : Tree → List RepairJob → BatchResult
  | t, [] => ⟨t, .ok []⟩
  | t, job :: jobs =>
      match job.run dryRun t with
      | .error error => ⟨t, .error error⟩
      | .ok (o, after) =>
          let rest := runAll dryRun after jobs
          { rest with outcomes := rest.outcomes.map (o :: ·) }

end RepairJob

end SolidityLint
