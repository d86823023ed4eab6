import SolidityLint.Repair.Batch

/-!
# Repairing files together

The jobs of a batch can be carried out together.  A job repairs its text in memory, opens its file,
which empties it, and fills the file with the text after the repair; between these steps other jobs
take theirs, as a schedule has it.  The outcomes are collected in the order of the reports as soon
as they are there.  A write that failed ends the collection, even if later jobs are not done.
-/

namespace SolidityLint

/-- How far a job has come. -/
inductive Progress where
  /-- Nothing was done yet. -/
  | waiting
  /-- The text after the repair is complete. -/
  | repaired (o : Outcome)
  /-- The file is open, and empty. -/
  | opened (o : Outcome)
  /-- The job is done, or its write failed. -/
  | done (result : Except FileError Outcome)

namespace Progress

/-- The outcomes of jobs in their order, or the first write that failed, unless a job before it is
not done yet. -/
def collect : List Progress → Option (Except FileError (List Outcome))
  | [] => some (.ok [])
  | done (.ok o) :: rest => (collect rest).map (·.map (o :: ·))
  | done (.error error) :: _ => some (.error error)
  | _ :: _ => none

end Progress

namespace RepairJob

/-- Writes bytes to the file of a job; `next` is how far the job has come if that succeeds. -/
def writeStep (t : Tree) (o : Outcome) (bytes : Bytes) (next : Progress) : Tree × Progress :=
  match t.write (.ofText o.report.path) bytes with
  | .ok after => (after, next)
  | .error error => (t, .done (.error error))

/-- The next step of a job. -/
def advance (dryRun : Bool) (t : Tree) (job : RepairJob) : Progress → Tree × Progress
  | .waiting => (t, .repaired job.outcome)
  | .repaired o =>
      if dryRun || !o.needsWrite then (t, .done (.ok o)) else writeStep t o [] (.opened o)
  | .opened o =>
      writeStep t o (Utf8.encode o.patch.output) (.done (.ok { o with written := true }))
  | .done result => (t, .done result)

end RepairJob

/-- Jobs that are carried out together. -/
structure Pool where
  /-- The tree on which they work. -/
  tree : Tree
  /-- The jobs, in the order of their reports, with how far they have come. -/
  jobs : List (RepairJob × Progress)

namespace Pool

/-- The pool before the first step. -/
def start (t : Tree) (jobs : List RepairJob) : Pool :=
  ⟨t, jobs.map fun job => (job, .waiting)⟩

/-- The step of the job at a place of the pool; nothing happens if there is none. -/
def step (dryRun : Bool) (pool : Pool) (i : Nat) : Pool :=
  match pool.jobs[i]? with
  | none => pool
  | some (job, progress) =>
      let (after, next) := job.advance dryRun pool.tree progress
      ⟨after, pool.jobs.set i (job, next)⟩

/-- The pool after the steps of a schedule, which names the job that takes each step. -/
def play (dryRun : Bool) (schedule : List Nat) (pool : Pool) : Pool :=
  schedule.foldl (step dryRun) pool

/-- What the batch came to, if that can be said already. -/
def result? (pool : Pool) : Option BatchResult :=
  (Progress.collect (pool.jobs.map (·.2))).map fun outcomes => ⟨pool.tree, outcomes⟩

end Pool

namespace RepairJob

/-- What jobs that are carried out together come to under a schedule, if they come to an end. -/
def runTogether (dryRun : Bool) (schedule : List Nat) (t : Tree) (jobs : List RepairJob) :
    Option BatchResult :=
  ((Pool.start t jobs).play dryRun schedule).result?

/-- The schedule by which the jobs take turns, one step each. -/
def inTurns (jobs : List RepairJob) : List Nat :=
  (List.replicate 3 (List.range jobs.length)).flatten

end RepairJob

end SolidityLint
