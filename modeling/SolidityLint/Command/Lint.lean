import SolidityLint.Command.Plan
import SolidityLint.Diff.Unified
import SolidityLint.Present.Summary
import SolidityLint.Repair.Batch

/-!
# Linting files

A run that lints files presents the reports of its plan.  If it repairs the files first, the
repaired problems do not count any more; on a dry run, which shows the repairs as differences and
writes nothing, all problems count.
-/

namespace SolidityLint

/-! ## Repairs -/

namespace Outcome

/-- The line about the numbers of edits applied and left, with markup. -/
def countsLine (o : Outcome) : Text :=
  "  [dim]".toList ++ o.report.path ++ ":[/dim] ".toList ++ Text.ofNat o.accepted.length ++
    " fixed, ".toList ++ Text.ofNat o.rejected.length ++ " deferred".toList

/-- Were there edits to choose from? -/
def hasCandidates (o : Outcome) : Bool :=
  !(o.accepted.isEmpty && o.rejected.isEmpty)

/-- What is shown of the difference that a repair makes. -/
def shownDiff (dryRun : Bool) (o : Outcome) : Shown :=
  if dryRun && o.patch.changed then ⟨Console.printText o.diff, []⟩ else {}

/-- What is told about the edits of a repair. -/
def shownCounts (verbose : Bool) (o : Outcome) : Except Console.MarkupError Shown :=
  if verbose && o.hasCandidates then
    (Console.printMarkup o.countsLine).map fun s => ⟨[], s⟩
  else .ok {}

end Outcome

namespace Lint

/-- What is shown of repairs one after the other, and the fault at which this breaks down, if it
does. -/
def shownOutcomes (dryRun verbose : Bool) : List Outcome → Shown × Option Console.MarkupError
  | [] => ({}, none)
  | o :: os =>
      let (later, fault) := shownOutcomes dryRun verbose os
      match o.skipped with
      | some overlap =>
          (.told "Warning" (o.report.path ++ ": ".toList ++ Outcome.skipMessage overlap) ++ later,
            fault)
      | none =>
          match o.shownCounts verbose with
          | .ok counts => (o.shownDiff dryRun ++ counts ++ later, fault)
          | .error fault => (o.shownDiff dryRun, some fault)

/-- The number of problems that repairs resolve. -/
def fixedCount : List Outcome → Nat
  | [] => 0
  | o :: os => o.accepted.length + fixedCount os

/-- What is told about repairs as a whole. -/
def shownTotal (dryRun : Bool) (os : List Outcome) : Shown :=
  if fixedCount os = 0 then {}
  else
    .told "Success" ((if dryRun then "Would fix " else "Fixed ").toList ++
      Text.ofNat (fixedCount os) ++ " problem(s) in ".toList ++
      Text.ofNat (os.countP (·.patch.changed)) ++ " file(s)".toList)

/-! ## Presenting -/

/-- What a presentation of reports shows. -/
def shownReports (format : Format) (quiet : Bool) (rs : List Report) : Shown :=
  ⟨Console.print (format.present (if quiet then rs.map Report.errorsOnly else rs)), []⟩

/-- The exit code for the problems that count, and what is told about it. -/
def verdict (maxWarnings : Option Nat) (rs : List Report) : Nat × Shown :=
  let summary := Summary.ofReports rs
  if summary.errors ≠ 0 then (1, {})
  else
    match maxWarnings with
    | none => (0, {})
    | some most =>
        if most < summary.warnings then
          (1, ⟨[], Console.line ("sollint found more warnings than the maximum specified ".toList ++
            "(maximum: ".toList ++ Text.ofNat most ++ ")".toList)⟩)
        else (0, {})

/-- Presents reports and ends a run. -/
def finish (r : LintRequest) (format : Format) (rs : List Report) (shown : Shown) (t : Tree) :
    RunResult :=
  let (code, reason) := verdict r.maxWarnings rs
  ⟨.exit code, shown ++ shownReports format r.quiet rs ++ reason, t⟩

/-- Repairs the files of a plan, if that is asked for, and presents what is left. -/
def carryOut (resolver : Resolver) (t : Tree) (r : LintRequest) (plan : Plan) (shown : Shown) :
    RunResult :=
  if r.fix || r.dryRun then
    let batch := RepairJob.runAll r.dryRun t (plan.reports.map fun report => ⟨report, resolver⟩)
    match batch.outcomes with
    | .error error =>
        (Stop.failure Stop.systemError ("Cannot write fixed file: ".toList ++ error.message)).result
          shown batch.tree
    | .ok outcomes =>
        let (told, fault) := shownOutcomes r.dryRun r.verbose outcomes
        match fault with
        | some fault => ⟨.crash (.markup fault), shown ++ told, batch.tree⟩
        | none =>
            let counted := if r.dryRun then plan.reports else outcomes.map (·.report)
            finish r plan.format counted (shown ++ told ++ shownTotal r.dryRun outcomes) batch.tree
  else finish r plan.format plan.reports shown t

/-- What is told if no target is given. -/
def noTargets : Stop :=
  .failure Stop.userError "No files specified. Usage: sollint lint [OPTIONS] PATHS...".toList

/-- Lints the targets of a request in a world in which its settings file was created. -/
def lintTargets (resolver : Resolver) (w : World) (r : LintRequest) (shown : Shown) : RunResult :=
  match Plan.make w r with
  | .error stop => stop.result shown w.tree
  | .ok plan => carryOut resolver w.tree r plan shown

end Lint

end SolidityLint
