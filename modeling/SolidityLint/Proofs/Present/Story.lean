import Mathlib.Algebra.GroupWithZero.Nat
import SolidityLint.Linter
import SolidityLint.Present.Row
import SolidityLint.Present.Summary
import SolidityLint.Proofs.Order.Stable
import SolidityLint.Proofs.Text.Position

/-!
# What there is to tell about a report

Whatever the presentation, what it tells about a report is the path and the problems, each with its
position, in the order of the text (`Report.story`): sorted by the offsets at which they start, as
far as these lie within the text, and otherwise in the order of the report.  All numbers that are
told are counted from these problems (`Story.summary`, `Story.total`).

* `Report.map_problem_rows`: sorting by lines and columns comes to the same.
* `Linter.story_lint`: the report of a linter is in this order already.
-/

namespace SolidityLint

/-- What is told about a problem. -/
structure Problem where
  /-- The line. -/
  line : Nat
  /-- The column. -/
  column : Nat
  /-- How grave it is. -/
  severity : Severity
  /-- What the problem is. -/
  message : Text
  /-- The identifier of the rule that found it. -/
  rule : Text
  /-- Can it be repaired? -/
  isFixable : Bool
  deriving DecidableEq, Repr

/-- What is told about a report. -/
structure Story where
  /-- The path. -/
  path : Text
  /-- The problems, in the order in which they are told. -/
  problems : List Problem
  deriving DecidableEq, Repr

namespace Story

/-- The number of problems of a severity. -/
def count (s : Story) (severity : Severity) : Nat :=
  s.problems.countP fun p => p.severity = severity

/-- The number of problems of a severity that can be repaired. -/
def countFixable (s : Story) (severity : Severity) : Nat :=
  s.problems.countP fun p => p.isFixable && decide (p.severity = severity)

/-- The numbers of problems. -/
def summary (s : Story) : Summary where
  errors := s.count .error
  warnings := s.count .warning
  fixableErrors := s.countFixable .error
  fixableWarnings := s.countFixable .warning

/-- The sums of the numbers of problems in several reports. -/
def total (ss : List Story) : Summary where
  errors := (ss.map fun s => s.summary.errors).sum
  warnings := (ss.map fun s => s.summary.warnings).sum
  fixableErrors := (ss.map fun s => s.summary.fixableErrors).sum
  fixableWarnings := (ss.map fun s => s.summary.fixableWarnings).sum

theorem problems_summary (s : Story) : s.summary.problems = s.problems.length := by
  obtain ⟨path, problems⟩ := s
  simp only [Summary.problems, summary, count]
  induction problems with
  | nil => rfl
  | cons p ps ih =>
      rw [List.countP_cons, List.countP_cons, List.length_cons, ← ih]
      cases p.severity <;> simp <;> omega

end Story

namespace Row

/-- What a row tells. -/
def problem (row : Row) : Problem where
  line := row.line
  column := row.column
  severity := row.diagnostic.severity
  message := row.diagnostic.message
  rule := row.diagnostic.rule
  isFixable := row.diagnostic.isFixable

theorem comesBefore_iff {a b : Row} : a.comesBefore b = true ↔
    ¬Text.StandsBefore (b.line, b.column) (a.line, a.column) := by
  simp only [comesBefore, Text.StandsBefore, Bool.or_eq_true, Bool.and_eq_true, decide_eq_true_eq,
    beq_iff_eq]
  omega

end Row

namespace Report

/-- A problem of a report with its position. -/
def rowOf (r : Report) (d : Diagnostic) : Row :=
  ⟨(r.positionOf d).1, (r.positionOf d).2, d⟩

/-- Does `a` start before `b` in the text, or at the same offset of it? -/
def startsNoLater (r : Report) (a b : Diagnostic) : Bool :=
  decide (r.source.clamp a.location.start ≤ r.source.clamp b.location.start)

/-- What is to be told about a report. -/
def story (r : Report) : Story where
  path := r.path
  problems := (r.diagnostics.mergeSort r.startsNoLater).map fun d => (r.rowOf d).problem

/-- Positions are compared as the offsets that they belong to. -/
theorem comesBefore_rowOf (r : Report) (a b : Diagnostic) :
    (r.rowOf a).comesBefore (r.rowOf b) = r.startsNoLater a b := by
  rw [Bool.eq_iff_iff, Row.comesBefore_iff, startsNoLater, decide_eq_true_eq]
  constructor
  · exact fun h => Nat.le_of_not_lt fun hlt => h (Text.position_lt r.source hlt)
  · intro hle hbefore
    rcases Nat.lt_or_eq_of_le hle with hlt | heq
    · have := Text.position_lt r.source hlt
      simp only [rowOf, positionOf, Text.StandsBefore] at this hbefore
      omega
    · have hsame : r.positionOf a = r.positionOf b := by
        rw [positionOf, positionOf, Text.position_clamp, heq, ← Text.position_clamp]
      simp only [rowOf, hsame, Text.StandsBefore] at hbefore
      omega

/-- The rows of a report are its problems in the order of the text. -/
theorem rows_eq (r : Report) : r.rows = (r.diagnostics.mergeSort r.startsNoLater).map r.rowOf :=
  (List.map_mergeSort fun a _ b _ => (r.comesBefore_rowOf a b).symm).symm

theorem map_problem_rows (r : Report) : r.rows.map Row.problem = r.story.problems := by
  rw [rows_eq, List.map_map]
  rfl

/-- The numbers of problems of a report are counted from what is told about it. -/
theorem summary_story (r : Report) : r.story.summary = .ofReport r := by
  have hperm := List.mergeSort_perm r.diagnostics r.startsNoLater
  have hcount (severity : Severity) : r.story.count severity =
      r.diagnostics.countP fun d => d.severity == severity := by
    rw [Story.count, story, List.countP_map, hperm.countP_eq]
    exact List.countP_congr fun d _ => by simp [rowOf, Row.problem]
  have hfixable (severity : Severity) : r.story.countFixable severity =
      r.diagnostics.countP fun d => d.isFixable && d.severity == severity := by
    rw [Story.countFixable, story, List.countP_map, hperm.countP_eq]
    exact List.countP_congr fun d _ => by simp [rowOf, Row.problem]
  rw [Story.summary, hcount, hcount, hfixable, hfixable]
  rfl

theorem total_map_story (rs : List Report) : Story.total (rs.map story) = .ofReports rs := by
  simp only [Summary.ofReports_eq, List.countP_flatMap, Story.total, List.map_map,
    Function.comp_def, summary_story]
  rfl

end Report

/-- The problems of a linted text are told in the order of its report. -/
theorem Linter.story_lint (l : Linter) (path source : Text) :
    (l.lint path source).story.problems =
      (l.lint path source).diagnostics.map fun d => ((l.lint path source).rowOf d).problem := by
  have hranking : Order.IsRanking startsBefore :=
    Order.isRanking_of_key fun d : Diagnostic => d.location.start
  have hsorted : (l.diagnostics source).Pairwise fun a b => startsBefore a b = true :=
    List.pairwise_mergeSort hranking.trans hranking.total _
  refine congrArg _ (List.mergeSort_of_pairwise (hsorted.imp fun {a b} hle => ?_))
  rw [startsBefore, decide_eq_true_eq] at hle
  rw [Report.startsNoLater, decide_eq_true_eq, Text.clamp, Text.clamp]
  omega

end SolidityLint
