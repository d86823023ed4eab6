import SolidityLint.Proofs.Command.Again

/-!
# Dry runs

A dry run computes the repairs and writes none of them.  What a job answers differs from what it
answers when it writes in one point only, whether it has written (`RepairJob.run_dryRun`).  A run of
the command that is a dry run shows the differences and then says what it says without repairs, and
the texts it computes are those that a run with repairs leaves in the files (`lint_dryRun`).
-/

namespace SolidityLint

/-! ## What is shown -/

@[simp] theorem Shown.out_append (a b : Shown) : (a ++ b).out = a.out ++ b.out :=
  rfl

namespace Lint

theorem out_verdict (maxWarnings : Option Nat) (rs : List Report) :
    (verdict maxWarnings rs).2.out = [] := by
  simp only [verdict]
  split
  · rfl
  · split
    · rfl
    · split <;> rfl

theorem out_shownTotal (dryRun : Bool) (os : List Outcome) : (shownTotal dryRun os).out = [] := by
  rw [shownTotal]
  split <;> rfl

theorem out_finish (r : LintRequest) (format : Format) (rs : List Report) (shown : Shown)
    (t : Tree) : (finish r format rs shown t).shown.out =
      shown.out ++ (shownReports format r.quiet rs).out := by
  simp [finish, out_verdict]

/-- Of repairs that are not told one by one the differences are shown, if they are not given up. -/
theorem out_shownOutcomes (dryRun : Bool) {os : List Outcome}
    (hnone : ∀ o ∈ os, o.skipped = none) :
    (shownOutcomes dryRun false os).1.out = os.flatMap fun o => (o.shownDiff dryRun).out := by
  induction os with
  | nil => rfl
  | cons o os ih =>
      obtain ⟨ho, hos⟩ := List.forall_mem_cons.1 hnone
      have hsilent : o.shownCounts false = .ok {} := rfl
      simp [shownOutcomes, ho, hsilent, ih hos]

end Lint

/-! ## Runs of jobs and of the command -/

/-- What a job answers on a dry run. -/
theorem RepairJob.run_dryRun {t u : Tree} {job : RepairJob} {o : Outcome}
    (h : job.run false t = .ok (o, u)) : job.run true t = .ok ({ o with written := false }, t) := by
  rw [(run_eq_ok_iff.1 h).1]
  exact run_eq_ok_iff.2 ⟨rfl, rfl⟩

namespace Run

variable {w v : World} {r : LintRequest} {before : Shown} {plan : Plan}

/-- A run without repairs presents the reports. -/
theorem lint_plain (resolver : Resolver) (hprepared : prepared w r = .ok (v, before))
    (hplan : Plan.make v r = .ok plan) :
    lint resolver w { r with fix := false, dryRun := false } =
      Lint.finish r plan.format plan.reports before v.tree :=
  lint_of_prepared resolver (r := { r with fix := false, dryRun := false }) hprepared hplan

/-- A dry run presents the reports after the differences. -/
theorem lint_dry (hverbose : r.verbose = false) (hprepared : prepared w r = .ok (v, before))
    (hplan : Plan.make v r = .ok plan) (fix : Bool) :
    let outcomes := plan.jobs.map (·.stored true)
    lint .greedy w { r with fix, dryRun := true } =
      Lint.finish r plan.format plan.reports
        (before ++ (Lint.shownOutcomes true false outcomes).1 ++ Lint.shownTotal true outcomes)
        v.tree := by
  intro outcomes
  have hbatch : RepairJob.runAll true v.tree (plan.reports.map fun report => ⟨report, .greedy⟩) =
      ⟨v.tree, .ok outcomes⟩ := RepairJob.runAll_true v.tree plan.jobs
  rw [lint_of_prepared .greedy (r := { r with fix, dryRun := true }) hprepared hplan,
    Lint.carryOut]
  simp only [Bool.or_true, if_true, hverbose, hbatch, Lint.fault_shownOutcomes]
  rfl

/-- **A dry run says what a run without repairs says, and computes what a run with repairs
writes.** -/
theorem lint_dryRun :
    (∀ (job : RepairJob) t o u, job.run false t = .ok (o, u) →
      job.run true t = .ok ({ o with written := false }, t)) ∧
    ∀ w r v before plan fix, w.tree.IsNamed → r.verbose = false →
      prepared w r = .ok (v, before) → Plan.make v r = .ok plan →
      let plain := lint .greedy w { r with fix := false, dryRun := false }
      let dry := lint .greedy w { r with fix, dryRun := true }
      let real := lint .greedy w { r with fix := true, dryRun := false }
      let presented := (Lint.shownReports plan.format r.quiet plan.reports).out
      ∃ outcomes code,
        RepairJob.runAll true v.tree (plan.reports.map fun report => ⟨report, .greedy⟩) =
          ⟨v.tree, .ok outcomes⟩ ∧
        (dry.tree = w.tree ∨ r.init = true ∧ CreatesSample w.tree dry.tree) ∧
        plain.shown.out = before.out ++ presented ∧
        dry.shown.out =
          before.out ++ (outcomes.flatMap fun o => (o.shownDiff true).out) ++ presented ∧
        plain.ending = .exit code ∧ dry.ending = .exit code ∧
        ∀ o ∈ outcomes,
          real.tree.read (.ofText o.report.path) = .ok (Utf8.encode o.patch.output) := by
  refine ⟨fun _ _ _ _ => RepairJob.run_dryRun,
    fun w r v before plan fix hnamed hverbose hprepared hplan => ?_⟩
  obtain ⟨s, ignored, l, files, hmade⟩ := Plan.make_eq_ok_iff.1 hplan
  have hnamed' := isNamed_of_prepared hnamed hprepared
  obtain ⟨u, hreal, -, hafter, -⟩ := RepairJob.runAll_of_holds false
    (hmade.holds_jobs hnamed') (hmade.pairwise_jobs hnamed')
  have htree : (lint .greedy w { r with fix := true, dryRun := false }).tree = u :=
    (tree_lint_fixing (r := { r with fix := true, dryRun := false }) .greedy hprepared hplan rfl
      rfl).trans (congrArg BatchResult.tree hreal)
  refine ⟨plan.jobs.map (RepairJob.stored true), (Lint.verdict r.maxWarnings plan.reports).1,
    RepairJob.runAll_true v.tree plan.jobs, ?_, ?_, ?_, ?_, ?_, ?_⟩
  · -- what a dry run changes was changed before it linted
    rw [lint_dry hverbose hprepared hplan]
    exact (prepared_eq_ok hprepared).2
  · rw [lint_plain .greedy hprepared hplan, Lint.out_finish]
  · rw [lint_dry hverbose hprepared hplan, Lint.out_finish, Shown.out_append, Shown.out_append,
      Lint.out_shownOutcomes true (plan.skipped_stored true), Lint.out_shownTotal, List.append_nil]
  · rw [lint_plain .greedy hprepared hplan]
    rfl
  · rw [lint_dry hverbose hprepared hplan]
    rfl
  · rw [List.forall_mem_map]
    intro job hjob
    have hheld := Tree.holds_iff_read.1 (hafter job hjob)
    rw [htree]
    exact (congrArg u.read job.path_outcome).trans hheld

/-- A blank at the end of a line, looked at, looked at with its repair, and removed. -/
theorem lint_dryRun_of_blank :
    let w := loneWorld "x \n".toList
    let job : RepairJob := ⟨Linter.standard.lint "A.sol".toList "x \n".toList, .greedy⟩
    let plain := lint .greedy w { fixRequest with fix := false }
    let dry := lint .greedy w { fixRequest with dryRun := true }
    let real := lint .greedy w fixRequest
    (∃ o u, job.run false w.tree = .ok (o, u) ∧
      job.run true w.tree = .ok ({ o with written := false }, w.tree)) ∧
      dry.tree = w.tree ∧ (∃ code, plain.ending = .exit code ∧ dry.ending = .exit code) ∧
      ∃ outcomes, RepairJob.runAll true w.tree [job] = ⟨w.tree, .ok outcomes⟩ ∧
        ∀ o ∈ outcomes,
          real.tree.read (.ofText o.report.path) = .ok (Utf8.encode o.patch.output) := by
  intro w job plain dry real
  have hmade := isMadeOf_loneWorld "x \n".toList
  have hplan := Plan.make_eq_ok_iff.2 ⟨_, _, _, _, hmade⟩
  obtain ⟨o, u, hrun⟩ := RepairJob.succeeds_of_holds false
    (hmade.holds_jobs (isNamed_loneWorld _) job (List.mem_singleton_self job))
  obtain ⟨hanswer, hruns⟩ := lint_dryRun
  obtain ⟨outcomes, code, hbatch, htree, -, -, hplain, hdry, hreal⟩ :=
    hruns w fixRequest w {} _ true (isNamed_loneWorld _) rfl rfl hplan
  exact ⟨⟨o, u, hrun, hanswer job w.tree o u hrun⟩,
    htree.resolve_right fun h => Bool.noConfusion h.1, ⟨code, hplain, hdry⟩, outcomes, hbatch,
    hreal⟩

end Run

end SolidityLint
