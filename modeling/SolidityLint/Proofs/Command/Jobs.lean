import SolidityLint.Proofs.Command.Plan

/-!
# The jobs of a plan

The reports of a plan are about files that hold the texts of the reports, and no two of the files
are the same.  So the repairs of a plan rewrite its files and no others (`IsMadeOf.runAll`).  If
they leave alone what the settings and the patterns are read from, then the next plan is made of
the same files with their new texts (`IsMadeOf.after`).
-/

namespace SolidityLint

namespace Plan

variable {w : World} {r : LintRequest} {plan : Plan} {s : Settings} {ignored : List Text}
  {l : Linter} {files : List (Path × Text)}

/-! ## The files of a plan -/

theorem IsMadeOf.collect (h : plan.IsMadeOf w r s ignored l files) :
    Target.collect w.tree s ignored none r.targets = .ok (files.map (·.1)) :=
  (filesOf_eq_ok_iff.1 h.collected).1

theorem IsMadeOf.isNamed (h : plan.IsMadeOf w r s ignored l files) (hnamed : w.tree.IsNamed)
    {f : Path × Text} (hf : f ∈ files) : f.1.IsNamed :=
  Target.isNamed_of_mem_collect hnamed h.collect (List.mem_map_of_mem hf)

theorem targets_ne_nil_of_filesOf {t : Tree} {targets : List Text} {ps : List Path}
    (h : filesOf t s ignored targets = .ok ps) : targets ≠ [] := by
  rintro rfl
  cases h

theorem IsMadeOf.targets_ne_nil (h : plan.IsMadeOf w r s ignored l files) :
    r.targets.isEmpty = false :=
  List.isEmpty_eq_false_iff.2 (targets_ne_nil_of_filesOf h.collected)

/-- The repairs of the files of a plan. -/
def jobs (plan : Plan) : List RepairJob :=
  plan.reports.map fun report => ⟨report, .greedy⟩

/-- None of them is given up. -/
theorem skipped_stored (plan : Plan) (dryRun : Bool) :
    ∀ o ∈ plan.jobs.map (·.stored dryRun), o.skipped = none := by
  rw [List.forall_mem_map, Plan.jobs, List.forall_mem_map]
  exact fun report _ => congrArg Outcome.skipped report.repairSafely_greedy

theorem IsMadeOf.jobs (h : plan.IsMadeOf w r s ignored l files) :
    plan.jobs = files.map fun f => ⟨l.lint f.1.text f.2, .greedy⟩ := by
  rw [Plan.jobs, h.reports, List.map_map]
  rfl

theorem IsMadeOf.path_job (h : plan.IsMadeOf w r s ignored l files) (hnamed : w.tree.IsNamed)
    {f : Path × Text} (hf : f ∈ files) : RepairJob.path ⟨l.lint f.1.text f.2, .greedy⟩ = f.1 :=
  Path.ofText_text (h.isNamed hnamed hf)

theorem IsMadeOf.holds_jobs (h : plan.IsMadeOf w r s ignored l files) (hnamed : w.tree.IsNamed) :
    ∀ job ∈ plan.jobs, w.tree.Holds job.path job.report.source := by
  rw [h.jobs, List.forall_mem_map]
  intro f hf
  rw [h.path_job hnamed hf]
  exact h.holds f hf

theorem IsMadeOf.pairwise_jobs (h : plan.IsMadeOf w r s ignored l files) (hnamed : w.tree.IsNamed) :
    plan.jobs.Pairwise fun a b => a.place w.tree ≠ b.place w.tree := by
  have hdistinct := Target.pairwise_resolve_collect h.collect
  rw [List.pairwise_map] at hdistinct
  rw [h.jobs, List.pairwise_map]
  refine hdistinct.imp_of_mem fun {f g} hf hg hne => ?_
  rwa [RepairJob.place, RepairJob.place, h.path_job hnamed hf, h.path_job hnamed hg]

/-- What the repairs of a plan leave of the reports is what passes over the texts leave. -/
theorem IsMadeOf.reports_stored (h : plan.IsMadeOf w r s ignored l files) :
    (plan.jobs.map (·.stored false)).map (·.report) =
      files.map fun f => (l.pass f.1.text f.2).report := by
  rw [h.jobs, List.map_map, List.map_map]
  rfl

/-- The repairs of a plan rewrite its files and no others. -/
theorem IsMadeOf.runAll (h : plan.IsMadeOf w r s ignored l files) (hnamed : w.tree.IsNamed) :
    ∃ u, RepairJob.runAll false w.tree plan.jobs = ⟨u, .ok (plan.jobs.map (·.stored false))⟩ ∧
      w.tree.SameShape u ∧ (∀ f ∈ files, u.Holds f.1 (l.fixed f.1.text f.2)) ∧
      ∀ q, (∀ f ∈ files, w.tree.locate q ≠ w.tree.locate f.1) → u.read q = w.tree.read q := by
  obtain ⟨u, hall, hshape, hholds, hread⟩ :=
    RepairJob.runAll_of_holds false (h.holds_jobs hnamed) (h.pairwise_jobs hnamed)
  simp only [h.jobs, List.forall_mem_map] at hholds hread
  refine ⟨u, hall, hshape, fun f hf => ?_, fun q hq => hread q fun f hf => ?_⟩
  · have hheld := hholds f hf
    rwa [h.path_job hnamed hf] at hheld
  · rw [h.path_job hnamed hf]
    exact hq f hf

/-- In a tree with the same files, settings and patterns a plan is made of the same files with
their new texts. -/
theorem IsMadeOf.after (h : plan.IsMadeOf w r s ignored l files) {u : Tree}
    (hshape : w.tree.SameShape u) (hsame : ∀ p ∈ consulted w.tree r, u.read p = w.tree.read p)
    {text : Path × Text → Text} (hholds : ∀ f ∈ files, u.Holds f.1 (text f)) :
    IsMadeOf ⟨plan.format, files.map fun f => l.lint f.1.text (text f)⟩ { w with tree := u } r s
      ignored l (files.map fun f => (f.1, text f)) where
  settings := by
    rw [← h.settings]
    exact settingsOf_congr hshape fun p hp => hsame p (List.mem_append_left _ hp)
  format := h.format
  patterns := by
    rw [← h.patterns]
    exact ignoredBy_congr hshape (hsame _ (List.mem_append_right _ (List.mem_singleton_self _)))
  linter := h.linter
  collected := by
    rw [filesOf_congr hshape, h.collected, List.map_map]
    rfl
  holds := by simpa only [List.forall_mem_map] using hholds
  reports := by rw [List.map_map]; rfl

/-- A plan is made of the same parts whether its files are to be repaired or not. -/
theorem IsMadeOf.withFix (h : plan.IsMadeOf w r s ignored l files) (fix : Bool) :
    plan.IsMadeOf w { r with fix } s ignored l files :=
  ⟨h.settings, h.format, h.patterns, h.linter, h.collected, h.holds, h.reports⟩

end Plan

end SolidityLint
