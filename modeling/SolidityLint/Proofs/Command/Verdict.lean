import SolidityLint.Proofs.Command.Again
import SolidityLint.Proofs.Settings.Escape

/-!
# What the exit code depends on

A run that presents reports ends with exit code 1 if the reports that count hold an error, or more
warnings than are allowed, and with 0 otherwise (`ending_iff`).  Which reports those are depends on
whether files are repaired, and not on what is presented: neither the presentation nor the choice to
present errors only changes the exit code, what is told on the standard error output, or a file
(`agree_lint`).
-/

namespace SolidityLint

theorem Table.merge_concat (layers : List Table) (last : Table) :
    merge (layers ++ [last]) = merge layers >>= (mergeLayer · last) := by
  rw [merge, merge, List.foldlM_append]
  simp only [List.foldlM_cons, List.foldlM_nil, bind_pure]

/-! ## Choosing a presentation -/

namespace Plan

variable {w : World} {r : LintRequest} {formatter settingsFile : Option Text}

/-- Does a run choose a presentation that there is?  It chooses the one that its merged settings
name, if they name any. -/
def NamesFormat (w : World) (formatter settingsFile : Option Text) : Prop :=
  ∀ layers merged, Settings.layers w.tree w.environment none (settingsFile.map Path.ofText)
      (overrides w.environment formatter) = .ok layers → Table.merge layers = .ok merged →
    ∀ v, merged.get? Field.formatter.name = some v → ∃ f : Format, v = .text f.name

/-- The overrides of a run set the presentation, if they set anything. -/
theorem exists_mergeLayer_overrides (e : Environment) (formatter : Option Text) (merged : Table) :
    ∃ after, Table.mergeLayer merged (overrides e formatter).onlyFields = .ok after ∧
      ∀ field : Field, field ≠ .formatter → after.get? field.name = merged.get? field.name := by
  rw [overrides]
  split
  · exact ⟨merged, rfl, fun _ _ => rfl⟩
  · rename_i name _
    refine ⟨merged.put Field.formatter.name (.text name), rfl, fun field hfield => ?_⟩
    rw [Table.get?_put, if_neg fun heq => hfield (Field.name_injective heq)]

theorem formatterName_eq_ok {default : Text} {found : Option Value} {f : Format}
    (h : found = some (.text f.name)) : Settings.formatterName default found = .ok f.name := by
  rw [h]
  cases f <;> rfl

/-- Settings that are read from a table which names a presentation that there is. -/
theorem exists_ofGiven (given : Field → Option Value)
    (h : ∀ v, given .formatter = some v → ∃ f : Format, v = .text f.name) :
    ∃ f : Format, Settings.ofGiven given =
      (Settings.ofGiven fun field => if field = .formatter then none else given field).map
        fun s => { s with formatter := f.name } := by
  have hname : ∃ f : Format,
      Settings.formatterName ({} : Settings).formatter (given .formatter) = .ok f.name := by
    cases hfound : given .formatter with
    | none => exact ⟨.stylish, rfl⟩
    | some v =>
        obtain ⟨f, rfl⟩ := h v hfound
        exact ⟨f, formatterName_eq_ok rfl⟩
  obtain ⟨f, hf⟩ := hname
  refine ⟨f, ?_⟩
  rw [Settings.ofGiven_eq_bind, hf]
  rfl

theorem settingsOf_of_layers {layers : List Table}
    (h : Settings.layers w.tree w.environment none (settingsFile.map Path.ofText)
      (overrides w.environment formatter) = .ok layers) :
    settingsOf w formatter settingsFile =
      match Table.merge layers with
      | .error error => .error (stopOfLoadError (.unmergeable error))
      | .ok merged =>
          match Settings.ofTable merged with
          | .error error => .error (stopOfLoadError (.settings error))
          | .ok s => .ok s := by
  rw [settingsOf, Settings.load, h]
  cases hmerge : Table.merge layers with
  | error error => simp [hmerge, bind, Except.bind, throw, throwThe, MonadExceptOf.throw]
  | ok merged =>
      cases hof : Settings.ofTable merged <;>
        simp [hmerge, hof, bind, Except.bind, throw, throwThe, MonadExceptOf.throw, pure,
          Except.pure]

/-- A run that is told which presentation to use chooses that one. -/
theorem namesFormat_some (w : World) (f : Format) (settingsFile : Option Text) :
    NamesFormat w (some f.name) settingsFile := by
  intro layers merged hlayers hmerge v hv
  obtain ⟨others, hothers⟩ := Settings.exists_layers_eq w.tree w.environment none
    (settingsFile.map Path.ofText)
  rw [hothers, map_eq_ok_iff] at hlayers
  obtain ⟨others, -, rfl⟩ := hlayers
  rw [Table.merge_concat, bind_eq_ok_iff] at hmerge
  obtain ⟨before, -, hlast⟩ := hmerge
  have hput : Table.mergeLayer before (overrides w.environment (some f.name)).onlyFields =
      .ok (before.put Field.formatter.name (.text f.name)) := rfl
  rw [hput, Except.ok.injEq] at hlast
  rw [← hlast, Table.get?_put, if_pos rfl, Option.some.injEq] at hv
  exact ⟨f, hv.symm⟩

/-- The settings of a merged table, whatever presentation it names. -/
def plainSettings (merged : Table) : Except Stop Settings :=
  match Settings.ofGiven fun field =>
      if field = .formatter then none else merged.get? field.name with
  | .error error => .error (stopOfLoadError (.settings error))
  | .ok s => .ok s

/-- The overrides of a run decide on the presentation only. -/
theorem settingsOf_of_merge {others : List Table} {merged : Table}
    (hlayers : Settings.layers w.tree w.environment none (settingsFile.map Path.ofText)
      (overrides w.environment formatter) =
        .ok (others ++ [(overrides w.environment formatter).onlyFields]))
    (hmerge : Table.merge others = .ok merged) (hformat : NamesFormat w formatter settingsFile) :
    ∃ f : Format, settingsOf w formatter settingsFile =
      (plainSettings merged).map fun s => { s with formatter := f.name } := by
  obtain ⟨after, hafter, hsame⟩ := exists_mergeLayer_overrides w.environment formatter merged
  have hmerged : Table.merge (others ++ [(overrides w.environment formatter).onlyFields]) =
      .ok after := by
    rw [Table.merge_concat, hmerge]
    exact hafter
  have hgiven : (fun field : Field => if field = .formatter then none else
      after.get? field.name) =
      fun field => if field = .formatter then none else merged.get? field.name := by
    funext field
    split
    · rfl
    · rename_i hfield
      exact hsame field hfield
  obtain ⟨sources, hsources⟩ := Settings.layers_eq_ok_iff.1 hlayers
  have hof := Settings.ofTable_merged sources (hsources.symm ▸ hmerged)
  obtain ⟨f, hf⟩ := exists_ofGiven (fun field => after.get? field.name)
    (hformat _ _ hlayers hmerged)
  refine ⟨f, ?_⟩
  rw [settingsOf_of_layers hlayers, hmerged]
  simp only [hof, hf, hgiven, plainSettings]
  cases Settings.ofGiven fun field =>
    if field = .formatter then none else merged.get? field.name <;> rfl

/-- The settings of a run that chooses a presentation that there is are, but for its name, the same
whichever it chooses. -/
theorem exists_settingsOf (w : World) (settingsFile : Option Text) :
    ∃ plain : Except Stop Settings, ∀ formatter, NamesFormat w formatter settingsFile →
      ∃ f : Format, settingsOf w formatter settingsFile =
        plain.map fun s => { s with formatter := f.name } := by
  obtain ⟨others, hothers⟩ := Settings.exists_layers_eq w.tree w.environment none
    (settingsFile.map Path.ofText)
  cases others with
  | error fault =>
      refine ⟨.error (stopOfLoadError fault), fun formatter _ => ⟨.stylish, ?_⟩⟩
      rw [settingsOf, Settings.load, hothers]
      rfl
  | ok others =>
      cases hmerge : Table.merge others with
      | error error =>
          refine ⟨.error (stopOfLoadError (.unmergeable error)), fun formatter _ => ⟨.stylish, ?_⟩⟩
          rw [settingsOf_of_layers (hothers _), Table.merge_concat, hmerge]
          rfl
      | ok merged =>
          exact ⟨plainSettings merged, fun formatter hformat =>
            settingsOf_of_merge (hothers _) hmerge hformat⟩

/-- The reports of a plan do not depend on the presentation it chooses. -/
theorem map_make {s : Settings} {f : Format}
    (h : settingsOf w r.formatter r.settingsFile = .ok { s with formatter := f.name }) :
    (make w r).map (·.reports) = (do
      let ignored ← ignoredBy w.tree r.ignoreFile
      let linter ← linterOf s
      let files ← filesOf w.tree s ignored r.targets
      reportsOf w.tree linter files) := by
  have hformat : formatOf { s with formatter := f.name } = .ok f := by
    cases f <;> rfl
  have hlinter : linterOf { s with formatter := f.name } = linterOf s := rfl
  have hfiles : ∀ ignored, filesOf w.tree { s with formatter := f.name } ignored r.targets =
      filesOf w.tree s ignored r.targets := fun _ => rfl
  simp only [make, h, hformat, Table.ok_bind, Table.map_bind, hlinter, hfiles]
  refine bind_congr fun ignored => bind_congr fun linter => bind_congr fun files => ?_
  cases reportsOf w.tree linter files <;> rfl

theorem map_make_eq (hformat : NamesFormat w r.formatter r.settingsFile)
    (hformat' : NamesFormat w formatter r.settingsFile) (quiet : Bool) :
    (make w { r with quiet, formatter }).map (·.reports) = (make w r).map (·.reports) := by
  obtain ⟨plain, hplain⟩ := exists_settingsOf w r.settingsFile
  obtain ⟨f, hf⟩ := hplain _ hformat
  obtain ⟨f', hf'⟩ := hplain _ hformat'
  cases plain with
  | error stop =>
      have hstop : make w { r with quiet, formatter } = .error stop := by
        rw [make, hf']
        rfl
      rw [hstop, make, hf]
      rfl
  | ok s => rw [map_make hf, map_make (r := { r with quiet, formatter }) hf']

end Plan

/-! ## Runs that agree -/

@[simp] theorem Shown.err_append (a b : Shown) : (a ++ b).err = a.err ++ b.err :=
  rfl

/-- Two runs that end in the same way, tell the same on the standard error output, and leave the
same files. -/
structure RunResult.Agree (a b : RunResult) : Prop where
  ending : a.ending = b.ending
  err : a.shown.err = b.shown.err
  tree : a.tree = b.tree

theorem RunResult.Agree.refl (a : RunResult) : a.Agree a :=
  ⟨rfl, rfl, rfl⟩

namespace Lint

variable {r : LintRequest} {plan plan' : Plan} {quiet : Bool} {formatter : Option Text}

theorem agree_finish (format format' : Format) (rs : List Report) (shown : Shown) (t : Tree) :
    (finish { r with quiet, formatter } format' rs shown t).Agree (finish r format rs shown t) where
  ending := rfl
  err := by simp [finish, shownReports]
  tree := rfl

theorem agree_carryOut (resolver : Resolver) (t : Tree) (shown : Shown)
    (h : plan'.reports = plan.reports) :
    (carryOut resolver t { r with quiet, formatter } plan' shown).Agree
      (carryOut resolver t r plan shown) := by
  rw [carryOut, carryOut, h]
  by_cases hrepairs : (r.fix || r.dryRun) = true
  · simp only [hrepairs, if_true]
    cases (RepairJob.runAll r.dryRun t
      (plan.reports.map fun report => ⟨report, resolver⟩)).outcomes with
    | error error => exact .refl _
    | ok outcomes =>
        cases hfault : (shownOutcomes r.dryRun r.verbose outcomes).2 with
        | some fault =>
            simp only [hfault]
            exact .refl _
        | none =>
            simp only [hfault]
            exact agree_finish ..
  · simp only [hrepairs]
    exact agree_finish ..

/-- Reports that hold an error, or more warnings than are allowed. -/
def Condemned (maxWarnings : Option Nat) (rs : List Report) : Prop :=
  (∃ d ∈ rs.flatMap (·.diagnostics), d.isError = true) ∨
    ∃ most, maxWarnings = some most ∧ most < (rs.flatMap (·.diagnostics)).countP (·.isWarning)

/-- The exit code says whether the reports that count are condemned. -/
theorem verdict_cases (maxWarnings : Option Nat) (rs : List Report) :
    Condemned maxWarnings rs ∧ (verdict maxWarnings rs).1 = 1 ∨
      ¬Condemned maxWarnings rs ∧ (verdict maxWarnings rs).1 = 0 := by
  have herror : (Summary.ofReports rs).errors ≠ 0 ↔
      ∃ d ∈ rs.flatMap (·.diagnostics), d.isError = true := by
    rw [Summary.ofReports_eq, ← Nat.pos_iff_ne_zero, List.countP_pos_iff]
  simp only [verdict]
  split
  · rename_i hne
    exact .inl ⟨.inl (herror.1 hne), rfl⟩
  · rename_i hzero
    have hno := mt herror.2 hzero
    split
    · refine .inr ⟨fun h => h.elim hno ?_, rfl⟩
      rintro ⟨most, heq, -⟩
      simp at heq
    · rename_i most
      rw [Summary.ofReports_eq]
      split
      · rename_i hmore
        exact .inl ⟨.inr ⟨most, rfl, hmore⟩, rfl⟩
      · rename_i hless
        refine .inr ⟨fun h => h.elim hno ?_, rfl⟩
        rintro ⟨allowed, heq, hmore⟩
        exact hless (Option.some_inj.1 heq ▸ hmore)

end Lint

/-- What a batch that writes all its files answers is what its jobs answer. -/
theorem RepairJob.outcomes_of_runAll {dryRun : Bool} {t : Tree} {jobs : List RepairJob}
    {outcomes : List Outcome} (h : (runAll dryRun t jobs).outcomes = .ok outcomes) :
    outcomes = jobs.map (·.stored dryRun) := by
  induction jobs generalizing t outcomes with
  | nil => exact (Except.ok.inj h).symm
  | cons job jobs ih =>
      rw [runAll] at h
      cases hrun : job.run dryRun t with
      | error error => simp [hrun] at h
      | ok result =>
          obtain ⟨o, after⟩ := result
          simp only [hrun, map_eq_ok_iff] at h
          obtain ⟨os, hrest, rfl⟩ := h
          rw [List.map_cons, (run_eq_ok_iff.1 hrun).1, ih hrest]

namespace Run

variable {w v : World} {r : LintRequest} {before : Shown} {plan : Plan}

/-- A run that gets as far as presenting reports: it has a plan, and if it repairs files, then all
of them can be written. -/
structure Presents (w : World) (r : LintRequest) (v : World) (before : Shown) (plan : Plan) :
    Prop where
  prepared : prepared w r = .ok (v, before)
  planned : Plan.make v r = .ok plan
  written : r.fix = true → r.dryRun = false →
    ∃ outcomes, (RepairJob.runAll false v.tree plan.jobs).outcomes = .ok outcomes

/-- The reports that count: without the problems that are repaired, if the repairs are written. -/
def counted (r : LintRequest) (plan : Plan) : List Report :=
  if r.fix && !r.dryRun then
    plan.reports.map fun report => report.prune (Resolver.greedy report.candidates).accepted
  else plan.reports

/-- The reports that the repairs of a plan leave. -/
theorem reports_stored (plan : Plan) :
    (plan.jobs.map (·.stored false)).map (·.report) =
      plan.reports.map fun report =>
        report.prune (Resolver.greedy report.candidates).accepted := by
  rw [Plan.jobs, List.map_map, List.map_map]
  exact List.map_congr_left fun report _ => congrArg Outcome.report report.repairSafely_greedy

theorem ending_eq (h : Presents w r v before plan) (hverbose : r.verbose = false) :
    (lint .greedy w r).ending = .exit (Lint.verdict r.maxWarnings (counted r plan)).1 := by
  rw [lint_of_prepared .greedy h.prepared h.planned, Lint.carryOut, counted]
  cases hdry : r.dryRun with
  | true =>
      have hbatch : RepairJob.runAll true v.tree
          (plan.reports.map fun report => ⟨report, .greedy⟩) =
            ⟨v.tree, .ok (plan.jobs.map (·.stored true))⟩ :=
        RepairJob.runAll_true v.tree plan.jobs
      simp only [Bool.or_true, if_true, hverbose, hbatch, Lint.fault_shownOutcomes, Bool.not_true,
        Bool.and_false, Bool.false_eq_true, if_false]
      rfl
  | false =>
      cases hfix : r.fix with
      | true =>
          obtain ⟨outcomes, hwritten⟩ := h.written hfix hdry
          obtain rfl := RepairJob.outcomes_of_runAll hwritten
          rw [Plan.jobs] at hwritten
          simp only [Bool.or_false, if_true, hverbose, hwritten, Bool.not_false, Bool.and_true,
            Bool.false_eq_true, if_false]
          rw [← Plan.jobs, Lint.fault_shownOutcomes, reports_stored]
          rfl
      | false => rfl

/-- **The exit code of a run that presents reports.** -/
theorem ending_iff (h : Presents w r v before plan) (hverbose : r.verbose = false) :
    ((lint .greedy w r).ending = .exit 1 ↔ Lint.Condemned r.maxWarnings (counted r plan)) ∧
      ((lint .greedy w r).ending = .exit 0 ↔ ¬Lint.Condemned r.maxWarnings (counted r plan)) := by
  rw [ending_eq h hverbose]
  rcases Lint.verdict_cases r.maxWarnings (counted r plan) with ⟨hbad, hcode⟩ | ⟨hgood, hcode⟩
  · simp [hcode, hbad]
  · simp [hcode, hgood]

/-- Two runs that differ only in what they present agree. -/
theorem agree_lint (resolver : Resolver) {quiet : Bool} {formatter : Option Text}
    (hformat : ∀ v before, prepared w r = .ok (v, before) →
      Plan.NamesFormat v r.formatter r.settingsFile ∧ Plan.NamesFormat v formatter r.settingsFile) :
    (lint resolver w { r with quiet, formatter }).Agree (lint resolver w r) := by
  cases htargets : r.targets.isEmpty with
  | true =>
      have hsame : lint resolver w { r with quiet, formatter } = lint resolver w r := by
        simp only [lint, lintGiven, htargets, if_true]
      exact hsame ▸ .refl _
  | false =>
      cases hprepared : prepared w r with
      | error stop =>
          have hsame : lint resolver w { r with quiet, formatter } = lint resolver w r := by
            rw [prepared] at hprepared
            split at hprepared
            · rename_i hinit
              cases hcreate : createSample w.tree with
              | error stop => simp only [lint, hinit, if_true, hcreate]
              | ok result => simp [hcreate, Except.map] at hprepared
            · cases hprepared
          exact hsame ▸ .refl _
      | ok result =>
          obtain ⟨v, before⟩ := result
          have hprepared' : prepared w { r with quiet, formatter } = .ok (v, before) := hprepared
          obtain ⟨hfirst, hsecond⟩ := hformat v before hprepared
          have hreports := Plan.map_make_eq hfirst hsecond quiet
          rw [lint_eq_lintTargets resolver hprepared htargets,
            lint_eq_lintTargets resolver hprepared' htargets, Lint.lintTargets, Lint.lintTargets]
          cases hmake : Plan.make v r with
          | error stop =>
              rw [hmake] at hreports
              cases hmake' : Plan.make v { r with quiet, formatter } with
              | ok plan => simp [hmake', Except.map] at hreports
              | error stop' =>
                  rw [hmake'] at hreports
                  exact Except.error.inj hreports ▸ .refl _
          | ok plan =>
              rw [hmake] at hreports
              obtain ⟨plan', hmake', hsame⟩ := map_eq_ok_iff.1 hreports
              rw [hmake']
              exact Lint.agree_carryOut resolver v.tree before hsame

/-- **The exit code is about the reports that count, and not about their presentation.** -/
theorem exit_policy :
    (∀ w r v before plan, Presents w r v before plan → r.verbose = false →
      ((lint .greedy w r).ending = .exit 1 ↔ Lint.Condemned r.maxWarnings (counted r plan)) ∧
        ((lint .greedy w r).ending = .exit 0 ↔ ¬Lint.Condemned r.maxWarnings (counted r plan))) ∧
    ∀ (resolver : Resolver) (w : World) (r : LintRequest) (quiet : Bool) (formatter : Option Text),
      (∀ v before, prepared w r = .ok (v, before) →
        Plan.NamesFormat v r.formatter r.settingsFile ∧
          Plan.NamesFormat v formatter r.settingsFile) →
      (lint resolver w { r with quiet, formatter }).Agree (lint resolver w r) :=
  ⟨fun _ _ _ _ _ => ending_iff, fun resolver _ _ _ _ => agree_lint resolver⟩

/-- A blank at the end of a line is one warning too many, unless it is removed; and it is the same
run if it is presented in another way. -/
theorem exit_policy_of_blank :
    let w := loneWorld "x \n".toList
    let r := { fixRequest with maxWarnings := some 0, formatter := some Format.unix.name }
    (lint .greedy w r).ending = .exit 0 ∧
      (lint .greedy w { r with dryRun := true }).ending = .exit 1 ∧
      (lint .greedy w { r with quiet := true, formatter := some Format.json.name }).Agree
        (lint .greedy w r) := by
  intro w r
  obtain ⟨hexit, hagree⟩ := exit_policy
  have hmade : Plan.IsMadeOf ⟨.unix, [Linter.standard.lint "A.sol".toList "x \n".toList]⟩ w r
      { formatter := Format.unix.name } [] Linter.standard
      [(.ofText "A.sol".toList, "x \n".toList)] :=
    { settings := rfl
      format := rfl
      patterns := rfl
      linter := Linter.ofSettings_standard
      collected := rfl
      holds := List.forall_mem_singleton.2 ⟨_, rfl, Utf8.decode_encode _⟩
      reports := rfl }
  have hplan := Plan.make_eq_ok_iff.2 ⟨_, _, _, _, hmade⟩
  obtain ⟨u, hwritten, -⟩ := hmade.runAll (isNamed_loneWorld _)
  obtain ⟨-, hzero⟩ := hexit w r w {} _
    ⟨rfl, hplan, fun _ _ => ⟨_, congrArg BatchResult.outcomes hwritten⟩⟩ rfl
  obtain ⟨hone, -⟩ := hexit w { r with dryRun := true } w {} _
    ⟨rfl, hplan, fun _ h => nomatch h⟩ rfl
  refine ⟨hzero.2 ?_, hone.2 (.inr ⟨0, rfl, ?_⟩), hagree _ _ _ _ _ fun v before _ => ⟨?_, ?_⟩⟩
  · have hnone : (counted r ⟨.unix, [Linter.standard.lint "A.sol".toList "x \n".toList]⟩).flatMap
        (·.diagnostics) = [] := List.eq_nil_of_length_eq_zero (by decide +kernel)
    rw [Lint.Condemned, hnone]
    simp
  · decide +kernel
  · exact Plan.namesFormat_some v .unix _
  · exact Plan.namesFormat_some v .json _

end Run

end SolidityLint
