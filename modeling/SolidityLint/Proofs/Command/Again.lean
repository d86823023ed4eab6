import SolidityLint.Proofs.Command.Prepare
import SolidityLint.Proofs.Pass.Errors

/-!
# Linting again after a repair

A run that repairs its files ends with exit code 0 if the repairs leave no errors in the reports.
What a run without repairs would say right afterwards is another question: it lints the same files
in the same way (`IsMadeOf.after`), but it looks at the new texts.  The two agree unless a text
relapses (`ending_again_iff`).
-/

namespace SolidityLint

/-! ## Exit codes -/

namespace Lint

variable {rs : List Report}

theorem errors_ofReports_eq_zero_iff :
    (Summary.ofReports rs).errors = 0 ↔ ∀ r ∈ rs, r.errorCount = 0 := by
  rw [Summary.ofReports_eq, List.countP_eq_zero, List.forall_mem_flatMap]
  exact forall₂_congr fun r _ => List.countP_eq_zero.symm

/-- Without a bound on the warnings the errors decide. -/
theorem verdict_none_eq_zero_iff : (verdict none rs).1 = 0 ↔ ∀ r ∈ rs, r.errorCount = 0 := by
  rw [← errors_ofReports_eq_zero_iff, verdict]
  split
  · rename_i hne
    exact iff_of_false Nat.one_ne_zero hne
  · rename_i heq
    exact iff_of_true rfl (not_not.1 heq)

theorem ending_finish_eq_exit_zero_iff {r : LintRequest} (hmax : r.maxWarnings = none)
    (format : Format) (shown : Shown) (t : Tree) :
    (finish r format rs shown t).ending = .exit 0 ↔ ∀ x ∈ rs, x.errorCount = 0 := by
  rw [← verdict_none_eq_zero_iff, ← hmax]
  exact ⟨Ending.exit.inj, congrArg Ending.exit⟩

/-- If the repairs are not told one by one, then telling them does not break down. -/
theorem fault_shownOutcomes (dryRun : Bool) (os : List Outcome) :
    (shownOutcomes dryRun false os).2 = none := by
  induction os with
  | nil => rfl
  | cons o os ih =>
      simp only [shownOutcomes]
      split
      · exact ih
      · exact ih

end Lint

/-! ## Two runs -/

namespace Run

variable {w : World} {r : LintRequest} {plan : Plan} {s : Settings} {ignored : List Text}
  {l : Linter} {files : List (Path × Text)}

/-- A run ends with exit code 0 only if it has a plan. -/
theorem exists_plan (resolver : Resolver) (hinit : r.init = false)
    (hexit : (lint resolver w r).ending = .exit 0) : ∃ plan, Plan.make w r = .ok plan := by
  cases hmake : Plan.make w r with
  | ok plan => exact ⟨plan, rfl⟩
  | error stop =>
      rw [lint, hinit, lintGiven] at hexit
      split at hexit
      · rename_i hinit'
        exact Bool.noConfusion hinit'
      split at hexit
      · exact absurd hexit (Stop.Fails.ending_ne (Stop.fails_userError _) _ _)
      · rw [Lint.lintTargets, hmake] at hexit
        exact absurd hexit ((Plan.fails_of_make hmake).ending_ne _ _)

/-- A run without repairs ends with exit code 0 if no text has errors. -/
theorem ending_lint_iff (h : plan.IsMadeOf w r s ignored l files) (resolver : Resolver)
    (hfix : r.fix = false) (hdry : r.dryRun = false) (hinit : r.init = false)
    (hmax : r.maxWarnings = none) :
    (lint resolver w r).ending = .exit 0 ↔
      ∀ f ∈ files, (l.lint f.1.text f.2).errorCount = 0 := by
  have hmake := Plan.make_eq_ok_iff.2 ⟨s, ignored, l, files, h⟩
  rw [lint_of_prepared resolver (prepared_of_init_eq_false w hinit) hmake, Lint.carryOut, hfix,
    hdry]
  simp only [Bool.or_self, Bool.false_eq_true, if_false]
  rw [Lint.ending_finish_eq_exit_zero_iff hmax, h.reports, List.forall_mem_map]

/-- A run with repairs leaves the new texts in the files, and it ends with exit code 0 if no errors
are left in the reports and nothing goes wrong when the repairs are told. -/
theorem lint_fixing (h : plan.IsMadeOf w r s ignored l files) (hnamed : w.tree.IsNamed)
    (hfix : r.fix = true) (hdry : r.dryRun = false) (hinit : r.init = false)
    (hmax : r.maxWarnings = none) :
    let u := (lint .greedy w r).tree
    w.tree.SameShape u ∧ (∀ f ∈ files, u.Holds f.1 (l.fixed f.1.text f.2)) ∧
      (∀ q, (∀ f ∈ files, w.tree.locate q ≠ w.tree.locate f.1) → u.read q = w.tree.read q) ∧
      ((lint .greedy w r).ending = .exit 0 →
        ∀ f ∈ files, (l.pass f.1.text f.2).report.errorCount = 0) ∧
      (r.verbose = false → (∀ f ∈ files, (l.pass f.1.text f.2).report.errorCount = 0) →
        (lint .greedy w r).ending = .exit 0) := by
  intro u
  obtain ⟨after, hall, hshape, hholds, hread⟩ := h.runAll hnamed
  have hrun := lint_of_prepared .greedy (prepared_of_init_eq_false w hinit)
    (Plan.make_eq_ok_iff.2 ⟨s, ignored, l, files, h⟩)
  rw [Plan.jobs] at hall
  rw [Lint.carryOut, hfix, hdry] at hrun
  simp only [Bool.or_false, if_true, hall, Bool.false_eq_true, if_false] at hrun
  rw [← Plan.jobs] at hrun
  have hcount : (∀ x ∈ (plan.jobs.map (·.stored false)).map (·.report), x.errorCount = 0) ↔
      ∀ f ∈ files, (l.pass f.1.text f.2).report.errorCount = 0 := by
    rw [h.reports_stored, List.forall_mem_map]
  cases hfault : (Lint.shownOutcomes false r.verbose (plan.jobs.map (·.stored false))).2 with
  | some fault =>
      rw [hfault] at hrun
      have hu : u = after := congrArg RunResult.tree hrun
      rw [hu, hrun]
      refine ⟨hshape, hholds, hread, fun hexit => Ending.noConfusion hexit, fun hquiet _ => ?_⟩
      rw [hquiet, Lint.fault_shownOutcomes] at hfault
      exact absurd hfault (by simp)
  | none =>
      rw [hfault] at hrun
      have hu : u = after := congrArg RunResult.tree hrun
      rw [hu, hrun, Lint.ending_finish_eq_exit_zero_iff hmax, hcount]
      exact ⟨hshape, hholds, hread, id, fun _ => id⟩

/-- Are no files linted that settings or patterns are read from? -/
def IsApart (w : World) (r : LintRequest) : Prop :=
  ∀ plan, Plan.make w r = .ok plan → ∀ report ∈ plan.reports,
    ∀ p ∈ Plan.consulted w.tree r, w.tree.locate p ≠ w.tree.locate (.ofText report.path)

/-- What the settings and the patterns are read from stays the same if only linted files change. -/
theorem IsApart.read_eq (hapart : IsApart w r) (h : plan.IsMadeOf w r s ignored l files)
    (hnamed : w.tree.IsNamed) {u : Tree}
    (hread : ∀ q, (∀ f ∈ files, w.tree.locate q ≠ w.tree.locate f.1) → u.read q = w.tree.read q) :
    ∀ p ∈ Plan.consulted w.tree r, u.read p = w.tree.read p := by
  intro p hp
  refine hread p fun f hf => ?_
  have hne := hapart plan (Plan.make_eq_ok_iff.2 ⟨s, ignored, l, files, h⟩)
    (l.lint f.1.text f.2) (by rw [h.reports]; exact List.mem_map_of_mem hf) p hp
  have hpath : Path.ofText (l.lint f.1.text f.2).path = f.1 :=
    Path.ofText_text (h.isNamed hnamed hf)
  rwa [hpath] at hne

/-- What a run without repairs finds right after one with repairs. -/
theorem ending_again_iff_errorCount (h : plan.IsMadeOf w r s ignored l files)
    (hnamed : w.tree.IsNamed) (hfix : r.fix = true) (hdry : r.dryRun = false)
    (hinit : r.init = false) (hmax : r.maxWarnings = none) (hapart : IsApart w r) :
    (lint .greedy { w with tree := (lint .greedy w r).tree } { r with fix := false }).ending =
        .exit 0 ↔
      ∀ f ∈ files, (l.lint f.1.text (l.fixed f.1.text f.2)).errorCount = 0 := by
  obtain ⟨hshape, hholds, hread, -, -⟩ := lint_fixing h hnamed hfix hdry hinit hmax
  have hafter := (h.after hshape (hapart.read_eq h hnamed hread) hholds).withFix false
  rw [ending_lint_iff hafter .greedy rfl hdry hinit hmax, List.forall_mem_map]

/-- **Linting again after a repair.**  If a run that repairs its files ends with exit code 0, then
the same run without repairs does so right afterwards, unless one of the texts relapses. -/
theorem ending_again_iff (hnamed : w.tree.IsNamed) (hfix : r.fix = true) (hdry : r.dryRun = false)
    (hinit : r.init = false) (hmax : r.maxWarnings = none) (hapart : IsApart w r)
    (hexit : (lint .greedy w r).ending = .exit 0) :
    ∃ s plan, Plan.settingsOf w r.formatter r.settingsFile = .ok s ∧ Plan.make w r = .ok plan ∧
      ((lint .greedy { w with tree := (lint .greedy w r).tree }
          { r with fix := false }).ending = .exit 0 ↔
        ∀ report ∈ plan.reports, ¬s.Relapses report.source) := by
  obtain ⟨plan, hmake⟩ := exists_plan .greedy hinit hexit
  obtain ⟨s, ignored, l, files, h⟩ := Plan.make_eq_ok_iff.1 hmake
  obtain ⟨-, -, -, hzero, -⟩ := lint_fixing h hnamed hfix hdry hinit hmax
  refine ⟨s, plan, h.settings, hmake, ?_⟩
  rw [ending_again_iff_errorCount h hnamed hfix hdry hinit hmax hapart, h.reports,
    List.forall_mem_map]
  exact forall₂_congr fun f hf =>
    Linter.errorCount_fixed_eq_zero_iff h.linter (hzero hexit f hf)

/-! ## A project with one file -/

/-- A current directory in which there is nothing but one source file. -/
def loneWorld (source : Text) : World :=
  { tree := ⟨[(["A.sol".toList], Utf8.encode source)], [], []⟩ }

/-- The request to repair that file. -/
def fixRequest : LintRequest :=
  ⟨["A.sol".toList], true, false, none, none, none, false, none, false, false⟩

theorem isMadeOf_loneWorld (source : Text) :
    Plan.IsMadeOf ⟨.stylish, [Linter.standard.lint "A.sol".toList source]⟩ (loneWorld source)
      fixRequest {} [] Linter.standard [(.ofText "A.sol".toList, source)] where
  settings := rfl
  format := rfl
  patterns := rfl
  linter := Linter.ofSettings_standard
  collected := rfl
  holds := List.forall_mem_singleton.2 ⟨_, rfl, Utf8.decode_encode source⟩
  reports := rfl

theorem isNamed_loneWorld (source : Text) : (loneWorld source).tree.IsNamed := by
  have hlisted : (loneWorld source).tree.listed = [["A.sol".toList]] := rfl
  rw [Tree.IsNamed, hlisted]
  decide

theorem isApart_loneWorld (source : Text) : IsApart (loneWorld source) fixRequest := by
  have hmake := Plan.make_eq_ok_iff.2 ⟨_, _, _, _, isMadeOf_loneWorld source⟩
  have hignore : Plan.consulted (loneWorld source).tree fixRequest =
      [.ofText "/.sollintignore".toList] := rfl
  intro plan hplan report hreport p hp
  rw [hmake, Except.ok.injEq] at hplan
  rw [← hplan, List.mem_singleton] at hreport
  rw [hignore, List.mem_singleton] at hp
  have hplaces : (loneWorld source).tree.locate p = .ok [".sollintignore".toList] ∧
      (loneWorld source).tree.locate (.ofText report.path) = .ok ["A.sol".toList] := by
    rw [hp, hreport]
    exact ⟨rfl, rfl⟩
  rw [hplaces.1, hplaces.2, ne_eq, Except.ok.injEq]
  decide

/-- The file is repaired with exit code 0 if none of its lines is too long. -/
theorem ending_fix_loneWorld {source : Text}
    (hshort : ∀ p ∈ Text.cutLines source, (Text.withoutEnd p).length ≤ 120) :
    (lint .greedy (loneWorld source) fixRequest).ending = .exit 0 := by
  obtain ⟨-, -, -, -, hexit⟩ := lint_fixing (isMadeOf_loneWorld source) (isNamed_loneWorld source)
    rfl rfl rfl rfl
  refine hexit rfl (List.forall_mem_singleton.2 (Nat.le_zero.1 ?_))
  have herrors : ∀ rule ∈ Rule.catalogue, rule.levelIn {} = .error →
      rule.check {} source = .ok [] := by
    rw [Rule.forall_mem_catalogue_iff]
    -- the other rules only warn
    exact ⟨fun h => absurd h (by decide), fun h => absurd h (by decide),
      fun h => absurd h (by decide), fun h => absurd h (by decide),
      fun _ => Rule.check_lineLength_eq_nil_iff.2 hshort⟩
  rw [← (Linter.errorCount_lint_eq_zero_iff Linter.ofSettings_standard).2 herrors]
  exact Linter.errorCount_pass_le _ _ _

/-- White space, a tab and blank lines that a repair removes for good. -/
theorem ending_again_of_short_lines :
    let w := loneWorld "\tuint x; \n\n\ny".toList
    let after := (lint .greedy w fixRequest).tree
    (lint .greedy w fixRequest).ending = .exit 0 ∧
      (lint .greedy { w with tree := after } { fixRequest with fix := false }).ending =
        .exit 0 := by
  intro w after
  have hexit : (lint .greedy w fixRequest).ending = .exit 0 :=
    ending_fix_loneWorld (by decide)
  obtain ⟨s, plan, hsettings, hmake, hagain⟩ := ending_again_iff (isNamed_loneWorld _) rfl rfl rfl
    rfl (isApart_loneWorld _) hexit
  have hplan := Plan.make_eq_ok_iff.2 ⟨_, _, _, _, isMadeOf_loneWorld "\tuint x; \n\n\ny".toList⟩
  have hdefault : Settings.mk [] [] [".sol".toList] {} "stylish".toList = s :=
    Except.ok.inj hsettings
  refine ⟨hexit, hagain.2 ?_⟩
  rw [← Except.ok.inj (hplan.symm.trans hmake), ← hdefault]
  refine List.forall_mem_singleton.2 (Settings.not_relapses_iff.2 ⟨fun hlevel => ?_,
    fun hlevel => ?_, fun _ => ?_⟩)
  · exact absurd hlevel (by decide)
  · exact absurd hlevel (by decide)
  · have hshort : ∀ p ∈ (Settings.repairs {}).survivors
        (Text.cutLines "\tuint x; \n\n\ny".toList),
        (Text.withoutEnd ((Settings.repairs {}).tidy p)).length ≤ 120 := by decide
    exact hshort

/-- A tab makes a line too long when it becomes spaces, and only the second run says so. -/
theorem ending_again_of_long_line :
    let w := loneWorld ('\t' :: List.replicate 117 'x' ++ ['\n'])
    let after := (lint .greedy w fixRequest).tree
    w.tree.IsNamed ∧ IsApart w fixRequest ∧ fixRequest.maxWarnings = none ∧
      (lint .greedy w fixRequest).ending = .exit 0 ∧
      (lint .greedy { w with tree := after } { fixRequest with fix := false }).ending ≠
        .exit 0 := by
  intro w after
  refine ⟨isNamed_loneWorld _, isApart_loneWorld _, rfl, ending_fix_loneWorld (by decide), ?_⟩
  rw [ne_eq, ending_again_iff_errorCount (isMadeOf_loneWorld _) (isNamed_loneWorld _) rfl rfl rfl
    rfl (isApart_loneWorld _), List.forall_mem_singleton,
    Linter.errorCount_lint_eq_zero_iff Linter.ofSettings_standard]
  intro hsilent
  obtain ⟨-, -, -, -, hlength⟩ := Rule.forall_mem_catalogue_iff.1 hsilent
  have hlong := hlength (by decide)
  rw [Rule.check_lineLength_eq_nil_iff, Linter.cutLines_fixed Linter.ofSettings_standard] at hlong
  revert hlong
  decide

end Run

end SolidityLint
