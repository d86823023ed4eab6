import Mathlib.Data.List.Nodup
import SolidityLint.Proofs.Pass.Silent

/-!
# Errors after a pass

Whether a run fails is decided by the errors that a pass leaves in its report, not by those that a
fresh look at the new text would find.  If the report is left without errors, there are four ways
in which the new text can have some (`Settings.Relapses`) and no others
(`errorCount_fixed_eq_zero_iff`).
-/

namespace SolidityLint

/-- How a text comes to have errors after a pass whose report has none. -/
inductive Settings.Relapses (s : Settings) (source : Text) : Prop
  /-- A line becomes too long when its tabs become spaces. -/
  | overlong (hlevel : Rule.lineLength.levelIn s = .error) {p : Text}
      (hp : p ∈ s.repairs.survivors (Text.cutLines source))
      (hlong : s.limits.lineLength < (Text.withoutEnd (s.repairs.tidy p)).length)
  /-- White space at the end of a line hides a carriage return with white space before it. -/
  | hiddenReturn (hlevel : Rule.trailingSpace.levelIn s = .error) {p : Text}
      (hp : p ∈ Text.cutLines source) (hhides : p.HidesReturn)
  /-- A line feed takes the place of a surplus of blank lines at the end. -/
  | reopenedRun (hlevel : Rule.blankRun.levelIn s = .error)
      (hnewline : Rule.finalNewline.isOn s = true)
      (hends : source.EndsInOpenRun s.limits.blankLines)
  /-- No blank line is allowed and there are no others, but a text has at least one line. -/
  | blankText (hlevel : Rule.blankRun.levelIn s = .error) (hzero : s.limits.blankLines = 0)
      (hblank : source.all Text.isBlank = true)

theorem Settings.not_relapses_iff {s : Settings} {source : Text} : ¬s.Relapses source ↔
    (Rule.trailingSpace.levelIn s = .error → ∀ p ∈ Text.cutLines source, ¬Text.HidesReturn p) ∧
      (Rule.blankRun.levelIn s = .error →
        ¬(Rule.finalNewline.isOn s = true ∧ source.EndsInOpenRun s.limits.blankLines) ∧
          ¬(s.limits.blankLines = 0 ∧ source.all Text.isBlank = true)) ∧
      (Rule.lineLength.levelIn s = .error → ∀ p ∈ s.repairs.survivors (Text.cutLines source),
        (Text.withoutEnd (s.repairs.tidy p)).length ≤ s.limits.lineLength) := by
  constructor
  · intro hnot
    refine ⟨fun hlevel p hp hhides => hnot (.hiddenReturn hlevel hp hhides), fun hlevel => ?_,
      fun hlevel p hp => Nat.le_of_not_lt fun hlong => hnot (.overlong hlevel hp hlong)⟩
    exact ⟨fun hends => hnot (.reopenedRun hlevel hends.1 hends.2),
      fun hblank => hnot (.blankText hlevel hblank.1 hblank.2)⟩
  · rintro ⟨htrailing, hrun, hlength⟩ hrelapses
    cases hrelapses with
    | overlong hlevel hp hlong => exact Nat.not_le.2 hlong (hlength hlevel _ hp)
    | hiddenReturn hlevel hp hhides => exact htrailing hlevel _ hp hhides
    | reopenedRun hlevel hnewline hends => exact (hrun hlevel).1 ⟨hnewline, hends⟩
    | blankText hlevel hzero hblank => exact (hrun hlevel).2 ⟨hzero, hblank⟩

namespace Rule

variable {rule : Rule} {s : Settings} {source : Text}

theorem isOn_of_levelIn_eq_error (h : rule.levelIn s = .error) : rule.isOn s = true := by
  rw [isOn, h]
  rfl

theorem forall_mem_catalogue_iff {P : Rule → Prop} : (∀ rule ∈ catalogue, P rule) ↔
    P trailingSpace ∧ P tabIndent ∧ P blankRun ∧ P finalNewline ∧ P lineLength := by
  simp [catalogue, fixableRules]

/-- No check of the catalogue fails. -/
theorem exists_findings (hrule : rule ∈ catalogue) (limits : Limits) (source : Text) :
    ∃ findings, rule.check limits source = .ok findings := by
  revert rule
  rw [forall_mem_catalogue_iff]
  exact ⟨⟨_, rfl⟩, ⟨_, rfl⟩, ⟨_, rfl⟩, ⟨_, rfl⟩, ⟨_, rfl⟩⟩

theorem eq_of_id_eq {other : Rule} (hrule : rule ∈ catalogue) (hother : other ∈ catalogue)
    (h : rule.id = other.id) : rule = other := by
  have hnodup : (catalogue.map (·.id)).Nodup := by decide
  exact List.inj_on_of_nodup_map hnodup hrule hother h

/-- The diagnostics of a rule are its findings at its level. -/
theorem mem_diagnosticsIn_iff {findings : List Finding} {d : Diagnostic}
    (hcheck : rule.check s.limits source = .ok findings) : d ∈ rule.diagnosticsIn s source ↔
      ∃ severity, (rule.levelIn s).severity? = some severity ∧
        ∃ x ∈ findings, (ActiveRule.mk rule severity).diagnose x = d := by
  cases hlevel : (rule.levelIn s).severity? with
  | none => simp [diagnosticsIn, activate?, hlevel]
  | some severity => simp [diagnosticsIn, activate?, hlevel, ActiveRule.run, hcheck]

theorem rule_of_mem_diagnosticsIn {d : Diagnostic} (hd : d ∈ rule.diagnosticsIn s source) :
    d.rule = rule.id := by
  obtain ⟨a, ha, hd⟩ := List.mem_flatMap.1 hd
  obtain ⟨severity, -, rfl⟩ := Option.map_eq_some_iff.1 (Option.mem_toList.1 ha)
  rw [ActiveRule.run] at hd
  split at hd
  · obtain ⟨x, -, rfl⟩ := List.mem_map.1 hd
    rfl
  · rw [List.mem_singleton.1 hd]
    rfl

theorem isError_of_mem_diagnosticsIn {d : Diagnostic} (hrule : rule ∈ catalogue)
    (hd : d ∈ rule.diagnosticsIn s source) : d.isError = true ↔ rule.levelIn s = .error := by
  obtain ⟨findings, hcheck⟩ := exists_findings hrule s.limits source
  obtain ⟨severity, hlevel, _, -, rfl⟩ := (mem_diagnosticsIn_iff hcheck).1 hd
  have hseverity : ∀ level : Level, level.severity? = some severity →
      (severity = .error ↔ level = .error) := by
    intro level
    cases level <;> cases severity <;> decide
  rw [Diagnostic.isError, ActiveRule.diagnose, beq_iff_eq]
  exact hseverity _ hlevel

theorem diagnosticsIn_eq_nil_iff (hrule : rule ∈ catalogue) (hon : rule.isOn s = true) :
    rule.diagnosticsIn s source = [] ↔ rule.check s.limits source = .ok [] := by
  obtain ⟨findings, hcheck⟩ := exists_findings hrule s.limits source
  rcases diagnosticsIn_cases hcheck with ⟨hoff, -⟩ | ⟨severity, -, heq⟩
  · rw [hon] at hoff
    exact Bool.noConfusion hoff
  · rw [heq, hcheck, List.map_eq_nil_iff, Except.ok.injEq]

end Rule

namespace Linter

variable {s : Settings} {l : Linter} {path source : Text}

theorem mem_diagnostics_iff (h : ofSettings Rule.catalogue s = .ok l) {d : Diagnostic} :
    d ∈ l.diagnostics source ↔ ∃ rule ∈ Rule.catalogue, d ∈ rule.diagnosticsIn s source := by
  rw [diagnostics, List.mem_mergeSort, flatMap_run_active h, List.mem_flatMap]

/-- A report has no errors if no rule at that level finds anything. -/
theorem errorCount_lint_eq_zero_iff (h : ofSettings Rule.catalogue s = .ok l) :
    (l.lint path source).errorCount = 0 ↔
      ∀ rule ∈ Rule.catalogue, rule.levelIn s = .error →
        rule.check s.limits source = .ok [] := by
  have hcount : (l.lint path source).errorCount = 0 ↔
      ∀ d ∈ l.diagnostics source, d.isError ≠ true := List.countP_eq_zero
  rw [hcount]
  constructor
  · intro hnone rule hrule hlevel
    rw [← Rule.diagnosticsIn_eq_nil_iff hrule (Rule.isOn_of_levelIn_eq_error hlevel),
      List.eq_nil_iff_forall_not_mem]
    exact fun d hd => hnone d ((mem_diagnostics_iff h).2 ⟨rule, hrule, hd⟩)
      ((Rule.isError_of_mem_diagnosticsIn hrule hd).2 hlevel)
  · intro hsilent d hd herror
    obtain ⟨rule, hrule, hd⟩ := (mem_diagnostics_iff h).1 hd
    have hlevel := (Rule.isError_of_mem_diagnosticsIn hrule hd).1 herror
    have hnil := (Rule.diagnosticsIn_eq_nil_iff hrule (Rule.isOn_of_levelIn_eq_error hlevel)).2
      (hsilent rule hrule hlevel)
    simp [hnil] at hd

/-! ## What a report without errors says about the pass -/

/-- If a pass leaves no errors in its report, then it leaves no edit of a rule at that level. -/
theorem rule_ne_of_errorCount_eq_zero (h : ofSettings Rule.catalogue s = .ok l)
    (hzero : (l.pass path source).report.errorCount = 0) (rule : Rule)
    (hrule : rule ∈ Rule.catalogue)
    (hlevel : rule.levelIn s = .error) : ∀ x ∈ s.repairs.rejected source, x.rule ≠ rule.id := by
  intro x hx heq
  rw [← map_fix_rejected_pass h path] at hx
  obtain ⟨c, hc, rfl⟩ := List.mem_map.1 hx
  rw [pass, Report.repairSafely_greedy] at hzero hc
  obtain ⟨i, hi, hd, -⟩ := Report.mem_candidates_iff.1 (Report.mem_candidates_of_mem_rejected _ hc)
  have hremains : c.diagnostic ∈ (l.lint path source).repaired.report.diagnostics :=
    Report.mem_diagnostics_prune hd (hi ▸ Report.order_ne_of_mem_rejected hc)
  obtain ⟨other, hother, hfound⟩ := (mem_diagnostics_iff h).1 (List.mem_of_getElem? hd)
  have hsame : other = rule := Rule.eq_of_id_eq hother hrule
    ((Rule.rule_of_mem_diagnosticsIn hfound).symm.trans heq)
  rw [hsame] at hfound
  exact List.countP_eq_zero.1 hzero _ hremains
    ((Rule.isError_of_mem_diagnosticsIn hrule hfound).2 hlevel)

/-- A pass brings no errors into its report. -/
theorem errorCount_pass_le (l : Linter) (path source : Text) :
    (l.pass path source).report.errorCount ≤ (l.lint path source).errorCount := by
  have hsublist : List.Sublist ((l.lint path source).repaired.report.diagnostics)
      (l.diagnostics source) := by
    have hfilter := (List.filter_sublist (l := (l.diagnostics source).zipIdx)
      (p := fun x => !(Resolver.greedy (l.lint path source).candidates).accepted.any
        fun c => c.order == (x.2 : Int))).map Prod.fst
    rwa [List.zipIdx_map_fst] at hfilter
  rw [pass, Report.repairSafely_greedy]
  exact hsublist.countP_le

/-- **Errors after a pass.**  If a pass leaves no errors in its report, then the new text has none
either, unless it relapses. -/
theorem errorCount_fixed_eq_zero_iff (h : ofSettings Rule.catalogue s = .ok l)
    (hzero : (l.pass path source).report.errorCount = 0) :
    (l.lint path (l.fixed path source)).errorCount = 0 ↔ ¬s.Relapses source := by
  obtain ⟨hleftTrailing, -, hleftRun, -, -⟩ :=
    Rule.forall_mem_catalogue_iff.1 (rule_ne_of_errorCount_eq_zero h hzero)
  rw [errorCount_lint_eq_zero_iff h, Rule.forall_mem_catalogue_iff, Settings.not_relapses_iff]
  have htabs : Rule.tabIndent.levelIn s = .error →
      Rule.tabIndent.check s.limits (l.fixed path source) = .ok [] := fun hlevel =>
    check_tabIndent_fixed h (Rule.isOn_of_levelIn_eq_error hlevel)
  have hnewline : Rule.finalNewline.levelIn s = .error →
      Rule.finalNewline.check s.limits (l.fixed path source) = .ok [] := fun hlevel =>
    check_finalNewline_fixed h (Rule.isOn_of_levelIn_eq_error hlevel)
  rw [and_iff_right htabs, and_iff_right hnewline]
  refine and_congr (forall_congr' fun hlevel => ?_)
    (and_congr (forall_congr' fun hlevel => ?_) (forall_congr' fun _ => ?_))
  · exact check_trailingSpace_fixed_iff h (Rule.isOn_of_levelIn_eq_error hlevel)
      (hleftTrailing hlevel)
  · exact check_blankRun_fixed_iff h (Rule.isOn_of_levelIn_eq_error hlevel) (hleftRun hlevel)
  · exact check_lineLength_fixed_iff h

end Linter

end SolidityLint
