import SolidityLint.Proofs.Pass.Errors

/-!
# What rules do not do to each other

Every rule looks at the text alone.

* `pass_eq_of_isOn_eq`: a pass depends on which of the rules with a repair run and on the number of
  blank lines that may follow each other, and on nothing else.  Neither a rule that only reports
  nor one that always fails (`Rule.Installed`) has a part in it.
* `filter_diagnostics`: what a report says about some rules is what it would say if there were no
  others.
* `lint_independent`: the part of a report about the rules that run under two settings is the same
  for both, apart from the severities.
-/

namespace SolidityLint

/-- What a diagnostic says, apart from how grave it is. -/
def Diagnostic.content (d : Diagnostic) : Text × Text × Range × Option FixProducer :=
  (d.rule, d.message, d.location, d.fix)

/-- Does the rule of the catalogue with a given identifier run? -/
def Settings.runs (s : Settings) (id : Text) : Bool :=
  Rule.catalogue.any fun rule => rule.id == id && rule.isOn s

theorem Settings.runs_id {rule : Rule} (hrule : rule ∈ Rule.catalogue) (s : Settings) :
    s.runs rule.id = rule.isOn s := by
  rw [Bool.eq_iff_iff, runs, List.any_eq_true]
  constructor
  · rintro ⟨other, hother, h⟩
    rw [Bool.and_eq_true, beq_iff_eq] at h
    rw [← Rule.eq_of_id_eq hother hrule h.1]
    exact h.2
  · exact fun hon => ⟨rule, hrule, by simp [hon]⟩

namespace Rule

/-- A catalogue with one more rule, whose check always fails. -/
structure Installed (bad : Rule) (rules : List Rule) : Prop where
  /-- The check of the rule fails on every text. -/
  fails : ∀ limits source, ∃ reason, bad.check limits source = .error reason
  /-- No rule of the catalogue has its identifier. -/
  fresh : bad.id ∉ catalogue.map (·.id)
  /-- It stands somewhere among the rules of the catalogue. -/
  place : ∃ front back, catalogue = front ++ back ∧ rules = front ++ bad :: back

variable {rule bad : Rule} {rules : List Rule} {s s' : Settings} {source : Text}

/-- A rule that always fails can be installed behind the others. -/
theorem installed_failing {id : Text} (hid : id ∉ catalogue.map (·.id)) (message : Text)
    (severity : Severity) :
    (failing id message severity).Installed (catalogue ++ [failing id message severity]) where
  fails _ _ := ⟨message, rfl⟩
  fresh := hid
  place := ⟨catalogue, [], (List.append_nil _).symm, rfl⟩

theorem Installed.id_ne (h : bad.Installed rules) (hrule : rule ∈ catalogue) :
    rule.id ≠ bad.id := fun heq => h.fresh (heq ▸ List.mem_map_of_mem hrule)

/-- The rule installed is the only one with its identifier. -/
theorem Installed.filter_own (h : bad.Installed rules) :
    (rules.filter fun rule => rule.id == bad.id) = [bad] := by
  obtain ⟨front, back, hcatalogue, rfl⟩ := h.place
  have hnone : ∀ part : List Rule, part ⊆ catalogue →
      (part.filter fun rule => rule.id == bad.id) = [] := fun part hpart =>
    List.filter_eq_nil_iff.2 fun rule hrule => by simpa using h.id_ne (hpart hrule)
  rw [List.filter_append, List.filter_cons, if_pos (beq_self_eq_true _),
    hnone front (hcatalogue ▸ List.subset_append_left ..),
    hnone back (hcatalogue ▸ List.subset_append_right ..), List.nil_append]

/-- The others are the rules of the catalogue. -/
theorem Installed.filter_others (h : bad.Installed rules) :
    (rules.filter fun rule => rule.id != bad.id) = catalogue := by
  obtain ⟨front, back, hcatalogue, rfl⟩ := h.place
  have hall : (catalogue.filter fun rule => rule.id != bad.id) = catalogue :=
    List.filter_eq_self.2 fun rule hrule => by simpa using h.id_ne hrule
  rw [List.filter_append, List.filter_cons, if_neg (by simp), ← List.filter_append, ← hcatalogue,
    hall]

theorem diagnosticsIn_of_off (hoff : rule.isOn s = false) : rule.diagnosticsIn s source = [] := by
  have hlevel : (rule.levelIn s).severity? = none := by simpa [isOn] using hoff
  simp [diagnosticsIn, activate?, hlevel]

/-- A rule that fails is reported as an error at the start of the text, whatever its level. -/
theorem diagnosticsIn_of_fails {reason : Text} (hcheck : bad.check s.limits source = .error reason)
    (hon : bad.isOn s = true) : bad.diagnosticsIn s source =
      [⟨bad.id, .error, "Rule failed: ".toList ++ reason, ⟨0, 0⟩, none⟩] := by
  obtain ⟨severity, hlevel⟩ := Option.isSome_iff_exists.1 hon
  simp [diagnosticsIn, activate?, hlevel, ActiveRule.run, hcheck, ActiveRule.failure]

/-- A rule that always fails never has a repair. -/
theorem Installed.filter_isFixable (h : bad.Installed rules) (s : Settings) (source : Text) :
    (bad.diagnosticsIn s source).filter (·.isFixable) = [] := by
  obtain ⟨reason, hcheck⟩ := h.fails s.limits source
  cases hon : bad.isOn s with
  | false => rw [diagnosticsIn_of_off hon, List.filter_nil]
  | true =>
      rw [diagnosticsIn_of_fails hcheck hon]
      rfl

/-- What a rule reports depends on its own level and the limits alone. -/
theorem diagnosticsIn_congr (hlevel : rule.levelIn s' = rule.levelIn s)
    (hlimits : s'.limits = s.limits) (source : Text) :
    rule.diagnosticsIn s' source = rule.diagnosticsIn s source := by
  rw [diagnosticsIn, diagnosticsIn, activate?, activate?, hlevel, hlimits]

/-- Two levels other than off differ in the severity of what a rule reports and in nothing else. -/
theorem map_content_diagnosticsIn (hon : rule.isOn s = true) (hon' : rule.isOn s' = true)
    (hlimits : s'.limits = s.limits) (source : Text) :
    (rule.diagnosticsIn s' source).map Diagnostic.content =
      (rule.diagnosticsIn s source).map Diagnostic.content := by
  obtain ⟨severity, hlevel⟩ := Option.isSome_iff_exists.1 hon
  obtain ⟨severity', hlevel'⟩ := Option.isSome_iff_exists.1 hon'
  have hrun : ∀ limits, ((ActiveRule.mk rule severity').run limits source).map Diagnostic.content =
      ((ActiveRule.mk rule severity).run limits source).map Diagnostic.content := by
    intro limits
    cases hcheck : rule.check limits source with
    | ok findings =>
        simp only [ActiveRule.run, hcheck, List.map_map]
        rfl
    | error reason => simp [ActiveRule.run, hcheck, ActiveRule.failure, Diagnostic.content]
  simp [diagnosticsIn, activate?, hlevel, hlevel', hlimits, hrun]

end Rule

/-- The repairs that run are known from the rules that can repair what they find. -/
theorem Settings.repairs_eq {s₁ s₂ : Settings}
    (hon : ∀ rule ∈ Rule.fixableRules, rule.isOn s₁ = rule.isOn s₂)
    (hlimit : s₁.limits.blankLines = s₂.limits.blankLines) : s₁.repairs = s₂.repairs := by
  simp only [Rule.fixableRules, List.forall_mem_cons] at hon
  obtain ⟨htrailing, htabs, hrun, hnewline, -⟩ := hon
  rw [repairs, repairs, htrailing, htabs, hrun, hnewline, hlimit]

namespace Linter

variable {s s' s₁ s₂ : Settings} {l l' l₁ l₂ : Linter} {rules rules₁ rules₂ : List Rule}
  {bad : Rule} {source : Text}

/-! ## Repairs -/

/-- A rule that always fails offers nothing. -/
theorem carries_of_installed (hbad : bad.Installed rules) (h : ofSettings rules s = .ok l) :
    l.Carries s.repairs := by
  intro source
  obtain ⟨front, back, hcatalogue, rfl⟩ := hbad.place
  rw [flatMap_run_active h]
  refine (Repairs.offers_catalogue s source).of_filter_eq ?_
  rw [hcatalogue, List.flatMap_append, List.flatMap_append, List.flatMap_cons, List.filter_append,
    List.filter_append, List.filter_append, hbad.filter_isFixable, List.nil_append]

theorem carries_of_rules (hrules : rules = Rule.catalogue ∨ ∃ bad : Rule, bad.Installed rules)
    (h : ofSettings rules s = .ok l) : l.Carries s.repairs := by
  obtain rfl | ⟨bad, hbad⟩ := hrules
  · exact carries_of_ofSettings h
  · exact carries_of_installed hbad h

/-- **What a pass depends on.**  Settings under which the same rules with a repair run, and which
allow the same number of blank lines, lead to the same pass: whatever the severities, whether long
lines are reported, and whether one more rule runs that always fails. -/
theorem pass_eq_of_isOn_eq
    (hrules₁ : rules₁ = Rule.catalogue ∨ ∃ bad : Rule, bad.Installed rules₁)
    (hrules₂ : rules₂ = Rule.catalogue ∨ ∃ bad : Rule, bad.Installed rules₂)
    (h₁ : ofSettings rules₁ s₁ = .ok l₁) (h₂ : ofSettings rules₂ s₂ = .ok l₂)
    (hon : ∀ rule ∈ Rule.fixableRules, rule.isOn s₁ = rule.isOn s₂)
    (hlimit : s₁.limits.blankLines = s₂.limits.blankLines) (path₁ path₂ source : Text) :
    let o₁ := l₁.pass path₁ source
    let o₂ := l₂.pass path₂ source
    o₁.patch.output = o₂.patch.output ∧ o₁.patch.changed = o₂.patch.changed ∧
      o₁.accepted.map Candidate.fix = o₂.accepted.map Candidate.fix ∧
      o₁.rejected.map Candidate.fix = o₂.rejected.map Candidate.fix := by
  intro o₁ o₂
  have hc₁ : l₁.Carries s₁.repairs := carries_of_rules hrules₁ h₁
  have hc₂ : l₂.Carries s₁.repairs := by
    rw [Settings.repairs_eq hon hlimit]
    exact carries_of_rules hrules₂ h₂
  have haccepted : o₁.accepted.map Candidate.fix = o₂.accepted.map Candidate.fix :=
    (hc₁.map_fix_accepted path₁ source).trans (hc₂.map_fix_accepted path₂ source).symm
  refine ⟨(hc₁.fixed_eq path₁ source).trans (hc₂.fixed_eq path₂ source).symm, ?_, haccepted,
    (hc₁.map_fix_rejected path₁ source).trans (hc₂.map_fix_rejected path₂ source).symm⟩
  rw [changed_pass, changed_pass, ← List.isEmpty_map (f := Candidate.fix), haccepted,
    List.isEmpty_map]

/-- Another severity, long lines not reported, another presentation, and a rule that fails. -/
theorem pass_eq_of_other_settings :
    let s : Settings :=
      { rules := [(Rule.tabIndent.id, .error), (Rule.lineLength.id, .off)]
        limits := { lineLength := 80 }
        formatter := "json".toList }
    let rules := Rule.catalogue ++ [Rule.failing "boom".toList "no answer".toList .warning]
    let source := "\tuint a; \n\n\n \n".toList
    ∃ l, ofSettings rules s = .ok l ∧
      (standard.pass [] source).patch.output = (l.pass [] source).patch.output ∧
      (standard.pass [] source).patch.changed = (l.pass [] source).patch.changed ∧
      (standard.pass [] source).accepted.map Candidate.fix =
        (l.pass [] source).accepted.map Candidate.fix ∧
      (standard.pass [] source).rejected.map Candidate.fix =
        (l.pass [] source).rejected.map Candidate.fix := by
  intro s rules source
  have hlinter : ofSettings rules s = .ok ⟨s.limits, _⟩ := ofSettings_of_known (by decide)
  refine ⟨_, hlinter, pass_eq_of_isOn_eq (.inl rfl) (.inr ⟨_, Rule.installed_failing ?_ _ _⟩)
    ofSettings_standard hlinter ?_ rfl [] [] source⟩
  · decide
  · decide

/-! ## Reports -/

theorem flatMap_filter_eq {α β : Type} {p : α → Bool} {f g : α → List β} {xs : List α}
    (h : ∀ a ∈ xs, g a = if p a then f a else []) : (xs.filter p).flatMap f = xs.flatMap g := by
  induction xs with
  | nil => rfl
  | cons a xs ih =>
      have ha := h a (List.mem_cons_self ..)
      have hrest := ih fun b hb => h b (List.mem_cons_of_mem _ hb)
      rw [List.flatMap_cons, ha, ← hrest, List.filter_cons]
      split <;> simp

/-- **Reports by rule.**  What a report says about some rules is what it would say if the others
did not exist. -/
theorem filter_diagnostics (h : ofSettings rules s = .ok l) (about : Text → Bool) (source : Text) :
    (l.diagnostics source).filter (fun d => about d.rule) =
      ((rules.filter fun rule => about rule.id).flatMap
        (·.diagnosticsIn s source)).mergeSort startsBefore := by
  have hranking : Order.IsRanking startsBefore :=
    Order.isRanking_of_key fun d : Diagnostic => d.location.start
  rw [diagnostics, Order.filter_mergeSort hranking, flatMap_run_active h, List.filter_flatMap]
  congr 1
  refine (flatMap_filter_eq fun rule _ => ?_).symm
  have hrule : ∀ d ∈ rule.diagnosticsIn s source, about d.rule = about rule.id := fun d hd => by
    rw [Rule.rule_of_mem_diagnosticsIn hd]
  split
  · rename_i habout
    exact List.filter_eq_self.2 fun d hd => (hrule d hd).trans habout
  · rename_i habout
    exact List.filter_eq_nil_iff.2 fun d hd => by rwa [hrule d hd]

/-- The diagnostics of the rules that run under two settings. -/
theorem map_content_filter_diagnostics (h : ofSettings Rule.catalogue s = .ok l)
    (h' : ofSettings Rule.catalogue s' = .ok l') (hlimits : s'.limits = s.limits) (source : Text) :
    ((l'.diagnostics source).filter fun d => s.runs d.rule && s'.runs d.rule).map
        Diagnostic.content =
      ((l.diagnostics source).filter fun d => s.runs d.rule && s'.runs d.rule).map
        Diagnostic.content := by
  let byStart (x y : Text × Text × Range × Option FixProducer) : Bool :=
    decide (x.2.2.1.start ≤ y.2.2.1.start)
  have hmap : ∀ ds : List Diagnostic, (ds.mergeSort startsBefore).map Diagnostic.content =
      (ds.map Diagnostic.content).mergeSort byStart := fun ds =>
    List.map_mergeSort fun _ _ _ _ => rfl
  rw [filter_diagnostics h fun id => s.runs id && s'.runs id,
    filter_diagnostics h' fun id => s.runs id && s'.runs id, hmap, hmap, List.map_flatMap,
    List.map_flatMap]
  congr 1
  refine List.flatMap_congr fun rule hrule => ?_
  obtain ⟨hmem, hruns⟩ := List.mem_filter.1 hrule
  rw [Bool.and_eq_true, Settings.runs_id hmem, Settings.runs_id hmem] at hruns
  exact Rule.map_content_diagnosticsIn hruns.1 hruns.2 hlimits source

/-- A diagnostic has the severity that the level of its rule stands for. -/
theorem severity_of_mem_diagnostics (h : ofSettings Rule.catalogue s = .ok l) {d : Diagnostic}
    (hd : d ∈ l.diagnostics source) : ∃ rule ∈ Rule.catalogue,
      rule.id = d.rule ∧ (rule.levelIn s).severity? = some d.severity := by
  obtain ⟨rule, hrule, hd⟩ := (mem_diagnostics_iff h).1 hd
  obtain ⟨findings, hcheck⟩ := Rule.exists_findings hrule s.limits source
  obtain ⟨severity, hlevel, x, -, rfl⟩ := (Rule.mem_diagnosticsIn_iff hcheck).1 hd
  exact ⟨rule, hrule, rfl, hlevel⟩

/-- Turning rules off takes their diagnostics out of a report. -/
theorem diagnostics_eq_filter (h : ofSettings Rule.catalogue s = .ok l)
    (h' : ofSettings Rule.catalogue s' = .ok l') (hlimits : s'.limits = s.limits)
    (hlevels : ∀ rule ∈ Rule.catalogue, rule.isOn s' = true → rule.levelIn s' = rule.levelIn s)
    (source : Text) :
    l'.diagnostics source = (l.diagnostics source).filter fun d => s'.runs d.rule := by
  rw [filter_diagnostics h s'.runs, diagnostics, flatMap_run_active h']
  congr 1
  refine (flatMap_filter_eq fun rule hrule => ?_).symm
  rw [Settings.runs_id hrule]
  split
  · rename_i hon
    exact Rule.diagnosticsIn_congr (hlevels rule hrule hon) hlimits source
  · rename_i hoff
    exact Rule.diagnosticsIn_of_off (by simpa using hoff)

/-- A rule that always fails adds its failure to a report and changes nothing else. -/
theorem diagnostics_of_installed (h : ofSettings Rule.catalogue s = .ok l)
    (hbad : bad.Installed rules) (h' : ofSettings rules s' = .ok l')
    (hlimits : s'.limits = s.limits)
    (hlevels : ∀ rule ∈ Rule.catalogue, rule.levelIn s' = rule.levelIn s)
    (hon : bad.isOn s' = true) (source : Text) :
    (∃ reason, bad.check s.limits source = .error reason ∧
      (l'.diagnostics source).filter (fun d => d.rule == bad.id) =
        [⟨bad.id, .error, "Rule failed: ".toList ++ reason, ⟨0, 0⟩, none⟩]) ∧
      (l'.diagnostics source).filter (fun d => d.rule != bad.id) = l.diagnostics source := by
  constructor
  · obtain ⟨reason, hcheck⟩ := hbad.fails s.limits source
    refine ⟨reason, hcheck, ?_⟩
    rw [filter_diagnostics h' fun id => id == bad.id, hbad.filter_own, List.flatMap_singleton,
      Rule.diagnosticsIn_of_fails (hlimits ▸ hcheck) hon, List.mergeSort_singleton]
  · rw [filter_diagnostics h' fun id => id != bad.id, hbad.filter_others, diagnostics,
      flatMap_run_active h]
    congr 1
    exact List.flatMap_congr fun rule hrule =>
      Rule.diagnosticsIn_congr (hlevels rule hrule) hlimits source

/-- **Rules do not influence each other's reports.**  A diagnostic has the severity that the level
of its rule stands for.  Under other settings with the same limits the rules that run in both cases
report the same, apart from severities, and turning rules off takes their diagnostics out of the
report.  One more rule, whose check always fails, adds its failure and nothing else. -/
theorem lint_independent (h : ofSettings Rule.catalogue s = .ok l) (path source : Text) :
    let found := (l.lint path source).diagnostics
    (∀ d ∈ found, ∃ rule ∈ Rule.catalogue,
      rule.id = d.rule ∧ (rule.levelIn s).severity? = some d.severity) ∧
    (∀ s' l' path', ofSettings Rule.catalogue s' = .ok l' → s'.limits = s.limits →
      let found' := (l'.lint path' source).diagnostics
      ((found'.filter fun d => s.runs d.rule && s'.runs d.rule).map Diagnostic.content =
        (found.filter fun d => s.runs d.rule && s'.runs d.rule).map Diagnostic.content) ∧
      ((∀ rule ∈ Rule.catalogue, rule.isOn s' = true → rule.levelIn s' = rule.levelIn s) →
        found' = found.filter fun d => s'.runs d.rule)) ∧
    ∀ bad rules s' l' path', Rule.Installed bad rules → ofSettings rules s' = .ok l' →
      s'.limits = s.limits → (∀ rule ∈ Rule.catalogue, rule.levelIn s' = rule.levelIn s) →
      bad.isOn s' = true →
      let found' := (l'.lint path' source).diagnostics
      (∃ reason, bad.check s.limits source = .error reason ∧
        found'.filter (fun d => d.rule == bad.id) =
          [⟨bad.id, .error, "Rule failed: ".toList ++ reason, ⟨0, 0⟩, none⟩]) ∧
        found'.filter (fun d => d.rule != bad.id) = found := by
  refine ⟨fun d hd => severity_of_mem_diagnostics h hd, fun s' l' path' h' hlimits => ⟨?_, ?_⟩, ?_⟩
  · exact map_content_filter_diagnostics h h' hlimits source
  · exact fun hlevels => diagnostics_eq_filter h h' hlimits hlevels source
  · intro bad rules s' l' path' hbad h' hlimits hlevels hon
    exact diagnostics_of_installed h hbad h' hlimits hlevels hon source

/-- One rule is turned off, and a rule that fails is installed. -/
theorem lint_independent_of_failing :
    let s : Settings := { rules := [(Rule.tabIndent.id, .off)] }
    let bad := Rule.failing "boom".toList "no answer".toList .warning
    let source := "\ta \n\n\n".toList
    ∃ l l', ofSettings Rule.catalogue s = .ok l ∧ ofSettings (Rule.catalogue ++ [bad]) {} = .ok l' ∧
      (l.lint [] source).diagnostics =
        (standard.lint [] source).diagnostics.filter (fun d => s.runs d.rule) ∧
      (∃ reason, bad.check ({} : Settings).limits source = .error reason ∧
        (l'.lint [] source).diagnostics.filter (fun d => d.rule == bad.id) =
          [⟨bad.id, .error, "Rule failed: ".toList ++ reason, ⟨0, 0⟩, none⟩]) ∧
      (l'.lint [] source).diagnostics.filter (fun d => d.rule != bad.id) =
        (standard.lint [] source).diagnostics := by
  intro s bad source
  have hoff : ofSettings Rule.catalogue s = .ok ⟨s.limits, _⟩ := ofSettings_of_known (by decide)
  have hbad : ofSettings (Rule.catalogue ++ [bad]) {} = .ok ⟨({} : Settings).limits, _⟩ :=
    ofSettings_of_rules_eq_nil rfl
  obtain ⟨-, hother, hfailing⟩ := lint_independent ofSettings_standard [] source
  refine ⟨_, _, hoff, hbad, (hother s _ [] hoff rfl).2 (by decide), ?_⟩
  exact hfailing bad _ {} _ [] (Rule.installed_failing (by decide) _ _) hbad rfl
    (fun _ _ => rfl) (by decide)

end Linter

end SolidityLint
