import SolidityLint.Proofs.Pass.Independent
import SolidityLint.Proofs.Rule.Located

/-!
# Reports of the catalogue are in order

The findings of the rules lie within the text, one behind the other, and their repairs edit just
what they report (`Rule.exists_orderly_findings`).  So a report has diagnostics within its text
only, every repair that one of them knows is a candidate for this very range, and no producer ever
asks for a range outside the text (`lint_orderly`).  A pass leaves edits only where rules stand in
each other's way: with one of the rules that can repair nothing is left.
-/

namespace SolidityLint

/-! ## Candidates for all fixable diagnostics -/

/-- Elements chosen with their places are those chosen without. -/
theorem map_fst_filter_zipIdx {α : Type} (p : α → Bool) (xs : List α) :
    (xs.zipIdx.filter fun x => p x.1).map Prod.fst = xs.filter p := by
  conv_rhs => rw [← List.zipIdx_map_fst 0 xs, List.filter_map]
  rfl

namespace Report

variable {r : Report}

/-- A report in which every fixable diagnostic offers an edit has a candidate for each of them. -/
theorem map_diagnostic_candidates
    (h : ∀ d ∈ r.diagnostics, d.isFixable = true → (d.edit? (.ofText r.source)).isSome = true) :
    (r.candidates.map fun c => (c.diagnostic, c.order)) =
      (r.diagnostics.zipIdx.filter fun x => x.1.isFixable).map fun x => (x.1, (x.2 : Int)) := by
  rw [candidates, candidatesFor, List.map_filterMap, ← List.filterMap_eq_map, List.filterMap_filter]
  refine List.filterMap_congr fun x hx => ?_
  have hd : x.1 ∈ r.diagnostics := by
    rw [← List.zipIdx_map_fst 0 r.diagnostics]
    exact List.mem_map_of_mem hx
  cases hfixable : x.1.isFixable with
  | true =>
      obtain ⟨e, he⟩ := Option.isSome_iff_exists.1 (h x.1 hd hfixable)
      simp [Diagnostic.candidate?, he]
  | false =>
      have hnone : x.1.fix = none := by simpa [Diagnostic.isFixable] using hfixable
      simp [Diagnostic.candidate?, Diagnostic.edit?, Diagnostic.offer?, hnone]

/-- If the applied candidates are those of all fixable diagnostics, the others remain. -/
theorem diagnostics_prune_of_forall_mem {applied : List Candidate}
    (h : ∀ x ∈ r.diagnostics.zipIdx,
      x.1.isFixable = true ↔ ∃ c ∈ applied, c.order = (x.2 : Int)) :
    (r.prune applied).diagnostics = r.diagnostics.filter fun d => !d.isFixable := by
  rw [← map_fst_filter_zipIdx, prune]
  refine congrArg (List.map Prod.fst) (List.filter_congr fun x hx => ?_)
  rw [Bool.not_inj_iff, Bool.eq_iff_iff, h x hx, List.any_eq_true]
  simp

end Report

/-! ## Diagnostics in order -/

/-- What a diagnostic says, apart from the rule it belongs to and how grave it is. -/
def Diagnostic.finding (d : Diagnostic) : Finding :=
  ⟨d.message, d.location, d.fix⟩

namespace Rule

variable {s : Settings} {source : Text} {rule : Rule}

/-- Only one rule of the catalogue has its identifier. -/
theorem filter_id_catalogue (hrule : rule ∈ catalogue) :
    (catalogue.filter fun other => other.id == rule.id) = [rule] := by
  revert rule
  rw [forall_mem_catalogue_iff]
  exact ⟨rfl, rfl, rfl, rfl, rfl⟩

theorem orderly_diagnosticsIn (hrule : rule ∈ catalogue) (s : Settings) (source : Text) :
    Finding.Orderly source ((rule.diagnosticsIn s source).map Diagnostic.finding) := by
  obtain ⟨findings, hcheck, horderly⟩ := exists_orderly_findings hrule s.limits source
  rcases diagnosticsIn_cases hcheck with ⟨-, hnil⟩ | ⟨severity, -, heq⟩
  · rw [hnil]
    exact ⟨by simp, by simp, .nil⟩
  · have hback : (findings.map (ActiveRule.mk rule severity).diagnose).map Diagnostic.finding =
        findings := List.map_map.trans (List.map_id findings)
    rwa [heq, hback]

/-- Only a rule that can repair what it finds has fixable diagnostics. -/
theorem isFixable_of_mem_diagnosticsIn (hrule : rule ∈ catalogue) {d : Diagnostic}
    (hd : d ∈ rule.diagnosticsIn s source) (hfixable : d.isFixable = true) :
    rule.isFixable = true := by
  have hnone : ∀ d ∈ lineLength.diagnosticsIn s source, ¬d.isFixable = true :=
    List.countP_eq_zero.1 (Repairs.offers_lineLength s source).countP_isFixable
  revert rule
  rw [forall_mem_catalogue_iff]
  exact ⟨fun _ => rfl, fun _ => rfl, fun _ => rfl, fun _ => rfl,
    fun hd => absurd hfixable (hnone d hd)⟩

end Rule

namespace Linter

variable {s : Settings} {l : Linter} {path source : Text} {d : Diagnostic}

/-- The diagnostics of one rule in a report. -/
theorem orderly_filter_diagnostics (h : ofSettings Rule.catalogue s = .ok l) (source id : Text) :
    Finding.Orderly source
      (((l.diagnostics source).filter fun d => d.rule == id).map Diagnostic.finding) := by
  rw [filter_diagnostics h (· == id)]
  by_cases hid : ∃ rule ∈ Rule.catalogue, rule.id = id
  · obtain ⟨rule, hrule, rfl⟩ := hid
    have horderly := Rule.orderly_diagnosticsIn hrule s source
    have hsorted : ((rule.diagnosticsIn s source).mergeSort startsBefore) =
        rule.diagnosticsIn s source := by
      refine List.mergeSort_of_pairwise ((List.pairwise_map.1 horderly.apart).imp_of_mem ?_)
      intro a b ha _ hab
      have hle := (horderly.admits _ (List.mem_map_of_mem ha)).2.1
      exact decide_eq_true (Int.le_trans hle hab)
    rwa [Rule.filter_id_catalogue hrule, List.flatMap_singleton, hsorted]
  · have hnone : (Rule.catalogue.filter fun rule => rule.id == id) = [] :=
      List.filter_eq_nil_iff.2 fun rule hrule heq => hid ⟨rule, hrule, by simpa using heq⟩
    rw [hnone, List.flatMap_nil, List.mergeSort_nil]
    exact ⟨by simp, by simp, .nil⟩

theorem admits_of_mem_diagnostics (h : ofSettings Rule.catalogue s = .ok l)
    (hd : d ∈ l.diagnostics source) : (EditFactory.ofText source).Admits d.location :=
  (orderly_filter_diagnostics h source d.rule).admits d.finding
    (List.mem_map_of_mem (List.mem_filter.2 ⟨hd, beq_self_eq_true _⟩))

/-- The producer of a diagnostic answers with an edit of its range. -/
theorem answer_of_mem_diagnostics (h : ofSettings Rule.catalogue s = .ok l)
    (hd : d ∈ l.diagnostics source) {producer : FixProducer} (hfix : d.fix = some producer) :
    ∃ text, producer (.ofText source) = .ok (some ⟨d.location, text⟩) :=
  (orderly_filter_diagnostics h source d.rule).direct d.finding
    (List.mem_map_of_mem (List.mem_filter.2 ⟨hd, beq_self_eq_true _⟩)) producer hfix _
    (admits_of_mem_diagnostics h hd)

/-! ## Candidates and passes -/

theorem edit?_of_mem_diagnostics (h : ofSettings Rule.catalogue s = .ok l)
    (hd : d ∈ l.diagnostics source) (hfixable : d.isFixable = true) :
    (d.edit? (.ofText source)).isSome = true := by
  obtain ⟨producer, hfix⟩ := Option.isSome_iff_exists.1 hfixable
  obtain ⟨text, hanswer⟩ := answer_of_mem_diagnostics h hd hfix
  exact Option.isSome_iff_exists.2 ⟨_, Diagnostic.edit?_eq_some_iff.2
    ⟨producer, hfix, hanswer, admits_of_mem_diagnostics h hd⟩⟩

theorem range_of_mem_candidates (h : ofSettings Rule.catalogue s = .ok l) {c : Candidate}
    (hc : c ∈ (l.lint path source).candidates) : c.edit.range = c.diagnostic.location := by
  obtain ⟨i, -, hd, he⟩ := Report.mem_candidates_iff.1 hc
  obtain ⟨producer, hfix, hanswer, -⟩ := Diagnostic.edit?_eq_some_iff.1 he
  obtain ⟨text, hanswer'⟩ := answer_of_mem_diagnostics h (List.mem_of_getElem? hd) hfix
  have heq : some c.edit = some ⟨c.diagnostic.location, text⟩ :=
    Except.ok.inj (hanswer.symm.trans hanswer')
  rw [Option.some_inj.1 heq]

/-- With one of the rules that can repair, all fixable diagnostics are its own. -/
theorem rule_eq_of_isFixable (h : ofSettings Rule.catalogue s = .ok l)
    (hone : (Rule.catalogue.filter fun rule => rule.isFixable && rule.isOn s).length ≤ 1)
    {d' : Diagnostic} (hd : d ∈ l.diagnostics source) (hfixable : d.isFixable = true)
    (hd' : d' ∈ l.diagnostics source) (hfixable' : d'.isFixable = true) : d.rule = d'.rule := by
  have hmem : ∀ x ∈ l.diagnostics source, x.isFixable = true →
      ∃ rule ∈ Rule.catalogue.filter fun rule => rule.isFixable && rule.isOn s,
        x.rule = rule.id := by
    intro x hx hfix
    obtain ⟨rule, hrule, hx⟩ := (mem_diagnostics_iff h).1 hx
    have hon : rule.isOn s = true := by
      by_contra hoff
      rw [Rule.diagnosticsIn_of_off (by simpa using hoff)] at hx
      exact List.not_mem_nil hx
    refine ⟨rule, List.mem_filter.2 ⟨hrule, ?_⟩, Rule.rule_of_mem_diagnosticsIn hx⟩
    rw [Rule.isFixable_of_mem_diagnosticsIn hrule hx hfix, hon, Bool.and_self]
  obtain ⟨rule, hrule, heq⟩ := hmem d hd hfixable
  obtain ⟨rule', hrule', heq'⟩ := hmem d' hd' hfixable'
  rw [heq, heq']
  generalize Rule.catalogue.filter (fun rule => rule.isFixable && rule.isOn s) = rules
    at hone hrule hrule'
  rcases rules with _ | ⟨only, _ | _⟩
  · exact absurd hrule List.not_mem_nil
  · rw [List.mem_singleton.1 hrule, List.mem_singleton.1 hrule']
  · simp only [List.length_cons] at hone
    omega

/-- So they lie one behind the other. -/
theorem pairwise_fixable_diagnostics (h : ofSettings Rule.catalogue s = .ok l)
    (hone : (Rule.catalogue.filter fun rule => rule.isFixable && rule.isOn s).length ≤ 1)
    (source : Text) : ((l.diagnostics source).filter (·.isFixable)).Pairwise fun a b =>
      a.location.stop ≤ b.location.start := by
  cases hfixable : (l.diagnostics source).filter (·.isFixable) with
  | nil => exact .nil
  | cons first rest =>
      obtain ⟨hfirst, hfirstFixable⟩ :=
        List.mem_filter.1 (hfixable ▸ List.mem_cons_self (a := first) (l := rest))
      have hown : (l.diagnostics source).filter (·.isFixable) =
          ((l.diagnostics source).filter fun d => d.rule == first.rule).filter (·.isFixable) := by
        rw [List.filter_filter]
        refine List.filter_congr fun d hd => ?_
        cases hfix : d.isFixable with
        | false => rfl
        | true => simp [rule_eq_of_isFixable h hone hd hfix hfirst hfirstFixable]
      have hpairs := (orderly_filter_diagnostics h source first.rule).apart
      rw [← hfixable, hown]
      exact (List.pairwise_map.1 hpairs).filter _

theorem map_diagnostic_candidates_lint (h : ofSettings Rule.catalogue s = .ok l)
    (path source : Text) :
    ((l.lint path source).candidates.map fun c => (c.diagnostic, c.order)) =
      ((l.lint path source).diagnostics.zipIdx.filter fun x => x.1.isFixable).map
        fun x => (x.1, (x.2 : Int)) :=
  Report.map_diagnostic_candidates fun _ hd => edit?_of_mem_diagnostics h hd

/-- The edits that the rules offer then lie one behind the other, too. -/
theorem pairwise_fixes (h : ofSettings Rule.catalogue s = .ok l)
    (hone : (Rule.catalogue.filter fun rule => rule.isFixable && rule.isOn s).length ≤ 1)
    (source : Text) : (s.repairs.fixes source).Pairwise fun x y => x.stop ≤ y.start := by
  have hdiagnostics : (l.lint [] source).candidates.map (·.diagnostic) =
      (l.diagnostics source).filter (·.isFixable) := by
    have hpairs := congrArg (List.map Prod.fst) (map_diagnostic_candidates_lint h [] source)
    rw [List.map_map, List.map_map] at hpairs
    exact hpairs.trans (map_fst_filter_zipIdx ..)
  have happart := pairwise_fixable_diagnostics h hone source
  rw [← hdiagnostics, List.pairwise_map] at happart
  rw [← (carries_of_ofSettings h).map_fix_candidates [] source, List.pairwise_map]
  refine happart.imp_of_mem fun {a b} ha hb hab => ?_
  rwa [← range_of_mem_candidates h ha, ← range_of_mem_candidates h hb] at hab

theorem rejected_pass_eq_nil (h : ofSettings Rule.catalogue s = .ok l)
    (hone : (Rule.catalogue.filter fun rule => rule.isFixable && rule.isOn s).length ≤ 1)
    (path source : Text) : (l.pass path source).rejected = [] := by
  have hstart : ∀ x ∈ s.repairs.fixes source, 0 ≤ x.start := by
    rw [← (carries_of_ofSettings h).map_fix_candidates path source, List.forall_mem_map]
    exact fun c hc => (Report.admits_of_mem_candidates hc).1
  rw [← List.map_eq_nil_iff, map_fix_rejected_pass h]
  exact (Repairs.accepted_of_pairwise hstart (pairwise_fixes h hone source)).2

/-- A pass that leaves no edit takes all fixable diagnostics out of the report. -/
theorem diagnostics_pass_of_rejected_eq_nil (h : ofSettings Rule.catalogue s = .ok l)
    (hnone : (l.pass path source).rejected = []) :
    (l.pass path source).report.diagnostics =
      (l.lint path source).diagnostics.filter fun d => !d.isFixable := by
  rw [pass, Report.repairSafely_greedy] at hnone ⊢
  have hperm := (l.lint path source).greedy_perm
  rw [show (Resolver.greedy (l.lint path source).candidates).rejected = [] from hnone,
    List.append_nil] at hperm
  have hplaces := map_diagnostic_candidates_lint h path source
  refine Report.diagnostics_prune_of_forall_mem fun x hx => ⟨fun hfixable => ?_, ?_⟩
  · have hmem : (x.1, (x.2 : Int)) ∈ (l.lint path source).candidates.map
        fun c => (c.diagnostic, c.order) := by
      rw [hplaces]
      exact List.mem_map_of_mem (List.mem_filter.2 ⟨hx, hfixable⟩)
    obtain ⟨c, hc, heq⟩ := List.mem_map.1 hmem
    exact ⟨c, hperm.mem_iff.2 hc, congrArg Prod.snd heq⟩
  · rintro ⟨c, hc, horder⟩
    have hmem := List.mem_map_of_mem (f := fun c => (c.diagnostic, c.order)) (hperm.mem_iff.1 hc)
    rw [hplaces] at hmem
    obtain ⟨y, hy, heq⟩ := List.mem_map.1 hmem
    obtain ⟨hy, hfixable⟩ := List.mem_filter.1 hy
    -- both stand at the place of the candidate
    have hplace : y.2 = x.2 := Int.ofNat.inj ((congrArg Prod.snd heq).trans horder)
    have hy' := List.mem_zipIdx_iff_getElem?.1 hy
    rw [hplace, List.mem_zipIdx_iff_getElem?.1 hx, Option.some_inj] at hy'
    rwa [hy']

/-- **Reports are in order.**  Every diagnostic lies within the text; the producer of one that has
any answers with an edit of its range, which the factory lets pass; each fixable diagnostic has one
candidate, at its place and for its range; and the diagnostics of one rule lie one behind the
other.  Where no two of the rules that can repair are on, a pass leaves no edit and no fixable
diagnostic. -/
theorem lint_orderly (h : ofSettings Rule.catalogue s = .ok l) (path source : Text) :
    let r := l.lint path source
    let f := EditFactory.ofText source
    (∀ d ∈ r.diagnostics, 0 ≤ d.location.start ∧ d.location.start ≤ d.location.stop ∧
      d.location.stop ≤ (source.length : Int)) ∧
    (∀ d ∈ r.diagnostics, ∀ producer, d.fix = some producer → ∃ text,
      producer f = .ok (some ⟨d.location, text⟩) ∧
        f.validate ⟨d.location, text⟩ = .ok ⟨d.location, text⟩) ∧
    (r.candidates.map fun c => (c.diagnostic, c.order)) =
      (r.diagnostics.zipIdx.filter fun x => x.1.isFixable).map (fun x => (x.1, (x.2 : Int))) ∧
    (∀ c ∈ r.candidates, c.edit.range = c.diagnostic.location) ∧
    (∀ id, (r.diagnostics.filter fun d => d.rule == id).Pairwise fun a b =>
      a.location.start ≤ b.location.start ∧ a.location.stop ≤ b.location.start) ∧
    ((Rule.catalogue.filter fun rule => rule.isFixable && rule.isOn s).length ≤ 1 →
      (l.pass path source).rejected = [] ∧
        (l.pass path source).report.diagnostics = r.diagnostics.filter fun d => !d.isFixable) := by
  intro r f
  refine ⟨fun d hd => admits_of_mem_diagnostics h hd, fun d hd producer hfix => ?_,
    map_diagnostic_candidates_lint h path source, fun c hc => range_of_mem_candidates h hc,
    fun id => ?_, fun hone => ?_⟩
  · obtain ⟨text, hanswer⟩ := answer_of_mem_diagnostics h hd hfix
    exact ⟨text, hanswer, EditFactory.map_checked (admits_of_mem_diagnostics h hd) _⟩
  · have horderly := orderly_filter_diagnostics h source id
    refine (List.pairwise_map.1 horderly.apart).imp_of_mem fun {a b} ha _ hab => ⟨?_, hab⟩
    exact Int.le_trans (horderly.admits _ (List.mem_map_of_mem ha)).2.1 hab
  · have hnone := rejected_pass_eq_nil h hone path source
    exact ⟨hnone, diagnostics_pass_of_rejected_eq_nil h hnone⟩

/-- Only long runs of blank lines are repaired, and white space and a long line stay. -/
theorem lint_orderly_of_one_rule :
    let s : Settings :=
      { rules := [(Rule.tabIndent.id, .off), (Rule.trailingSpace.id, .off),
          (Rule.finalNewline.id, .off)]
        limits := { lineLength := 3 } }
    let source := "\t\r\n\n\n \nlong \n\x0c\n\n".toList
    ∃ l, ofSettings Rule.catalogue s = .ok l ∧
      (∀ d ∈ (l.lint [] source).diagnostics, 0 ≤ d.location.start ∧
        d.location.start ≤ d.location.stop ∧ d.location.stop ≤ (source.length : Int)) ∧
      (l.pass [] source).rejected = [] ∧
      (l.pass [] source).report.diagnostics =
        (l.lint [] source).diagnostics.filter fun d => !d.isFixable := by
  intro s source
  have hlinter : ofSettings Rule.catalogue s = .ok ⟨s.limits, _⟩ := ofSettings_of_known (by decide)
  obtain ⟨hbounds, -, -, -, -, hpass⟩ := lint_orderly hlinter [] source
  exact ⟨_, hlinter, hbounds, hpass (by decide)⟩

end Linter

end SolidityLint
