import SolidityLint.Proofs.Pass.Merge
import SolidityLint.Proofs.Pass.Output

/-!
# One pass over a text

A pass lints a text and repairs it once by the greedy choice (`Linter.pass`).

* `repair_lint`: a pass always has an outcome.
* `Carries.map_fix_accepted`, `Carries.map_fix_rejected`: the edits it applies and those it leaves.
* `cutLines_fixed`: the lines of the text after a pass.
-/

namespace SolidityLint

namespace Repairs

variable (r : Repairs)

/-- The edits that a pass over a text applies. -/
def accepted (source : Text) : List Fix :=
  r.emptyFixes source ++ r.acceptedFrom 0 0 false (Text.cutLines source)

/-- The edits that a pass over a text leaves. -/
def rejected (source : Text) : List Fix :=
  r.rejectedFrom 0 0 false (Text.cutLines source)

theorem scan_fixes (source : Text) :
    Fix.scan 0 (r.fixes source) = (r.accepted source, r.rejected source) := by
  rw [fixes, accepted, rejected]
  by_cases h : source = []
  · rw [h, emptyFixes, if_pos rfl, runFixes]
    split <;> rfl
  · rw [emptyFixes, if_neg h, List.nil_append, List.nil_append]
    exact scan_fixesFrom (Text.isCut_cutLines source) (fun hdropping => by simp at hdropping)
      (by simp [CursorAt])

/-- A pass applies all edits if they lie one behind the other. -/
theorem accepted_of_pairwise {r : Repairs} {source : Text}
    (hstart : ∀ x ∈ r.fixes source, 0 ≤ x.start)
    (h : (r.fixes source).Pairwise fun x y => x.stop ≤ y.start) :
    r.accepted source = r.fixes source ∧ r.rejected source = [] := by
  have hscan := r.scan_fixes source
  rw [Fix.scan_of_pairwise hstart h, Prod.ext_iff] at hscan
  exact ⟨hscan.1.symm, hscan.2.symm⟩

/-- The edits that a pass applies do what the rewriting of lines says. -/
theorem weave_accepted (source : Text) :
    Edit.weave 0 source ((r.accepted source).map (·.edit)) =
      (r.rewrite (Text.cutLines source)).flatten := by
  rw [accepted]
  by_cases h : source = []
  · rw [h, emptyFixes, if_pos rfl, runFixes]
    split <;> rfl
  · have hweave : Edit.weave (behind 0 false (Text.cutLines source))
        (ahead false (Text.cutLines source))
        ((r.acceptedFrom 0 0 false (Text.cutLines source)).map (·.edit)) =
          (r.rewrite (Text.cutLines source)).flatten :=
      weave_acceptedFrom (Text.isCut_cutLines source) fun hdropping => by simp at hdropping
    simp only [behind, ahead, Bool.false_eq_true, if_false, Text.flatten_cutLines] at hweave
    rw [emptyFixes, if_neg h, List.nil_append]
    exact hweave

end Repairs

namespace Linter

/-- Lints a text and repairs it once. -/
def pass (l : Linter) (path source : Text) : Outcome :=
  (l.lint path source).repairSafely .greedy

/-- The text after a pass. -/
def fixed (l : Linter) (path source : Text) : Text :=
  (l.pass path source).patch.output

/-- A pass always has an outcome. -/
theorem repair_lint (l : Linter) (path source : Text) :
    (l.lint path source).repair = .ok (l.pass path source) := by
  rw [pass, Report.repairSafely_greedy, Report.repair_eq_ok]

variable {s : Settings} {l : Linter}

/-- Settings that name only rules of the catalogue have a linter. -/
theorem ofSettings_of_known {catalogue : List Rule}
    (h : ∀ x ∈ s.rules, (catalogue.any fun rule => rule.id == x.1) = true) :
    ofSettings catalogue s = .ok ⟨s.limits, catalogue.filterMap (·.activate? s)⟩ := by
  have hnone : s.unknownRules catalogue = [] := by
    rw [Settings.unknownRules, List.filter_eq_nil_iff.2, List.eraseDups_nil, List.mergeSort_nil]
    intro id hid
    obtain ⟨x, hx, rfl⟩ := List.mem_map.1 hid
    simp [h x hx]
  rw [ofSettings, hnone]

/-- Settings that name no rules name no unknown ones. -/
theorem ofSettings_of_rules_eq_nil {catalogue : List Rule} (h : s.rules = []) :
    ofSettings catalogue s = .ok ⟨s.limits, catalogue.filterMap (·.activate? s)⟩ :=
  ofSettings_of_known (by simp [h])

/-- The linter of settings that say nothing. -/
def standard : Linter :=
  ⟨{}, Rule.catalogue.filterMap (·.activate? {})⟩

theorem ofSettings_standard : ofSettings Rule.catalogue {} = .ok standard :=
  ofSettings_of_rules_eq_nil rfl

theorem Carries.scan_fix_greedy {r : Repairs} (h : l.Carries r) (path source : Text) :
    ((Resolver.greedy (l.lint path source).candidates).accepted.map Candidate.fix,
      (Resolver.greedy (l.lint path source).candidates).rejected.map Candidate.fix) =
        (r.accepted source, r.rejected source) := by
  rw [Resolver.greedy, h.sort_candidates, ← Fix.scan_map, h.map_fix_candidates,
    Repairs.scan_fixes]

/-- The edits that a pass applies. -/
theorem Carries.map_fix_accepted {r : Repairs} (h : l.Carries r) (path source : Text) :
    (l.pass path source).accepted.map Candidate.fix = r.accepted source := by
  rw [pass, Report.repairSafely_greedy]
  exact (Prod.ext_iff.1 (h.scan_fix_greedy path source)).1

/-- The edits that a pass leaves. -/
theorem Carries.map_fix_rejected {r : Repairs} (h : l.Carries r) (path source : Text) :
    (l.pass path source).rejected.map Candidate.fix = r.rejected source := by
  rw [pass, Report.repairSafely_greedy]
  exact (Prod.ext_iff.1 (h.scan_fix_greedy path source)).2

theorem map_fix_accepted_pass (h : ofSettings Rule.catalogue s = .ok l) (path source : Text) :
    (l.pass path source).accepted.map Candidate.fix = s.repairs.accepted source :=
  (carries_of_ofSettings h).map_fix_accepted path source

theorem map_fix_rejected_pass (h : ofSettings Rule.catalogue s = .ok l) (path source : Text) :
    (l.pass path source).rejected.map Candidate.fix = s.repairs.rejected source :=
  (carries_of_ofSettings h).map_fix_rejected path source

/-- A pass changes a text if it applies any edit. -/
theorem changed_pass (l : Linter) (path source : Text) :
    (l.pass path source).patch.changed = !(l.pass path source).accepted.isEmpty := by
  rw [pass, Report.repairSafely_greedy]
  exact Report.changed_repairedBy .greedy _

theorem Carries.fixed_eq {r : Repairs} (h : l.Carries r) (path source : Text) :
    l.fixed path source = (r.rewrite (Text.cutLines source)).flatten := by
  have hedits : (l.pass path source).accepted.map (·.edit) =
      (r.accepted source).map (·.edit) := by
    rw [← h.map_fix_accepted path source, List.map_map]
    rfl
  have horder := (l.lint path source).greedy_inOrder
  rw [← Repairs.weave_accepted, ← hedits, fixed]
  rw [pass, Report.repairSafely_greedy]
  exact Edit.patched_eq_weave horder

theorem fixed_eq (h : ofSettings Rule.catalogue s = .ok l) (path source : Text) :
    l.fixed path source = (s.repairs.rewrite (Text.cutLines source)).flatten :=
  (carries_of_ofSettings h).fixed_eq path source

/-- The lines of the text after a pass. -/
theorem cutLines_fixed (h : ofSettings Rule.catalogue s = .ok l) (path source : Text) :
    Text.cutLines (l.fixed path source) = s.repairs.rewrite (Text.cutLines source) := by
  rw [fixed_eq h]
  exact Text.cutLines_flatten (Repairs.isCut_rewriteFrom (Text.isCut_cutLines source))

end Linter

end SolidityLint
