import SolidityLint.Proofs.Pass.Change
import SolidityLint.Proofs.Pass.Fate

/-!
# A second pass

A pass that leaves no edit need not be the last one: an edit it applies may show something that no
rule saw before.  There are two ways in which this happens and no others
(`changed_second_pass_iff`).
-/

namespace SolidityLint

namespace Repairs

variable {r : Repairs} {ps : List Text}

/-- Where no removal of white space is left, the new lines need no more repairs exactly if none of
the old ones hid a carriage return. -/
theorem forall_quiet_rewrite_iff (h : Text.IsCut ps) {o : Nat}
    (hleft : ∀ x ∈ r.rejectedFrom o 0 false ps, x.rule ≠ Rule.trailingSpace.id) :
    (∀ q ∈ r.rewrite ps, r.Quiet q) ↔
      ¬(r.trailingSpace = true ∧ ∃ p ∈ ps, Text.HidesReturn p) := by
  have htabs : ∀ q ∈ r.rewrite ps,
      (r.Quiet q ↔ (r.trailingSpace = true →
        Rule.withoutTrailingSpace (Text.withoutEnd q) = Text.withoutEnd q)) := fun q hq =>
    and_iff_left fun hon => tab_notMem_indentOf_of_mem_rewrite h hon q hq
  rw [forall₂_congr htabs]
  cases hon : r.trailingSpace with
  | false => simp
  | true =>
      have hiff := forall_withoutTrailingSpace_iff h hon hleft
      simpa using hiff

theorem finished_rewrite_iff (h : Text.IsCut ps) : r.Finished (r.rewrite ps) ↔
    (∀ q ∈ r.rewrite ps, r.Quiet q) ∧ r.keepFrom 0 (r.rewrite ps) = r.rewrite ps := by
  constructor
  · exact fun hfinished => ⟨hfinished.quiet, hfinished.kept⟩
  · rintro ⟨hquiet, hkept⟩
    exact ⟨⟨isCut_rewriteFrom h, hquiet, fun _ hq => closing_of_mem_rewriteFrom h hq⟩, hkept⟩

end Repairs

namespace Linter

variable {s : Settings} {l : Linter}

/-- **What a second pass finds.**  If a blank line is allowed and a pass leaves no edit, then the
next pass finds nothing to do, with two exceptions: white space that was removed at the end of a
line hid a carriage return with white space before it, or the text ended in a surplus of blank
lines, and the line feed that was put at its end has become a blank line again. -/
theorem changed_second_pass_iff (h : ofSettings Rule.catalogue s = .ok l)
    (hlimit : 1 ≤ s.limits.blankLines) {path source : Text}
    (hnone : (l.pass path source).rejected = []) :
    (l.pass path (l.pass path source).patch.output).patch.changed = false ↔
      ¬(Rule.trailingSpace.isOn s = true ∧ ∃ p ∈ Text.cutLines source, Text.HidesReturn p) ∧
      ¬(Rule.blankRun.isOn s = true ∧ Rule.finalNewline.isOn s = true ∧
        source.EndsInOpenRun s.limits.blankLines) := by
  have hrejected : s.repairs.rejected source = [] := by
    rw [← map_fix_rejected_pass h path source, hnone, List.map_nil]
  have hleft : ∀ rule : Text, ∀ x ∈ s.repairs.rejected source, x.rule ≠ rule := by
    simp [hrejected]
  have hcut := Text.isCut_cutLines source
  have hempty : s.repairs.emptyFixes (l.fixed path source) = [] := by
    rw [Repairs.emptyFixes_eq_nil_iff]
    rintro ⟨-, -, hzero⟩
    have hlimit' : 1 ≤ s.repairs.blankLines := hlimit
    omega
  change (l.pass path (l.fixed path source)).patch.changed = false ↔ _
  rw [← Bool.not_eq_true, changed_pass_eq_true_iff h, not_not, Repairs.fixes_eq_nil_iff,
    and_iff_left hempty, cutLines_fixed h, Repairs.finished_rewrite_iff hcut,
    Repairs.forall_quiet_rewrite_iff hcut (hleft _), Repairs.keepFrom_rewrite_iff _ (hleft _)]
  rfl

/-- Trailing white space, a tab and blank lines that are too many, none of them in the way of
another, and a last line without a line feed. -/
theorem changed_second_pass_of_apart :
    let source := "a   \n\n\n\n\tb;\nc".toList
    (standard.pass [] source).rejected = [] ∧ (standard.pass [] source).patch.changed = true ∧
      (standard.pass [] (standard.pass [] source).patch.output).patch.changed = false := by
  intro source
  have hnone : (standard.pass [] source).rejected = [] := by
    rw [← List.map_eq_nil_iff, map_fix_rejected_pass ofSettings_standard]
    decide
  refine ⟨hnone, ?_, (changed_second_pass_iff ofSettings_standard (by decide) hnone).2 ?_⟩
  · rw [changed_pass_eq_true_iff ofSettings_standard]
    decide
  · decide

/-- A hidden carriage return, and a surplus of blank lines at the end of an open text: no edit is
left, and still a second pass changes the text. -/
theorem second_pass_changes :
    ofSettings Rule.catalogue {} = .ok standard ∧ 1 ≤ ({} : Settings).limits.blankLines ∧
      ∀ source ∈ ["a \r \n".toList, "a\n\n\x0c".toList],
        (standard.pass [] source).rejected = [] ∧
          (standard.pass [] (standard.pass [] source).patch.output).patch.changed = true := by
  refine ⟨ofSettings_standard, by decide, fun source hsource => ?_⟩
  rw [← List.map_eq_nil_iff, map_fix_rejected_pass ofSettings_standard, ← fixed,
    changed_pass_eq_true_iff ofSettings_standard, fixed_eq ofSettings_standard]
  revert source
  decide

end Linter

end SolidityLint
