import Mathlib.Logic.Function.Iterate
import SolidityLint.Proofs.Pass.Outcome

/-!
# Passes reach a fixpoint

A pass may leave work for the next one: an edit may have been in the way of another, or may have
brought a carriage return in front of its line feed.  Two passes leave settled lines, the third
removes the blank lines that are still too many, and a fourth finds nothing to do
(`fixpoint_of_three_passes`).  The one problem that no pass can repair is the empty line of the
empty text, where no blank line is allowed.

* `fixes_of_finished`: finished lines are offered no edits.
* `finished_rewrite`: a pass over settled lines finishes them.
-/

namespace SolidityLint

namespace Repairs

variable {r : Repairs} {o before : Nat} {piece : Text} {ps : List Text}

/-! ## Texts without edits -/

theorem trailingFixes_of_quiet (h : r.Quiet piece) : r.trailingFixes o piece = [] :=
  if_neg fun hon => hon.2 (by rw [h.1 hon.1])

theorem tabFixes_of_quiet (h : r.Quiet piece) : r.tabFixes o piece = [] :=
  if_neg fun hon => h.2 hon.1 hon.2

theorem runFixes_of_isSurplus_eq_false (h : r.isSurplus before piece = false) :
    r.runFixes o before piece ps = [] :=
  if_neg fun ⟨hon, hblank, heq⟩ => by simp [isSurplus, hon, hblank, heq] at h

theorem closingFixes_of_closing_eq_nil (h : r.closing piece = []) : r.closingFixes o piece = [] :=
  if_neg fun hon => by simp [closing, hon] at h

variable (r) in
/-- Settled lines without blank lines beyond the limit. -/
structure Finished (ps : List Text) : Prop extends r.Settled ps where
  kept : r.keepFrom 0 ps = ps

theorem isSurplus_of_keepFrom_cons {p : Text} (h : r.keepFrom before (p :: ps) = p :: ps) :
    r.isSurplus before p = false ∧ r.keepFrom (advance before p) ps = ps := by
  rw [keepFrom] at h
  split at h
  · have hlen := (keepFrom_sublist (r := r) (advance before p) ps).length_le
    rw [h, List.length_cons] at hlen
    omega
  · rename_i hkept
    exact ⟨by simpa using hkept, (List.cons_inj_right p).1 h⟩

theorem fixesFrom_eq_nil (h : r.Settled ps) (hkept : r.keepFrom before ps = ps) :
    r.fixesFrom o before ps = [] := by
  induction ps generalizing o before with
  | nil => rfl
  | cons p ps ih =>
      have hp := List.mem_cons_self (a := p) (l := ps)
      obtain ⟨hsurplus, hrest⟩ := isSurplus_of_keepFrom_cons hkept
      simp [fixesFrom, leading, ownLeading, late, trailingFixes_of_quiet (h.quiet p hp),
        tabFixes_of_quiet (h.quiet p hp), runFixes_of_isSurplus_eq_false hsurplus,
        closingFixes_of_closing_eq_nil (h.closed p hp), ih h.tail hrest]

/-- Finished lines are offered no edits. -/
theorem fixes_of_finished {source : Text} (h : r.Finished (Text.cutLines source)) :
    r.fixes source = r.emptyFixes source := by
  rw [fixes, fixesFrom_eq_nil h.toSettled h.kept, List.append_nil]

theorem emptyFixes_eq_nil_iff {source : Text} : r.emptyFixes source = [] ↔
    ¬(source = [] ∧ r.blankRun = true ∧ r.blankLines = 0) := by
  rw [emptyFixes, runFixes]
  by_cases h : source = []
  · rw [if_pos h]
    split
    · rename_i hon
      simp [h, hon.1, ← hon.2.2]
    · rename_i hoff
      exact iff_of_true rfl fun hall => hoff ⟨hall.2.1, rfl, hall.2.2.symm⟩
  · simp [h]

/-- A pass over settled lines finishes them. -/
theorem Settled.finished_rewrite (h : r.Settled ps) : r.Finished (r.rewrite ps) := by
  rw [rewrite_of_settled h]
  exact ⟨h.keepFrom, keepFrom_keepFrom (.inl rfl)⟩

theorem Finished.rewrite_eq (h : r.Finished ps) : r.rewrite ps = ps := by
  rw [rewrite_of_settled h.toSettled, h.kept]

/-- The first of the edits offered is applied. -/
theorem accepted_eq_nil_iff {source : Text} : r.accepted source = [] ↔ r.fixes source = [] := by
  have hscan : (Fix.scan 0 (r.fixes source)).1 = r.accepted source :=
    congrArg Prod.fst (r.scan_fixes source)
  have hstart : ∀ x ∈ r.fixes source, 0 ≤ x.start := by
    intro x hx
    rcases List.mem_append.1 hx with hx | hx
    · rw [emptyFixes, runFixes] at hx
      split at hx
      · split at hx
        · rw [List.mem_singleton.1 hx]
          exact Int.le_refl 0
        · simp at hx
      · simp at hx
    · exact le_start_of_mem_fixesFrom
        (fun p hp => (Text.isCut_cutLines source).ne_nil hp) hx
  cases hfixes : r.fixes source with
  | nil =>
      rw [← hscan, hfixes]
      simp [Fix.scan]
  | cons x xs =>
      rw [← hscan, hfixes, Fix.scan, if_pos (hstart x (by simp [hfixes]))]
      simp

end Repairs

/-! ## Three passes -/

namespace Linter

variable {s : Settings} {l : Linter}

theorem accepted_pass_eq_nil_iff (h : ofSettings Rule.catalogue s = .ok l) (path source : Text) :
    (l.pass path source).accepted = [] ↔ s.repairs.fixes source = [] := by
  rw [← Repairs.accepted_eq_nil_iff, ← map_fix_accepted_pass h path source, List.map_eq_nil_iff]

/-- A pass over a finished text leaves it alone, and finds nothing to do unless the text is empty
and no blank line is allowed. -/
theorem pass_of_finished (h : ofSettings Rule.catalogue s = .ok l) {source : Text}
    (hfinished : s.repairs.Finished (Text.cutLines source)) (path : Text) :
    l.fixed path source = source ∧
      ((l.pass path source).accepted = [] ↔
        ¬(source = [] ∧ Rule.blankRun.isOn s = true ∧ s.limits.blankLines = 0)) := by
  constructor
  · rw [fixed_eq h, hfinished.rewrite_eq, Text.flatten_cutLines]
  · rw [accepted_pass_eq_nil_iff h, Repairs.fixes_of_finished hfinished,
      Repairs.emptyFixes_eq_nil_iff]
    rfl

/-- **Three passes reach a fixpoint.**  A fourth pass leaves the text as it is, and it applies
nothing, unless the text is empty and no blank line is allowed. -/
theorem fixpoint_of_three_passes (h : ofSettings Rule.catalogue s = .ok l) (path source : Text) :
    let third := (l.fixed path)^[3] source
    let fourth := l.pass path third
    fourth.patch.output = third ∧
      (fourth.patch.changed = false ∧ fourth.accepted = [] ↔
        ¬(third = [] ∧ Rule.blankRun.isOn s = true ∧ s.limits.blankLines = 0)) := by
  intro third fourth
  have hcut : Text.cutLines third =
      s.repairs.rewrite (s.repairs.rewrite (s.repairs.rewrite (Text.cutLines source))) := by
    simp only [third, Function.iterate_succ_apply', Function.iterate_zero_apply, cutLines_fixed h]
  have hfinished : s.repairs.Finished (Text.cutLines third) := by
    rw [hcut]
    exact (Repairs.settled_rewrite_rewrite (Text.isCut_cutLines source)).finished_rewrite
  obtain ⟨hsame, hnone⟩ := pass_of_finished h hfinished path
  refine ⟨hsame, ?_⟩
  rw [← hnone, changed_pass]
  constructor
  · exact fun hboth => hboth.2
  · intro hnil
    exact ⟨by simp [hnil], hnil⟩

/-- Where white space hides a carriage return in a surplus of blank lines, it takes three passes
indeed. -/
theorem fixpoint_of_hidden_return :
    let source := "a\n\n\t\r \n".toList
    let third := (standard.fixed [])^[3] source
    let fourth := standard.pass [] third
    third = "a\n\n".toList ∧ (standard.fixed [])^[2] source ≠ third ∧
      fourth.patch.output = third ∧ fourth.patch.changed = false ∧ fourth.accepted = [] := by
  intro source third fourth
  obtain ⟨hsame, hnone⟩ := fixpoint_of_three_passes ofSettings_standard [] source
  have hthird : third = "a\n\n".toList := by
    simp only [third, Function.iterate_succ_apply', Function.iterate_zero_apply,
      fixed_eq ofSettings_standard]
    decide
  have hsecond : (standard.fixed [])^[2] source ≠ "a\n\n".toList := by
    simp only [Function.iterate_succ_apply', Function.iterate_zero_apply,
      fixed_eq ofSettings_standard]
    decide
  have hne : third ≠ [] := by
    rw [hthird]
    decide
  obtain ⟨hchanged, haccepted⟩ := hnone.2 fun hempty => hne hempty.1
  exact ⟨hthird, by rwa [hthird], hsame, hchanged, haccepted⟩

end Linter

end SolidityLint
