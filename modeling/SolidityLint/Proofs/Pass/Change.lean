import SolidityLint.Proofs.Pass.Fixpoint

/-!
# A pass that applies an edit changes the text

A pass rewrites lines, and lines that it leaves as they are have nothing to repair
(`rewrite_eq_self_iff`).  So an edit that is applied shows in the text after the pass
(`changed_pass_iff`), with one exception: where no blank line is allowed, the removal of the only
line of the empty text is applied and takes nothing away.
-/

namespace SolidityLint

namespace Repairs

variable {r : Repairs} {before : Nat} {dropping dropped : Bool} {piece : Text} {ps : List Text}

theorem length_remainder_le (r : Repairs) (dropped : Bool) (piece : Text) :
    (r.remainder dropped piece).length ≤ 1 := by
  rw [remainder]
  generalize (if dropped then [] else r.tidy piece) ++ r.closing piece = left
  by_cases h : left = [] <;> simp [h]

theorem length_rewriteFrom_le : (r.rewriteFrom before dropping ps).length ≤ ps.length := by
  induction ps generalizing before dropping with
  | nil => exact Nat.le_refl 0
  | cons p ps ih =>
      have hhead := r.length_remainder_le (r.drops before dropping p) p
      have hrest := @ih (advance before p) (r.drops before dropping p)
      rw [rewriteFrom, List.length_append, List.length_cons]
      omega

/-- A content that tidying leaves as it is needs no repair. -/
theorem quiet_of_tidy_eq (h : r.tidy piece = piece) : r.Quiet piece := by
  have hcontent : r.tidyContent (Text.withoutEnd piece) = Text.withoutEnd piece := by
    have hsplit := Text.withoutEnd_append_lineEnd piece
    rw [tidy] at h
    exact List.append_cancel_right (h.trans hsplit.symm)
  rw [Quiet, ← hcontent]
  exact quietContent_tidyContent _

/-- A line that a pass leaves as it is needs no repair. -/
theorem quiet_of_remainder_eq (h : r.remainder dropped piece = [piece]) :
    r.Quiet piece ∧ r.closing piece = [] := by
  have hleft : (if dropped then [] else r.tidy piece) ++ r.closing piece = piece := by
    rw [← flatten_remainder, h, List.flatten_singleton]
  have hclosing : r.closing piece = [] := by
    -- a line feed put behind the line would be its last character
    rw [closing]
    split
    · rename_i hopen
      rw [closing, if_pos hopen] at hleft
      exact absurd (by rw [← hleft, List.getLast?_concat]) hopen.2
    · rfl
  rw [hclosing, List.append_nil] at hleft
  refine ⟨?_, hclosing⟩
  cases dropped with
  | true => simp [remainder, hclosing] at h
  | false => exact quiet_of_tidy_eq (by simpa using hleft)

theorem quiet_of_rewriteFrom_eq (h : r.rewriteFrom before dropping ps = ps) :
    ∀ p ∈ ps, r.Quiet p ∧ r.closing p = [] := by
  induction ps generalizing before dropping with
  | nil => simp
  | cons p ps ih =>
      rw [rewriteFrom] at h
      -- no line leaves more than one behind, so each one leaves itself
      have hone : (r.remainder (r.drops before dropping p) p).length = [p].length := by
        have hhead := r.length_remainder_le (r.drops before dropping p) p
        have hrest : (r.rewriteFrom (advance before p) (r.drops before dropping p) ps).length ≤
            ps.length := length_rewriteFrom_le
        have hlen := congrArg List.length h
        rw [List.length_append, List.length_cons] at hlen
        rw [List.length_singleton]
        omega
      obtain ⟨hp, hps⟩ := List.append_inj (h.trans List.singleton_append.symm) hone
      exact List.forall_mem_cons.2 ⟨quiet_of_remainder_eq hp, ih hps⟩

/-- A pass leaves lines as they are exactly if they are finished. -/
theorem rewrite_eq_self_iff (h : Text.IsCut ps) : r.rewrite ps = ps ↔ r.Finished ps := by
  constructor
  · intro heq
    have hlines := quiet_of_rewriteFrom_eq heq
    have hsettled : r.Settled ps := ⟨h, fun p hp => (hlines p hp).1, fun p hp => (hlines p hp).2⟩
    exact ⟨hsettled, by rw [← rewrite_of_settled hsettled, heq]⟩
  · exact Finished.rewrite_eq

/-- The rules offer no edits exactly for a finished text, unless it is empty and no blank line is
allowed. -/
theorem fixes_eq_nil_iff {source : Text} :
    r.fixes source = [] ↔ r.Finished (Text.cutLines source) ∧ r.emptyFixes source = [] := by
  have hcut := Text.isCut_cutLines source
  constructor
  · intro h
    refine ⟨(rewrite_eq_self_iff hcut).1 ?_, (List.append_eq_nil_iff.1 h).1⟩
    have hweave := r.weave_accepted source
    rw [accepted_eq_nil_iff.2 h] at hweave
    have hnew : Text.IsCut (r.rewrite (Text.cutLines source)) := isCut_rewriteFrom hcut
    rw [← Text.cutLines_flatten hnew, ← hweave]
    rfl
  · rintro ⟨hfinished, hempty⟩
    rw [fixes_of_finished hfinished, hempty]

end Repairs

namespace Linter

variable {s : Settings} {l : Linter}

/-- A pass leaves a text as it is exactly if its lines are finished. -/
theorem fixed_eq_self_iff (h : ofSettings Rule.catalogue s = .ok l) (path source : Text) :
    l.fixed path source = source ↔ s.repairs.Finished (Text.cutLines source) := by
  rw [← Repairs.rewrite_eq_self_iff (Text.isCut_cutLines source), ← cutLines_fixed h path]
  constructor
  · intro heq
    rw [heq]
  · intro heq
    rw [← Text.flatten_cutLines (l.fixed path source), heq, Text.flatten_cutLines]

theorem changed_pass_eq_true_iff (h : ofSettings Rule.catalogue s = .ok l) (path source : Text) :
    (l.pass path source).patch.changed = true ↔ s.repairs.fixes source ≠ [] := by
  rw [changed_pass, Bool.not_eq_true', List.isEmpty_eq_false_iff, ne_eq,
    accepted_pass_eq_nil_iff h]

/-- **An applied edit changes the text.**  A pass over a text that is not empty applies an edit
exactly if the text comes out different.  The empty text always comes out empty, and an edit is
applied to it exactly if no blank line is allowed. -/
theorem changed_pass_iff (h : ofSettings Rule.catalogue s = .ok l) (path source : Text) :
    (source ≠ [] → ((l.pass path source).patch.changed = true ↔
      (l.pass path source).patch.output ≠ source)) ∧
    (l.pass path []).patch.output = [] ∧ ((l.pass path []).patch.changed = true ↔
      Rule.blankRun.isOn s = true ∧ s.limits.blankLines = 0) := by
  refine ⟨fun hne => ?_, fixed_eq h path [], ?_⟩
  · have hempty : s.repairs.emptyFixes source = [] :=
      Repairs.emptyFixes_eq_nil_iff.2 fun hnone => hne hnone.1
    rw [changed_pass_eq_true_iff h, ne_eq, Repairs.fixes_eq_nil_iff,
      ← fixed_eq_self_iff h path source]
    exact not_congr (and_iff_left hempty)
  · have hfixes : s.repairs.fixes [] = s.repairs.emptyFixes [] := List.append_nil _
    rw [changed_pass_eq_true_iff h, hfixes, ne_eq, Repairs.emptyFixes_eq_nil_iff, not_not]
    exact and_iff_right rfl

/-- Tabs that become spaces where spaces go, and an empty text that no edit touches. -/
theorem changed_pass_of_tab_indent :
    let source := "\ta   \nb\n".toList
    (standard.pass [] source).patch.changed = true ∧
      (standard.pass [] source).patch.output ≠ source ∧
        (standard.pass [] []).patch.changed = false := by
  intro source
  obtain ⟨hchanged, -, hempty⟩ := changed_pass_iff ofSettings_standard [] source
  have hdiffers : (standard.pass [] source).patch.output ≠ source := by
    rw [← fixed, fixed_eq ofSettings_standard]
    decide
  refine ⟨(hchanged (by decide)).2 hdiffers, hdiffers, ?_⟩
  rw [← Bool.not_eq_true, hempty]
  decide

/-- Where no blank line is allowed, an edit is applied to the empty text and changes nothing. -/
theorem changed_pass_of_empty_text :
    let s : Settings := { limits := { blankLines := 0 } }
    ∃ l, s.Valid ∧ ofSettings Rule.catalogue s = .ok l ∧
      (l.pass [] []).patch.changed = true ∧ (l.pass [] []).patch.output = [] := by
  intro s
  have hlinter : ofSettings Rule.catalogue s = .ok ⟨s.limits, _⟩ :=
    ofSettings_of_rules_eq_nil rfl
  refine ⟨_, ⟨by decide, by decide, ?_, by decide, by decide⟩, hlinter, ?_, ?_⟩
  · intro e he
    exact ⟨_, List.mem_singleton.1 he⟩
  · rw [changed_pass_eq_true_iff hlinter]
    decide
  · rw [← fixed, fixed_eq hlinter]
    decide

end Linter

end SolidityLint
