import Mathlib.Data.List.Forall2
import SolidityLint.Proofs.Pass.Change
import SolidityLint.Proofs.Pass.Independent

/-!
# Passes and the lengths of lines

A line becomes longer only where spaces take the place of tabs.  Without that repair every line of
the new text comes from a line of the old one that is at least as long, and the lines keep their
order (`Text.NoLonger`): a line may lose the white space at its end and a carriage return that
becomes part of the line end, the line feed that is put at the end of the text does not count, and
lines may be removed.

* `noLonger_rewriteFrom`: so it is for the rewriting of lines.
* `noLonger_iterate_fixed`: so it is for any number of passes.
* `overlong_iterate_fixed_le`: so no limit is exceeded by more lines than before.
-/

namespace SolidityLint

namespace Text

variable {new old : Text}

/-- How many lines are longer than a limit allows. -/
def overlong (limit : Nat) (source : Text) : Nat :=
  source.lines.countP fun l => decide (limit < l.content.length)

/-- The content of one line is no longer than that of another. -/
def Fits (q p : Text) : Prop :=
  (withoutEnd q).length ≤ (withoutEnd p).length

instance : Std.Refl Fits :=
  ⟨fun _ => Nat.le_refl _⟩

instance : IsTrans Text Fits :=
  ⟨fun _ _ _ => Nat.le_trans⟩

/-- Every line comes from a line of the old text that is at least as long, in order. -/
def NoLonger (new old : Text) : Prop :=
  List.SublistForall₂ Fits (cutLines new) (cutLines old)

theorem NoLonger.refl (source : Text) : NoLonger source source :=
  Std.Refl.refl (cutLines source)

theorem NoLonger.trans {newest : Text} (hnew : NoLonger newest new) (hold : NoLonger new old) :
    NoLonger newest old :=
  List.SublistForall₂.is_trans.trans _ _ _ hnew hold

/-- The line of the empty text is not too long for any limit. -/
theorem overlong_eq (limit : Nat) (source : Text) : source.overlong limit =
    (cutLines source).countP fun p => decide (limit < (withoutEnd p).length) := by
  have hcontents : source.overlong limit =
      (source.lines.map (·.content)).countP fun c => decide (limit < c.length) := by
    rw [List.countP_map]
    rfl
  rw [hcontents, lines_eq_placeLines, map_content_placeLines, List.countP_map, pieces]
  split
  · rename_i hempty
    rw [hempty]
    simp [cutLines, withoutEnd, dropLastIf]
  · rfl

theorem NoLonger.overlong_le (h : NoLonger new old) (limit : Nat) :
    new.overlong limit ≤ old.overlong limit := by
  rw [overlong_eq, overlong_eq]
  unfold NoLonger at h
  generalize cutLines new = qs, cutLines old = ps at h
  induction h with
  | nil => exact Nat.zero_le _
  | @cons q p _ _ hfits _ ih =>
      have hle : (withoutEnd q).length ≤ (withoutEnd p).length := hfits
      simp only [List.countP_cons, decide_eq_true_eq]
      split_ifs <;> omega
  | cons_right _ ih => exact ih.trans (List.sublist_cons_self ..).countP_le

end Text

namespace Repairs

variable {r : Repairs} {before : Nat} {dropping : Bool} {p : Text} {ps : List Text}

theorem length_tidyContent_le (htabs : r.tabIndent = false) (content : Text) :
    (r.tidyContent content).length ≤ content.length := by
  simp only [tidyContent, htabs, Bool.false_eq_true, if_false]
  split
  · exact (Text.withoutTrailingSpace_isPrefix content).length_le
  · exact Nat.le_refl _

/-- What is left of a line is no longer, also where trimming exposes a carriage return. -/
theorem fits_of_mem_remainder (htabs : r.tabIndent = false) (dropped : Bool)
    (hfeed : '\n' ∉ Text.dropLastIf '\n' p) :
    ∀ q ∈ r.remainder dropped p, Text.Fits q p := by
  refine (forall_mem_remainder_iff (P := fun c => c.length ≤ (Text.withoutEnd p).length)
    (Nat.zero_le _) hfeed).2 fun _ => ?_
  rw [withoutEnd_tidy hfeed]
  exact (dropLastIf_tidyBody_isPrefix _).length_le.trans (length_tidyContent_le htabs _)

theorem noLonger_rewriteFrom (htabs : r.tabIndent = false)
    (hfeed : ∀ p ∈ ps, '\n' ∉ Text.dropLastIf '\n' p) :
    List.SublistForall₂ Text.Fits (r.rewriteFrom before dropping ps) ps := by
  induction ps generalizing before dropping with
  | nil => exact .nil
  | cons p ps ih =>
      have hhead := fits_of_mem_remainder htabs (r.drops before dropping p)
        (hfeed p (List.mem_cons_self ..))
      have hone := r.length_remainder_le (r.drops before dropping p) p
      have htail := @ih (advance before p) (r.drops before dropping p)
        fun q hq => hfeed q (List.mem_cons_of_mem _ hq)
      rw [rewriteFrom]
      -- a line leaves one line behind or none
      generalize r.remainder (r.drops before dropping p) p = left at hhead hone
      rcases left with _ | ⟨q, _ | _⟩
      · exact .cons_right htail
      · exact .cons (hhead q (List.mem_singleton_self q)) htail
      · simp only [List.length_cons] at hone
        omega

end Repairs

namespace Linter

variable {s : Settings} {l : Linter}

theorem noLonger_fixed (h : ofSettings Rule.catalogue s = .ok l)
    (htabs : Rule.tabIndent.isOn s = false) (path source : Text) :
    Text.NoLonger (l.fixed path source) source := by
  rw [Text.NoLonger, cutLines_fixed h]
  exact Repairs.noLonger_rewriteFrom htabs fun p hp => (Text.isCut_cutLines source).feed_notMem hp

/-- Passes keep lines from growing, however many there are. -/
theorem noLonger_iterate_fixed (h : ofSettings Rule.catalogue s = .ok l)
    (htabs : Rule.tabIndent.isOn s = false) (path source : Text) (n : Nat) :
    Text.NoLonger ((l.fixed path)^[n] source) source := by
  induction n with
  | zero => exact .refl source
  | succ n ih =>
      rw [Function.iterate_succ_apply']
      exact (noLonger_fixed h htabs path _).trans ih

/-- If the rule runs, it has a diagnostic for every line that is too long. -/
theorem countP_lineLength_diagnostics (h : ofSettings Rule.catalogue s = .ok l)
    (path source : Text) :
    ((l.lint path source).diagnostics.countP fun d => d.rule == Rule.lineLength.id) =
      if Rule.lineLength.isOn s then source.overlong s.limits.lineLength else 0 := by
  have honly : (Rule.catalogue.filter fun rule => rule.id == Rule.lineLength.id) =
      [Rule.lineLength] := rfl
  have hfound := filter_diagnostics h (· == Rule.lineLength.id) source
  rw [honly, List.flatMap_singleton] at hfound
  have hcount := congrArg List.length hfound
  rw [← List.countP_eq_length_filter, List.length_mergeSort] at hcount
  refine hcount.trans ?_
  have hcheck : Rule.lineLength.check s.limits source =
      .ok (source.lines.filterMap (Rule.longLineIn s.limits.lineLength)) := rfl
  rcases Rule.diagnosticsIn_cases hcheck with ⟨hoff, hnil⟩ | ⟨severity, hon, heq⟩
  · rw [hnil, hoff]
    rfl
  · rw [heq, hon, List.length_map, List.length_filterMap_eq_countP, if_pos rfl, Text.overlong]
    refine List.countP_congr fun l _ => ?_
    rw [Rule.longLineIn]
    split <;> rename_i hlong <;> simp [hlong]

/-- **Without spaces for tabs no pass makes a line longer.**  However many passes there are, no
limit is exceeded by more lines than before them, and a text has no more diagnostics about long
lines. -/
theorem overlong_iterate_fixed_le (h : ofSettings Rule.catalogue s = .ok l)
    (htabs : Rule.tabIndent.isOn s = false) (path source : Text) (n : Nat) :
    let fixed := (l.fixed path)^[n] source
    (∀ limit, fixed.overlong limit ≤ source.overlong limit) ∧
      ((l.lint path fixed).diagnostics.countP fun d => d.rule == Rule.lineLength.id) ≤
        (l.lint path source).diagnostics.countP fun d => d.rule == Rule.lineLength.id := by
  intro fixed
  have hlimit : ∀ limit, fixed.overlong limit ≤ source.overlong limit :=
    (noLonger_iterate_fixed h htabs path source n).overlong_le
  refine ⟨hlimit, ?_⟩
  rw [countP_lineLength_diagnostics h, countP_lineLength_diagnostics h]
  split
  · exact hlimit _
  · exact Nat.le_refl 0

/-- A line with a tab in it gets shorter twice, as white space hid a carriage return, and one
without a line feed stays too long. -/
theorem overlong_of_hidden_return :
    let s : Settings := { rules := [(Rule.tabIndent.id, .off)], limits := { lineLength := 4 } }
    let source := "\tabc \r \n\n\n\tabcd".toList
    ∃ l, ofSettings Rule.catalogue s = .ok l ∧
      Text.overlong 4 ((l.fixed [])^[2] source) ≤ 2 ∧
      ((l.lint [] ((l.fixed [])^[2] source)).diagnostics.countP
        fun d => d.rule == Rule.lineLength.id) ≤ 2 := by
  intro s source
  have hlinter : ofSettings Rule.catalogue s = .ok ⟨s.limits, _⟩ := ofSettings_of_known (by decide)
  have hbefore : Text.overlong s.limits.lineLength source = 2 := by decide
  obtain ⟨hlimit, hcount⟩ := overlong_iterate_fixed_le hlinter (by decide) [] source 2
  rw [countP_lineLength_diagnostics hlinter [] source, if_pos (by decide), hbefore] at hcount
  exact ⟨_, hlinter, (hlimit 4).trans_eq hbefore, hcount⟩

end Linter

end SolidityLint
