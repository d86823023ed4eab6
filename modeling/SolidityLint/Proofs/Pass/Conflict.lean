import Mathlib.Data.List.Pairwise
import SolidityLint.Proofs.Pass.Outcome

/-!
# Which edits stand in each other's way

A pass applies an edit unless it overlaps one that it has applied before.  For the rules of the
catalogue this happens in three ways and no others (`Repairs.Yields`): a line is nothing but white
space, and removing it comes before replacing its tabs; a line is removed with a surplus of blank
lines; or a surplus starts with a line that is repaired at its very start.

* `yields_of_mem_rejectedFrom`: every edit that is left yields to one that is applied.
* `not_yields_of_mem_accepted`: no edit that is applied does.
* `pairwise_offered`: the edits of one rule never overlap.
* `mem_rejected_pass_iff`: the edits that a pass leaves.
-/

namespace SolidityLint

namespace Fix

/-- Edits of which one stops before the other starts. -/
def Apart (x y : Fix) : Prop :=
  x.stop ≤ y.start ∨ y.stop ≤ x.start

variable {x y : Fix}

instance : Std.Symm Apart where
  symm _ _ := Or.symm

/-- Edits of one rule do not overlap. -/
def Compatible (x y : Fix) : Prop :=
  x.rule = y.rule → x.Apart y

theorem Compatible.symm (h : x.Compatible y) : y.Compatible x :=
  fun heq => Or.symm (h heq.symm)

/-- The edits of a rule, one behind the other, before edits of other rules. -/
theorem pairwise_compatible_append {xs ys : List Fix} {rule : Text}
    (hxs : xs.Pairwise fun x y => x.stop ≤ y.start) (hrule : ∀ x ∈ xs, x.rule = rule)
    (hys : ys.Pairwise Compatible) (hother : ∀ y ∈ ys, y.rule ≠ rule) :
    (xs ++ ys).Pairwise Compatible := by
  refine List.pairwise_append.2 ⟨hxs.imp fun hle _ => Or.inl hle, hys, fun x hx y hy => ?_⟩
  intro heq
  rw [hrule x hx] at heq
  exact absurd heq.symm (hother y hy)

/-- Some applied edit removes the blank lines of a stretch. -/
def Removed (applied : List Fix) (start stop : Int) : Prop :=
  ∃ y ∈ applied, y.rule = Rule.blankRun.id ∧ y.start ≤ start ∧ stop ≤ y.stop

theorem Removed.mono {applied : List Fix} {start start' stop stop' : Int}
    (h : Removed applied start stop) (hstart : start ≤ start') (hstop : stop' ≤ stop) :
    Removed applied start' stop' := by
  obtain ⟨y, hy, hrule, hle, hge⟩ := h
  exact ⟨y, hy, hrule, Int.le_trans hle hstart, Int.le_trans hstop hge⟩

end Fix

namespace Repairs

/-- Does an edit belong to one of the rules that look at one line at a time? -/
def OfLine (x : Fix) : Prop :=
  x.rule = Rule.trailingSpace.id ∨ x.rule = Rule.tabIndent.id

/-- Why an edit is left, from the lines of the text and the edits that are applied. -/
inductive Yields (r : Repairs) (lines : List Line) (applied : List Fix) (x : Fix) : Prop
  /-- It replaces the tabs of a line that is nothing but white space, which another edit removes. -/
  | whiteLine (hrule : x.rule = Rule.tabIndent.id) (hon : r.trailingSpace = true) {line : Line}
      (hline : line ∈ lines) (hstart : x.start = line.start)
      (hwhite : line.content.all Text.isSpaceOrTab = true)
  /-- It repairs a line that is removed with a surplus of blank lines. -/
  | removed (hrule : OfLine x) (hremoved : Fix.Removed applied x.start x.stop)
  /-- It removes a surplus of blank lines whose first line is repaired at its start. -/
  | firstLine (hrule : x.rule = Rule.blankRun.id) {y : Fix} (hy : y ∈ applied) (hown : OfLine y)
      (hstart : y.start = x.start)

variable {r : Repairs} {o before n : Nat} {dropping : Bool} {piece : Text} {ps : List Text}
  {x y : Fix} {lines : List Line} {applied : List Fix}

/-! ## The first edit at the start of a line -/

theorem isWhite_eq (piece : Text) :
    isWhite piece = (Text.withoutEnd piece).all Text.isSpaceOrTab := by
  rw [isWhite, Rule.withoutTrailingSpace, Text.trimEnd_eq_rdropWhile, Bool.eq_iff_iff,
    List.isEmpty_iff, List.rdropWhile_eq_nil_iff, List.all_eq_true]

theorem length_trailingFixes_le (r : Repairs) (o : Nat) (piece : Text) :
    (r.trailingFixes o piece).length ≤ 1 := by
  simp only [trailingFixes]
  split <;> simp

theorem length_tabFixes_le (r : Repairs) (o : Nat) (piece : Text) :
    (r.tabFixes o piece).length ≤ 1 := by
  simp only [tabFixes]
  split <;> simp

theorem length_runFixes_le (r : Repairs) (o before : Nat) (piece : Text) (ps : List Text) :
    (r.runFixes o before piece ps).length ≤ 1 := by
  rw [runFixes]
  split <;> simp

theorem length_closingFixes_le (r : Repairs) (o : Nat) (piece : Text) :
    (r.closingFixes o piece).length ≤ 1 := by
  rw [closingFixes]
  split <;> simp

theorem rule_of_mem_late (h : x ∈ r.late o piece) : x.rule = Rule.trailingSpace.id := by
  rw [late] at h
  split at h
  · simp at h
  · exact rule_of_mem_trailingFixes h

theorem ofLine_of_mem_ownLeading (h : x ∈ r.ownLeading o piece) : OfLine x := by
  rcases List.mem_append.1 h with h | h
  · split at h
    · exact .inl (rule_of_mem_trailingFixes h)
    · simp at h
  · exact .inr (rule_of_mem_tabFixes h)

/-- An edit is left at the start of a line because an edit of the line itself comes first. -/
theorem exists_first_of_mem_drop_leading (h : x ∈ (r.leading o before piece ps).drop 1) :
    ∃ y ys, r.ownLeading o piece = y :: ys ∧ (x ∈ ys ∨ x ∈ r.runFixes o before piece ps) := by
  rw [leading] at h
  cases hown : r.ownLeading o piece with
  | nil =>
      rw [hown, List.nil_append, List.drop_eq_nil_of_le (length_runFixes_le ..)] at h
      simp at h
  | cons y ys =>
      rw [hown, List.cons_append, List.drop_one, List.tail_cons] at h
      exact ⟨y, ys, rfl, List.mem_append.1 h⟩

/-- Two edits of a line start with it only if the line is white space all through, and the first
of them removes it. -/
theorem white_of_ownLeading_eq_cons {ys : List Fix} (hown : r.ownLeading o piece = y :: ys)
    (hx : x ∈ ys) : x ∈ r.tabFixes o piece ∧ r.trailingSpace = true ∧ isWhite piece = true := by
  rw [ownLeading] at hown
  by_cases hfirst : isWhite piece = true ∧ r.trailingFixes o piece ≠ []
  · obtain ⟨hwhite, hne⟩ := hfirst
    obtain ⟨z, hz⟩ := List.length_eq_one_iff.1
      (Nat.le_antisymm (length_trailingFixes_le r o piece) (List.length_pos_of_ne_nil hne))
    rw [if_pos hwhite, hz, List.singleton_append] at hown
    rw [(List.cons.inj hown).2]
    refine ⟨hx, ?_, hwhite⟩
    by_contra hoff
    exact hne (if_neg fun hon => hoff hon.1)
  · have hnone : (if isWhite piece then r.trailingFixes o piece else []) = [] := by
      by_cases hwhite : isWhite piece = true
      · rw [if_pos hwhite]
        exact not_not.1 fun hne => hfirst ⟨hwhite, hne⟩
      · exact if_neg hwhite
    have hlen := length_tabFixes_le r o piece
    have hpos := List.length_pos_of_mem hx
    rw [hnone, List.nil_append] at hown
    rw [hown, List.length_cons] at hlen
    omega

/-- Where white space is removed, the first edit of a white line does so. -/
theorem rule_of_mem_take_leading (hon : r.trailingSpace = true) (hwhite : isWhite piece = true)
    (hx : x ∈ (r.leading o before piece ps).take 1) : x.rule ≠ Rule.tabIndent.id := by
  intro hrule
  have htab : x ∈ r.tabFixes o piece := by
    rcases List.mem_append.1 (List.mem_of_mem_take hx) with h | h
    · rcases List.mem_append.1 h with h | h
      · rw [if_pos hwhite] at h
        rw [rule_of_mem_trailingFixes h] at hrule
        exact absurd hrule (by decide)
      · exact h
    · rw [rule_of_mem_runFixes h] at hrule
      exact absurd hrule (by decide)
  -- the line is not empty, so there is white space to remove
  have hcontent : (Text.withoutEnd piece).length ≠ 0 := by
    have hbounds := bounds_of_mem_tabFixes htab
    have hindent := (List.takeWhile_prefix Text.isSpaceOrTab (l := Text.withoutEnd piece)).length_le
    rw [Rule.indentOf] at hbounds
    omega
  have hkept : (Rule.withoutTrailingSpace (Text.withoutEnd piece)).length = 0 :=
    List.length_eq_zero_iff.2 (List.isEmpty_iff.1 hwhite)
  rw [leading, ownLeading, if_pos hwhite, trailingFixes, if_pos ⟨hon, by omega⟩,
    List.append_assoc, List.singleton_append, List.take_succ_cons, List.take_zero,
    List.mem_singleton] at hx
  rw [hx] at hrule
  exact absurd (show Rule.trailingSpace.id = Rule.tabIndent.id from hrule) (by decide)

/-! ## The edits that are left -/

/-- An edit is left in a line of a surplus, at the start of a line, in a line with which a surplus
starts, or further on. -/
theorem mem_of_mem_rejectedFrom_cons
    (h : x ∈ r.rejectedFrom o before dropping (piece :: ps)) :
    ((dropping && piece.isBlankPiece) = true ∧
        (x ∈ r.leading o before piece ps ∨ x ∈ r.late o piece)) ∨
      ((dropping && piece.isBlankPiece) = false ∧
        (x ∈ (r.leading o before piece ps).drop 1 ∨
          r.drops before dropping piece = true ∧ x ∈ r.late o piece)) ∨
      x ∈ r.rejectedFrom (o + piece.length) (advance before piece)
        (r.drops before dropping piece) ps := by
  simp only [rejectedFrom, List.mem_append] at h
  rcases h with h | h
  · split at h
    · rename_i hin
      exact .inl ⟨hin, List.mem_append.1 h⟩
    · rename_i hout
      refine .inr (.inl ⟨by simpa using hout, (List.mem_append.1 h).imp_right fun h => ?_⟩)
      split at h
      · rename_i hdrops
        exact ⟨hdrops, h⟩
      · simp at h
  · exact .inr (.inr h)

/-- The removal that starts with a line takes the rest of its run with it. -/
theorem removed_of_drops (hout : (dropping && piece.isBlankPiece) = false)
    (hdrops : r.drops before dropping piece = true)
    (happlied : r.acceptedFrom o before dropping (piece :: ps) ⊆ applied) :
    Fix.Removed applied o (o + piece.length + runLength ps : Nat) := by
  obtain ⟨hrun, hown⟩ := (r.drops_of_outside before o hout).1 hdrops
  have hfix : (r.leading o before piece ps).take 1 = [⟨Rule.blankRun.id,
      ⟨⟨(o : Int), ((o + piece.length + runLength ps : Nat) : Int)⟩, []⟩⟩] := by
    rw [leading, hown, List.nil_append, runFixes, if_pos hrun]
    rfl
  have hmem : ⟨Rule.blankRun.id, ⟨⟨(o : Int), ((o + piece.length + runLength ps : Nat) : Int)⟩,
      []⟩⟩ ∈ r.acceptedFrom o before dropping (piece :: ps) := by
    rw [acceptedFrom, if_neg (by simp [hout]), hfix]
    simp
  exact ⟨_, happlied hmem, rfl, Int.le_refl _, Int.le_refl _⟩

/-- A line of a surplus has no edits but its own, and they go with it. -/
theorem yields_of_inside (hreached : r.Reached before dropping)
    (hin : (dropping && piece.isBlankPiece) = true)
    (hremoved : Fix.Removed applied o (o + piece.length : Nat))
    (hx : x ∈ r.leading o before piece ps ∨ x ∈ r.late o piece) : r.Yields lines applied x := by
  rcases hx with hx | hx
  · rcases List.mem_append.1 hx with hx | hx
    · have hbounds := bounds_of_mem_ownLeading hx
      exact .removed (ofLine_of_mem_ownLeading hx) (hremoved.mono (by omega) (by omega))
    · rw [runFixes] at hx
      split at hx
      · rename_i hrun
        have := (hreached (Bool.and_eq_true_iff.1 hin).1).2
        omega
      · simp at hx
  · have hbounds := bounds_of_mem_late hx
    exact .removed (.inl (rule_of_mem_late hx)) (hremoved.mono (by omega) (by omega))

/-- Every edit that is left yields to one that is applied.  Inside a surplus the removal that
started it is known (`hrun`). -/
theorem yields_of_mem_rejectedFrom (hps : ∀ p ∈ ps, p ≠ []) (hreached : r.Reached before dropping)
    (hlines : Text.placeLines n o ps ⊆ lines)
    (happlied : r.acceptedFrom o before dropping ps ⊆ applied)
    (hrun : dropping = true → Fix.Removed applied o (o + runLength ps : Nat))
    (hx : x ∈ r.rejectedFrom o before dropping ps) : r.Yields lines applied x := by
  induction ps generalizing n o before dropping with
  | nil => simp [rejectedFrom] at hx
  | cons p ps ih =>
      have hne := hps p (List.mem_cons_self ..)
      have hline := hlines (List.mem_cons_self ..)
      have hcover : (dropping && p.isBlankPiece) = true →
          Fix.Removed applied o (o + p.length + runLength ps : Nat) := fun hin => by
        rw [Bool.and_eq_true] at hin
        have h := hrun hin.1
        rwa [runLength_cons, if_pos hin.2, ← Nat.add_assoc] at h
      rcases mem_of_mem_rejectedFrom_cons hx with ⟨hin, hx⟩ | ⟨hout, hx | ⟨hdrops, hx⟩⟩ | hx
      · -- the line is removed with a surplus that started before it
        exact yields_of_inside hreached hin ((hcover hin).mono (Int.le_refl _) (by omega)) hx
      · -- another edit comes first at the start of the line
        obtain ⟨y, ys, hown, hx⟩ := exists_first_of_mem_drop_leading hx
        have hy : y ∈ r.ownLeading o p := by simp [hown]
        rcases hx with hx | hx
        · obtain ⟨htab, hon, hwhite⟩ := white_of_ownLeading_eq_cons hown hx
          rw [isWhite_eq] at hwhite
          exact .whiteLine (rule_of_mem_tabFixes htab) hon hline (bounds_of_mem_tabFixes htab).1
            hwhite
        · refine .firstLine (rule_of_mem_runFixes hx) (happlied ?_) (ofLine_of_mem_ownLeading hy) ?_
          · rw [acceptedFrom, if_neg (by simp [hout]), leading, hown]
            simp
          · rw [(bounds_of_mem_ownLeading hy).1, (bounds_of_mem_runFixes hne hx).1]
      · -- a surplus starts with the line
        have hbounds := bounds_of_mem_late hx
        exact .removed (.inl (rule_of_mem_late hx))
          ((removed_of_drops hout hdrops happlied).mono (by omega) (by omega))
      · refine ih (fun q hq => hps q (List.mem_cons_of_mem _ hq)) (hreached.advance p)
          (fun line h => hlines (List.mem_cons_of_mem _ h)) (fun y hy => happlied ?_)
          (fun hdrops => ?_) hx
        · exact List.mem_append_right _ (List.mem_append_right _ hy)
        · have hstart : (o : Int) ≤ (o + p.length : Nat) := by omega
          by_cases hin : (dropping && p.isBlankPiece) = true
          · exact (hcover hin).mono hstart (Int.le_refl _)
          · exact (removed_of_drops (by simpa using hin) hdrops happlied).mono hstart
              (Int.le_refl _)

/-! ## The edits that are applied -/

/-- Where white space is removed, no tabs of a white line are replaced. -/
theorem not_white_of_mem_acceptedFrom (hps : ∀ p ∈ ps, p ≠ []) (hon : r.trailingSpace = true)
    (hx : x ∈ r.acceptedFrom o before dropping ps) (hrule : x.rule = Rule.tabIndent.id)
    {line : Line} (hline : line ∈ Text.placeLines n o ps) (hstart : x.start = line.start) :
    line.content.all Text.isSpaceOrTab = false := by
  induction ps generalizing n o before dropping with
  | nil => simp [Text.placeLines] at hline
  | cons p ps ih =>
      have hne := hps p (List.mem_cons_self ..)
      have hrest := fun q hq => hps q (List.mem_cons_of_mem p hq)
      have hpos := List.length_pos_of_ne_nil hne
      rcases mem_of_mem_acceptedFrom_cons hx with hx | hx | hx | hx
      · rcases List.mem_cons.1 hline with rfl | hline
        · rw [← Bool.not_eq_true, ← isWhite_eq]
          exact fun hwhite => rule_of_mem_take_leading hon hwhite hx hrule
        · have := (Text.bounds_of_mem_placeLines hline).1
          have := bounds_of_mem_leading hne (List.mem_of_mem_take hx)
          omega
      · rw [rule_of_mem_late hx] at hrule
        exact absurd hrule (by decide)
      · rw [rule_of_mem_closingFixes hx] at hrule
        exact absurd hrule (by decide)
      · rcases List.mem_cons.1 hline with rfl | hline
        · have := bounds_of_mem_acceptedFrom hrest hx
          simp only at hstart
          omega
        · exact ih hrest hx hline

/-- An applied edit of a line or of a surplus of blank lines is not empty. -/
theorem start_lt_stop_of_mem_acceptedFrom (hps : ∀ p ∈ ps, p ≠ [])
    (hx : x ∈ r.acceptedFrom o before dropping ps) (hrule : x.rule ≠ Rule.finalNewline.id) :
    x.start < x.stop := by
  induction ps generalizing o before dropping with
  | nil => simp [acceptedFrom] at hx
  | cons p ps ih =>
      rcases mem_of_mem_acceptedFrom_cons hx with hx | hx | hx | hx
      · exact (bounds_of_mem_leading (hps p (List.mem_cons_self ..)) (List.mem_of_mem_take hx)).2
      · exact (bounds_of_mem_late hx).2.1
      · exact absurd (rule_of_mem_closingFixes hx) hrule
      · exact ih (fun q hq => hps q (List.mem_cons_of_mem _ hq)) hx

/-! ## The choice in a text -/

variable {source : Text}

/-- The edits of single lines are applied in texts that have some. -/
theorem mem_acceptedFrom_of_ofLine (hx : x ∈ r.accepted source) (hown : OfLine x) :
    source ≠ [] ∧ x ∈ r.acceptedFrom 0 0 false (Text.cutLines source) := by
  rw [accepted, emptyFixes] at hx
  by_cases hempty : source = []
  · rw [if_pos hempty, hempty] at hx
    have hrule := rule_of_mem_runFixes ((List.mem_append.1 hx).resolve_right List.not_mem_nil)
    rw [OfLine, hrule] at hown
    exact absurd hown (by decide)
  · rw [if_neg hempty, List.nil_append] at hx
    exact ⟨hempty, hx⟩

theorem yields_of_mem_rejected (hx : x ∈ r.rejected source) :
    r.Yields source.lines (r.accepted source) x := by
  have hne : source ≠ [] := by
    rintro rfl
    simp [rejected, Text.cutLines, rejectedFrom] at hx
  have hcut := Text.isCut_cutLines source
  rw [Text.lines_of_ne_nil hne]
  exact yields_of_mem_rejectedFrom (fun p hp => hcut.ne_nil hp) (fun h => by simp at h)
    (List.Subset.refl _) (List.subset_append_right ..) (fun h => by simp at h) hx

/-- No applied edit yields to another one, as they do not overlap. -/
theorem not_yields_of_mem_accepted
    (happly : (r.accepted source).Pairwise fun x y => x.stop ≤ y.start)
    (hx : x ∈ r.accepted source) : ¬r.Yields source.lines (r.accepted source) x := by
  have hne : ∀ p ∈ Text.cutLines source, p ≠ [] := fun p hp =>
    (Text.isCut_cutLines source).ne_nil hp
  have hdisjoint : (r.accepted source).Pairwise Fix.Apart := happly.imp Or.inl
  have hapart : ∀ y ∈ r.accepted source, x.rule ≠ y.rule → x.Apart y := fun y hy hrule =>
    hdisjoint.forall hx hy (ne_of_apply_ne Fix.rule hrule)
  have hnonempty : ∀ y ∈ r.acceptedFrom 0 0 false (Text.cutLines source),
      OfLine y ∨ y.rule = Rule.blankRun.id → y.start < y.stop := fun y hy hrule =>
    start_lt_stop_of_mem_acceptedFrom hne hy
      (by rcases hrule with (h | h) | h <;> rw [h] <;> decide)
  have hrules : ∀ y z : Fix, OfLine y → z.rule = Rule.blankRun.id → y.rule ≠ z.rule := by
    rintro y z (h | h) hz <;> rw [h, hz] <;> decide
  intro hyields
  cases hyields with
  | whiteLine hrule hon hline hstart hwhite =>
      obtain ⟨hsource, hmem⟩ := mem_acceptedFrom_of_ofLine hx (.inr hrule)
      rw [Text.lines_of_ne_nil hsource] at hline
      rw [not_white_of_mem_acceptedFrom hne hon hmem hrule hline hstart] at hwhite
      exact Bool.noConfusion hwhite
  | removed hown hremoved =>
      obtain ⟨y, hy, hrule, hstart, hstop⟩ := hremoved
      have hlt := hnonempty x (mem_acceptedFrom_of_ofLine hx hown).2 (.inl hown)
      rcases hapart y hy (hrules x y hown hrule) with h | h <;> omega
  | @firstLine hrule y hy hown hstart =>
      obtain ⟨hsource, hmem⟩ := mem_acceptedFrom_of_ofLine hy hown
      rw [accepted, emptyFixes, if_neg hsource, List.nil_append] at hx
      have hlt := hnonempty y hmem (.inl hown)
      have hlt' := hnonempty x hx (.inr hrule)
      rcases hapart y hy (hrules y x hown hrule).symm with h | h <;> omega

/-! ## The edits of one rule -/

variable {g : Nat → Nat → Text → List Text → List Fix}

theorem of_mem_walk {P : Fix → Prop} (hg : ∀ o before p ps, ∀ x ∈ g o before p ps, P x)
    (h : x ∈ walk g o before ps) : P x := by
  induction ps generalizing o before with
  | nil => simp [walk] at h
  | cons p ps ih =>
      rcases List.mem_append.1 h with h | h
      · exact hg o before p ps x h
      · exact ih h

/-- The edits that a rule finds line by line lie one behind the other, if it finds at most one at
each line, which stops before the later ones start. -/
theorem pairwise_walk (hone : ∀ o before p ps, (g o before p ps).length ≤ 1)
    (hlater : ∀ o before p ps, ∀ x ∈ g o before p ps,
      ∀ y ∈ walk g (o + p.length) (advance before p) ps, x.stop ≤ y.start)
    (o before : Nat) (ps : List Text) :
    (walk g o before ps).Pairwise fun x y => x.stop ≤ y.start := by
  induction ps generalizing o before with
  | nil => exact .nil
  | cons p ps ih =>
      refine List.pairwise_append.2 ⟨?_, ih _ _, hlater o before p ps⟩
      have hlen := hone o before p ps
      match g o before p ps, hlen with
      | [], _ => exact .nil
      | [_], _ => exact List.pairwise_singleton ..

/-- So do those that stop with their line. -/
theorem pairwise_walk_of_line (hone : ∀ o before p ps, (g o before p ps).length ≤ 1)
    (hg : ∀ o before p ps, ∀ x ∈ g o before p ps, o ≤ x.start ∧ x.stop ≤ o + p.length)
    (o before : Nat) (ps : List Text) :
    (walk g o before ps).Pairwise fun x y => x.stop ≤ y.start := by
  refine pairwise_walk hone (fun o before p ps x hx y hy => ?_) o before ps
  have hstop := (hg o before p ps x hx).2
  have hstart := le_start_of_mem_walk (fun o before p ps z hz => (hg o before p ps z hz).1) hy
  omega

/-- A run has one surplus: behind it the next one starts after the run. -/
theorem le_start_of_mem_walk_runFixes (hlt : r.blankLines < before)
    (hx : x ∈ walk r.runFixes o before ps) : (o + runLength ps : Nat) ≤ x.start := by
  induction ps generalizing o before with
  | nil => simp [walk] at hx
  | cons p ps ih =>
      rcases List.mem_append.1 hx with hx | hx
      · rw [runFixes, if_neg (by omega)] at hx
        exact absurd hx List.not_mem_nil
      · rw [runLength_cons]
        by_cases hblank : p.isBlankPiece = true
        · rw [if_pos hblank]
          rw [advance, if_pos hblank] at hx
          have := ih (Nat.lt_succ_of_lt hlt) hx
          omega
        · rw [if_neg hblank]
          have := (bounds_of_mem_walk_runFixes hx).1
          omega

theorem pairwise_walk_runFixes (r : Repairs) (o before : Nat) (ps : List Text) :
    (walk r.runFixes o before ps).Pairwise fun x y => x.stop ≤ y.start := by
  refine pairwise_walk (r.length_runFixes_le) (fun o before p ps x hx y hy => ?_) o before ps
  rw [runFixes] at hx
  split at hx
  · rename_i hrun
    rw [advance, if_pos hrun.2.1] at hy
    rw [List.mem_singleton.1 hx]
    exact le_start_of_mem_walk_runFixes (by omega) hy
  · simp at hx

/-- **Edits of one rule never overlap.** -/
theorem pairwise_offered (r : Repairs) (source : Text) :
    (r.offered source).Pairwise Fix.Compatible := by
  have htabs : ∀ x ∈ walk (fun o _ p _ => r.tabFixes o p) 0 0 source.pieces,
      x.rule = Rule.tabIndent.id := fun x hx =>
    of_mem_walk (fun _ _ _ _ _ h => rule_of_mem_tabFixes h) hx
  have hruns : ∀ x ∈ walk r.runFixes 0 0 source.pieces, x.rule = Rule.blankRun.id := fun x hx =>
    of_mem_walk (fun _ _ _ _ _ h => rule_of_mem_runFixes h) hx
  have hclosing : ∀ x ∈ walk (fun o _ p _ => r.closingFixes o p) 0 0 (Text.cutLines source),
      x.rule = Rule.finalNewline.id := fun x hx =>
    of_mem_walk (fun _ _ _ _ _ h => rule_of_mem_closingFixes h) hx
  refine Fix.pairwise_compatible_append ?_ (fun x hx => of_mem_walk (fun _ _ _ _ _ h =>
    rule_of_mem_trailingFixes h) hx) (Fix.pairwise_compatible_append ?_ htabs
      (Fix.pairwise_compatible_append (r.pairwise_walk_runFixes ..) hruns ?_ ?_) ?_) ?_
  · exact pairwise_walk_of_line (fun o _ p _ => r.length_trailingFixes_le o p)
      (fun o _ p _ x hx => by have := bounds_of_mem_trailingFixes hx; omega) ..
  · exact pairwise_walk_of_line (fun o _ p _ => r.length_tabFixes_le o p)
      (fun o _ p _ x hx => by have := bounds_of_mem_tabFixes hx; omega) ..
  · refine List.Pairwise.imp (fun hle _ => Or.inl hle) (pairwise_walk_of_line
      (fun o _ p _ => r.length_closingFixes_le o p) (fun o _ p _ x hx => ?_) ..)
    have := bounds_of_mem_closingFixes hx
    omega
  · exact fun y hy => (hclosing y hy).trans_ne (by decide)
  · exact List.forall_mem_append.2 ⟨fun y hy => (hruns y hy).trans_ne (by decide),
      fun y hy => (hclosing y hy).trans_ne (by decide)⟩
  · exact List.forall_mem_append.2 ⟨fun y hy => (htabs y hy).trans_ne (by decide),
      List.forall_mem_append.2 ⟨fun y hy => (hruns y hy).trans_ne (by decide),
        fun y hy => (hclosing y hy).trans_ne (by decide)⟩⟩

end Repairs

namespace Linter

variable {s : Settings} {l : Linter}

/-- The edits of one rule that a report offers never overlap. -/
theorem pairwise_candidates_lint (h : ofSettings Rule.catalogue s = .ok l) (path source : Text) :
    (l.lint path source).candidates.Pairwise fun a b => a.fix.Compatible b.fix := by
  rw [← List.pairwise_map, (carries_of_ofSettings h).map_fix_candidates, ← Repairs.sort_offered]
  exact ((List.mergeSort_perm _ _).pairwise_iff Fix.Compatible.symm).2
    (s.repairs.pairwise_offered source)

theorem pairwise_accepted (h : ofSettings Rule.catalogue s = .ok l) (source : Text) :
    (s.repairs.accepted source).Pairwise fun x y => x.stop ≤ y.start := by
  have horder := (l.lint [] source).greedy_inOrder.pairwise
  rw [← map_fix_accepted_pass h [] source, pass, Report.repairSafely_greedy, List.pairwise_map]
  exact List.pairwise_map.1 horder

/-- **Which edits a pass leaves.**  Exactly those that yield to an edit it applies; the line feed
at the end of the text never does, and edits of one rule never overlap. -/
theorem mem_rejected_pass_iff (h : ofSettings Rule.catalogue s = .ok l) (path source : Text) :
    let o := l.pass path source
    let applied := o.accepted.map Candidate.fix
    (∀ c, c ∈ o.rejected ↔
      c ∈ (l.lint path source).candidates ∧ s.repairs.Yields source.lines applied c.fix) ∧
    (∀ c ∈ o.rejected, c.diagnostic.rule ≠ Rule.finalNewline.id) ∧
    (l.lint path source).candidates.Pairwise fun a b =>
      a.diagnostic.rule = b.diagnostic.rule → a.stop ≤ b.start ∨ b.stop ≤ a.start := by
  intro o applied
  have hperm : (o.accepted ++ o.rejected).Perm (l.lint path source).candidates := by
    simp only [o, pass, Report.repairSafely_greedy]
    exact (l.lint path source).greedy_perm
  have happlied : applied = s.repairs.accepted source := map_fix_accepted_pass h path source
  have hleft : ∀ c ∈ o.rejected, s.repairs.Yields source.lines applied c.fix := by
    intro c hc
    rw [happlied]
    refine Repairs.yields_of_mem_rejected ?_
    rw [← map_fix_rejected_pass h path source]
    exact List.mem_map_of_mem hc
  refine ⟨fun c => ⟨fun hc => ⟨hperm.mem_iff.1 (List.mem_append_right _ hc), hleft c hc⟩, ?_⟩,
    fun c hc => ?_, pairwise_candidates_lint h path source⟩
  · rintro ⟨hc, hyields⟩
    refine (List.mem_append.1 (hperm.mem_iff.2 hc)).resolve_left fun hacc => ?_
    rw [happlied] at hyields
    refine Repairs.not_yields_of_mem_accepted (pairwise_accepted h source) ?_ hyields
    rw [← map_fix_accepted_pass h path source]
    exact List.mem_map_of_mem hacc
  · have hrule : c.fix.rule ≠ Rule.finalNewline.id := by
      cases hleft c hc with
      | whiteLine hrule => exact hrule.trans_ne (by decide)
      | removed hown => rcases hown with h | h <;> exact h.trans_ne (by decide)
      | firstLine hrule => exact hrule.trans_ne (by decide)
    exact hrule

/-- A white line with a tab, white space in a surplus, and a surplus that starts with white
space. -/
theorem rejected_pass_of_white_lines :
    let source := "\t \n\n\n \nb\n\n \nc".toList
    let o := standard.pass [] source
    ofSettings Rule.catalogue {} = .ok standard ∧
      (o.rejected.map Candidate.fix).map (·.rule) =
        [Rule.tabIndent.id, Rule.trailingSpace.id, Rule.blankRun.id] ∧
      ∀ c ∈ o.rejected, ({} : Settings).repairs.Yields (Text.lines source)
        (o.accepted.map Candidate.fix) c.fix := by
  intro source o
  refine ⟨ofSettings_standard, ?_, fun c hc =>
    (((mem_rejected_pass_iff ofSettings_standard [] source).1 c).1 hc).2⟩
  rw [map_fix_rejected_pass ofSettings_standard]
  decide

end Linter

end SolidityLint
