import SolidityLint.Proofs.Pass.Code
import SolidityLint.Proofs.Pass.Fate

/-!
# Rules that find nothing

When a rule finds nothing in a text is said here line by line, first for any text and then for the
text after a pass.

* `Text.forall_lines_iff`: a rule that looks at the contents of lines looks at those of the pieces.
* `check_blankRun_eq_nil_iff`: the rule against blank lines finds nothing in lines that it keeps.
* `check_finalNewline_fixed`, `check_tabIndent_fixed`: two rules never find anything after they
  have repaired a text.
* `check_trailingSpace_fixed_iff`, `check_blankRun_fixed_iff`, `check_lineLength_fixed_iff`: what
  the other rules may find then.
-/

namespace SolidityLint

/-! ## Any text -/

namespace Text

theorem forall_placeLines_iff {P : Text → Prop} (n o : Nat) (ps : List Text) :
    (∀ l ∈ placeLines n o ps, P l.content) ↔ ∀ p ∈ ps, P (withoutEnd p) := by
  rw [← List.forall_mem_map, map_content_placeLines, List.forall_mem_map]

/-- What holds of an empty content holds of the contents of all lines if it does of those of the
pieces. -/
theorem forall_lines_iff {P : Text → Prop} (hnil : P []) (source : Text) :
    (∀ l ∈ source.lines, P l.content) ↔ ∀ p ∈ cutLines source, P (withoutEnd p) := by
  rw [lines_eq_placeLines, forall_placeLines_iff, pieces]
  split
  · rename_i hempty
    rw [hempty]
    exact iff_of_true (List.forall_mem_singleton.2 hnil) (by simp [cutLines])
  · rfl

end Text

namespace Rule

variable {limits : Limits} {source : Text}

/-- A rule that looks at one line at a time finds nothing if it finds nothing in the pieces. -/
theorem check_eq_nil_iff {rule : Rule} {check : Line → Option Finding} {P : Text → Prop}
    (hcheck : rule.check limits source = .ok (source.lines.filterMap check)) (hnil : P [])
    (hline : ∀ l, check l = none ↔ P l.content) :
    rule.check limits source = .ok [] ↔ ∀ p ∈ Text.cutLines source, P (Text.withoutEnd p) := by
  rw [hcheck, Except.ok.injEq, List.filterMap_eq_nil_iff, ← Text.forall_lines_iff hnil]
  exact forall₂_congr fun l _ => hline l

theorem trailingSpaceIn_eq_none_iff {l : Line} :
    trailingSpaceIn l = none ↔ withoutTrailingSpace l.content = l.content := by
  simp only [trailingSpaceIn]
  split
  · rename_i hlen
    exact iff_of_true rfl ((Text.withoutTrailingSpace_isPrefix _).eq_of_length hlen)
  · rename_i hlen
    exact iff_of_false (by simp) fun heq => hlen (congrArg List.length heq)

theorem check_trailingSpace_eq_nil_iff : trailingSpace.check limits source = .ok [] ↔
    ∀ p ∈ Text.cutLines source, withoutTrailingSpace (Text.withoutEnd p) = Text.withoutEnd p :=
  check_eq_nil_iff (P := fun c => withoutTrailingSpace c = c) rfl rfl
    fun _ => trailingSpaceIn_eq_none_iff

theorem check_tabIndent_eq_nil_iff : tabIndent.check limits source = .ok [] ↔
    ∀ p ∈ Text.cutLines source, '\t' ∉ indentOf (Text.withoutEnd p) :=
  check_eq_nil_iff (P := fun c => '\t' ∉ indentOf c) rfl (by decide) fun l => by simp [tabIndentIn]

theorem check_lineLength_eq_nil_iff : lineLength.check limits source = .ok [] ↔
    ∀ p ∈ Text.cutLines source, (Text.withoutEnd p).length ≤ limits.lineLength :=
  check_eq_nil_iff (P := fun c => c.length ≤ limits.lineLength) rfl (Nat.zero_le _)
    fun l => by simp [longLineIn]

theorem check_finalNewline_eq_nil_iff : finalNewline.check limits source = .ok [] ↔
    source = [] ∨ source.getLast? = some '\n' := by
  have hcheck : finalNewline.check limits source = .ok (missingNewlineIn source).toList := rfl
  rw [hcheck, Except.ok.injEq, Option.toList_eq_nil_iff, missingNewlineIn]
  split
  · rename_i h
    exact iff_of_true rfl h
  · rename_i h
    exact iff_of_false (by simp) h

end Rule

namespace Repairs

variable {r : Repairs} {o before : Nat} {ps : List Text}

/-- Up to the limit the counts find a surplus exactly where lines are not kept. -/
theorem walk_runFixes_eq_nil_iff (hon : r.blankRun = true) (hle : before ≤ r.blankLines) :
    walk r.runFixes o before ps = [] ↔ r.keepFrom before ps = ps := by
  induction ps generalizing o before with
  | nil => simp [walk, keepFrom]
  | cons p ps ih =>
      rw [walk, List.append_eq_nil_iff]
      by_cases hsurplus : r.isSurplus before p = true
      · -- the surplus starts with this line
        have hlines : p.isBlankPiece = true ∧ r.blankLines ≤ before := by
          simpa [isSurplus, hon] using hsurplus
        refine iff_of_false (fun h => ?_) fun h => ?_
        · rw [runFixes, if_pos ⟨hon, hlines.1, by omega⟩] at h
          exact List.cons_ne_nil _ _ h.1
        · rw [(isSurplus_of_keepFrom_cons h).1] at hsurplus
          exact Bool.noConfusion hsurplus
      · have hkept : r.isSurplus before p = false := by simpa using hsurplus
        have hnext : advance before p ≤ r.blankLines := by
          rw [advance]
          split
          · rename_i hblank
            have hlt : before < r.blankLines := by simpa [isSurplus, hon, hblank] using hkept
            omega
          · exact Nat.zero_le _
        rw [runFixes_of_isSurplus_eq_false hkept, ih hnext, keepFrom, if_neg hsurplus,
          List.cons_inj_right]
        exact and_iff_right rfl

/-- Where no blank line is allowed, of blank lines nothing is kept. -/
theorem keepFrom_eq_nil (hon : r.blankRun = true) (hzero : r.blankLines = 0)
    (hblank : ∀ p ∈ ps, Text.isBlankPiece p = true) : r.keepFrom before ps = [] := by
  induction ps generalizing before with
  | nil => rfl
  | cons p ps ih =>
      rw [keepFrom, if_pos (by simp [isSurplus, hon, hzero, hblank p (List.mem_cons_self ..)])]
      exact ih fun q hq => hblank q (List.mem_cons_of_mem _ hq)

end Repairs

namespace Rule

variable {s : Settings} {source : Text}

/-- The rule against blank lines finds nothing in lines of which none is beyond the limit. -/
theorem check_blankRun_eq_nil_iff (hon : blankRun.isOn s = true) :
    blankRun.check s.limits source = .ok [] ↔
      s.repairs.keepFrom 0 source.pieces = source.pieces := by
  have hon' : s.repairs.blankRun = true := hon
  have hmap : ((Line.blankRuns (Text.placeLines 1 0 source.pieces)).filterMap
      (blankRunIn s.repairs.blankLines)).map (·.fixFor blankRun.id (.ofText source)) =
        (Repairs.walk s.repairs.runFixes 0 0 source.pieces).map some :=
    Repairs.map_fixFor_blankRun hon' (by simp [Text.flatten_pieces, EditFactory.ofText])
  rw [← Text.lines_eq_placeLines] at hmap
  have hlen := congrArg List.length hmap
  rw [List.length_map, List.length_map] at hlen
  have hcheck : blankRun.check s.limits source =
      .ok ((Line.blankRuns source.lines).filterMap (blankRunIn s.limits.blankLines)) := rfl
  rw [← Repairs.walk_runFixes_eq_nil_iff hon' (Nat.zero_le _) (o := 0), hcheck,
    Except.ok.injEq, ← List.length_eq_zero_iff, ← List.length_eq_zero_iff, ← hlen]
  rfl

end Rule

/-! ## The text after a pass -/

namespace Text

theorem forall_mem_cutLines_isBlankPiece_iff {source : Text} :
    (∀ p ∈ cutLines source, isBlankPiece p = true) ↔ source.all isBlank = true := by
  conv_rhs => rw [← flatten_cutLines source, List.all_flatten]
  rw [List.all_eq_true]
  rfl

/-- A text is blank exactly if it has no code. -/
theorem all_isBlank_iff_codeLines {source : Text} :
    source.all isBlank = true ↔ source.codeLines = [] := by
  rw [codeLines_eq, codePieces, List.map_eq_nil_iff, List.filter_eq_nil_iff,
    ← forall_mem_cutLines_isBlankPiece_iff]
  simp

end Text

namespace Linter

variable {s : Settings} {l : Linter} {path source : Text}

theorem check_trailingSpace_fixed_iff (h : ofSettings Rule.catalogue s = .ok l)
    (hon : Rule.trailingSpace.isOn s = true)
    (hleft : ∀ x ∈ s.repairs.rejected source, x.rule ≠ Rule.trailingSpace.id) :
    Rule.trailingSpace.check s.limits (l.fixed path source) = .ok [] ↔
      ∀ p ∈ Text.cutLines source, ¬Text.HidesReturn p := by
  rw [Rule.check_trailingSpace_eq_nil_iff, cutLines_fixed h]
  exact Repairs.forall_withoutTrailingSpace_iff (Text.isCut_cutLines source) hon hleft

theorem check_tabIndent_fixed (h : ofSettings Rule.catalogue s = .ok l)
    (hon : Rule.tabIndent.isOn s = true) :
    Rule.tabIndent.check s.limits (l.fixed path source) = .ok [] := by
  rw [Rule.check_tabIndent_eq_nil_iff, cutLines_fixed h]
  exact Repairs.tab_notMem_indentOf_of_mem_rewrite (Text.isCut_cutLines source) hon

theorem check_finalNewline_fixed (h : ofSettings Rule.catalogue s = .ok l)
    (hon : Rule.finalNewline.isOn s = true) :
    Rule.finalNewline.check s.limits (l.fixed path source) = .ok [] := by
  rw [Rule.check_finalNewline_eq_nil_iff, fixed_eq h]
  have hcut := Text.isCut_cutLines source
  rcases List.eq_nil_or_concat (s.repairs.rewrite (Text.cutLines source)) with hnil | ⟨front, q, hq⟩
  · exact .inl (by rw [hnil]; rfl)
  · -- the last line has a line feed, since nothing is to be put behind it
    have hmem : q ∈ s.repairs.rewrite (Text.cutLines source) := by simp [hq]
    have hclosing := Repairs.closing_of_mem_rewriteFrom hcut hmem
    have hne := (Repairs.isCut_rewriteFrom hcut).ne_nil hmem
    have hlast : q.getLast? = some '\n' := by
      by_contra hopen
      rw [Repairs.closing, if_pos ⟨hon, hopen⟩] at hclosing
      exact List.cons_ne_nil _ _ hclosing
    right
    rw [hq, List.concat_eq_append, List.flatten_append, List.flatten_singleton,
      List.getLast?_append_of_ne_nil _ hne, hlast]

theorem check_lineLength_fixed_iff (h : ofSettings Rule.catalogue s = .ok l) :
    Rule.lineLength.check s.limits (l.fixed path source) = .ok [] ↔
      ∀ p ∈ s.repairs.survivors (Text.cutLines source),
        (Text.withoutEnd (s.repairs.tidy p)).length ≤ s.limits.lineLength := by
  simp only [Rule.check_lineLength_eq_nil_iff, cutLines_fixed h, Repairs.mem_survivors_iff]
  exact Repairs.forall_mem_rewriteFrom_iff (P := fun c => c.length ≤ s.limits.lineLength)
    (Nat.zero_le _) fun p hp => (Text.isCut_cutLines source).feed_notMem hp

/-- What the rule against blank lines may find after a pass that left none of its edits: a surplus
that was reopened, or the only line of a blank text where no blank line is allowed. -/
theorem check_blankRun_fixed_iff (h : ofSettings Rule.catalogue s = .ok l)
    (hon : Rule.blankRun.isOn s = true)
    (hleft : ∀ x ∈ s.repairs.rejected source, x.rule ≠ Rule.blankRun.id) :
    Rule.blankRun.check s.limits (l.fixed path source) = .ok [] ↔
      ¬(Rule.finalNewline.isOn s = true ∧ source.EndsInOpenRun s.limits.blankLines) ∧
        ¬(s.limits.blankLines = 0 ∧ source.all Text.isBlank = true) := by
  have hlines := cutLines_fixed h path source
  have hon' : s.repairs.blankRun = true := hon
  have hkept : s.repairs.keepFrom 0 (Text.cutLines (l.fixed path source)) =
      Text.cutLines (l.fixed path source) ↔
        ¬(Rule.finalNewline.isOn s = true ∧ source.EndsInOpenRun s.limits.blankLines) := by
    rw [hlines, Repairs.keepFrom_rewrite_iff source hleft]
    exact not_congr (and_iff_right hon')
  have hblank : source.all Text.isBlank = (l.fixed path source).all Text.isBlank := by
    rw [Bool.eq_iff_iff, Text.all_isBlank_iff_codeLines, Text.all_isBlank_iff_codeLines,
      codeLines_fixed h]
  rw [Rule.check_blankRun_eq_nil_iff hon, hblank, ← hkept, Text.pieces]
  generalize l.fixed path source = fixed
  split
  · -- the empty text has one blank line
    rename_i hempty
    rw [hempty]
    have hsurplus : s.repairs.isSurplus 0 [] = decide (s.limits.blankLines = 0) := by
      rw [Repairs.isSurplus, hon', Bool.true_and]
      exact decide_eq_decide.2 Nat.le_zero
    simp [hsurplus, Text.cutLines, Repairs.keepFrom]
  · rename_i hne
    rw [iff_self_and]
    rintro heq ⟨hzero, hall⟩
    rw [Repairs.keepFrom_eq_nil hon' hzero (Text.forall_mem_cutLines_isBlankPiece_iff.2 hall)]
      at heq
    exact hne (Text.cutLines_eq_nil_iff.1 heq.symm)

end Linter

end SolidityLint
