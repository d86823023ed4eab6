import SolidityLint.Proofs.Diff.Patch
import SolidityLint.Proofs.Pass.Outcome
import SolidityLint.Proofs.Repair.Job
import SolidityLint.Proofs.Text.Rows

/-!
# The rows of a diff

The lines of a diff are put one behind the other, each with the end that it has in its text.  If
each of them but the last one ends in a line feed, they stand on rows of their own, and the patch
can be read from the text of the diff.

* `isRowByRow_iff`: when the lines of a diff stand on rows of their own.
* `IsRowByRow.hasOnlyRows`, `IsRowByRow.exists_changes`: what is then read from the rows.
* `Linter.isRowByRow_diff`: the same for the diff of a repair, and texts for which it is so.
* `Linter.not_hasOnlyRows_of_open_end`: it is not so for a text without a line feed at its end.
-/

namespace SolidityLint

namespace Diff

open Text

variable {before after path line : Text}

/-! ## The lines of a diff -/

namespace Hunk

/-- A hunk covers elements of the two lists. -/
theorem Tiling.subset {α : Type} {i j : Nat} {hs : List (Hunk α)} {as bs : List α}
    (htiling : Tiling i j hs as bs) {h : Hunk α} (hh : h ∈ hs) :
    Script.before h.script ⊆ as ∧ Script.after h.script ⊆ bs := by
  induction htiling with
  | rest => cases hh
  | hunk gap _ _ _ ih =>
      rcases List.mem_cons.1 hh with rfl | hh
      · exact ⟨fun x hx => by simp [hx], fun x hx => by simp [hx]⟩
      · obtain ⟨has, hbs⟩ := ih hh
        exact ⟨fun x hx => by simp [has hx], fun x hx => by simp [hbs hx]⟩

theorem header_eq (h : Hunk Text) : h.header =
    "@@ -".toList ++ describeLines h.beforeStart h.beforeLength ++ " +".toList ++
      describeLines h.afterStart h.afterLength ++ " @@".toList ++ ['\n'] := by
  have hfeed : " @@\n".toList = " @@".toList ++ ['\n'] := rfl
  rw [List.append_assoc _ " @@".toList, ← hfeed]
  rfl

theorem isLine_header (h : Hunk Text) : IsLine h.header := by
  have hnone (start length : Nat) : '\n' ∉ describeLines start length :=
    notMem_describeLines rfl (by decide) start length
  refine ⟨?_, '@', _, rfl, by decide⟩
  rw [header_eq, List.dropLast_concat]
  simp [hnone]

end Hunk

/-- A line of a hunk is a marked line of one of the two texts. -/
theorem exists_of_mem_marked {x : Segment Text} (h : line ∈ x.marked) :
    ∃ mark ∈ [' ', '-', '+'], ∃ l ∈ x.before ++ x.after, line = mark :: l := by
  cases x with
  | keep kept =>
      obtain ⟨l, hl, rfl⟩ := List.mem_map.1 h
      exact ⟨' ', by decide, l, List.mem_append_left _ hl, rfl⟩
  | change old new =>
      rcases List.mem_append.1 h with h | h
      · obtain ⟨l, hl, rfl⟩ := List.mem_map.1 h
        exact ⟨'-', by decide, l, List.mem_append_left _ hl, rfl⟩
      · obtain ⟨l, hl, rfl⟩ := List.mem_map.1 h
        exact ⟨'+', by decide, l, List.mem_append_right _ hl, rfl⟩

/-- The lines that show the hunks of a change: their headers and marked lines of the two texts. -/
theorem cases_of_mem_render (h : line ∈ (hunks before after).flatMap Hunk.render) :
    (∃ hunk : Hunk Text, line = hunk.header) ∨ ∃ mark ∈ [' ', '-', '+'],
      ∃ l ∈ before.breakLines ++ after.breakLines, line = mark :: l := by
  obtain ⟨hunk, hhunk, h⟩ := List.mem_flatMap.1 h
  rcases List.mem_cons.1 h with rfl | h
  · exact .inl ⟨hunk, rfl⟩
  · obtain ⟨x, hx, h⟩ := List.mem_flatMap.1 h
    obtain ⟨mark, hmark, l, hl, rfl⟩ := exists_of_mem_marked h
    have htiling := Hunk.tiling_ofScript contextLines
      (Script.make before.breakLines after.breakLines)
    rw [Script.before_make, Script.after_make] at htiling
    obtain ⟨hbefore, hafter⟩ := htiling.subset hhunk
    refine .inr ⟨mark, hmark, l, ?_, rfl⟩
    rcases List.mem_append.1 hl with hl | hl
    · exact List.mem_append_left _ (hbefore (List.mem_flatMap.2 ⟨x, hx, hl⟩))
    · exact List.mem_append_right _ (hafter (List.mem_flatMap.2 ⟨x, hx, hl⟩))

theorem isLine_of_mem_fileHeader (hpath : '\n' ∉ path) (h : line ∈ fileHeader path) :
    IsLine line := by
  rw [fileHeader, List.mem_cons, List.mem_singleton] at h
  rcases h with rfl | rfl
  · exact ⟨by rw [List.dropLast_concat]; simp [hpath], '-', _, rfl, by decide⟩
  · exact ⟨by rw [List.dropLast_concat]; simp [hpath], '+', _, rfl, by decide⟩

theorem isLine_of_mem_unifiedLines (hpath : '\n' ∉ path)
    (h : line ∈ unifiedLines path before after) : IsLine line := by
  by_cases heq : before = after
  · rw [unifiedLines, hunks_eq_nil_iff.2 heq] at h
    cases h
  rw [unifiedLines_of_ne path heq, List.mem_append] at h
  rcases h with h | h
  · exact isLine_of_mem_fileHeader hpath h
  rcases cases_of_mem_render h with ⟨hunk, rfl⟩ | ⟨mark, hmark, l, hl, rfl⟩
  · exact hunk.isLine_header
  · have hfeed : mark ≠ '\n' := by
      rintro rfl
      exact absurd hmark (by decide)
    have hend : '\n' ∉ l.dropLast :=
      (List.mem_append.1 hl).elim notMem_dropLast_of_mem_breakLines
        notMem_dropLast_of_mem_breakLines
    refine ⟨?_, mark, l, rfl, hfeed⟩
    cases l with
    | nil => simp
    | cons c cs =>
        rw [List.dropLast_cons_cons, List.mem_cons, not_or]
        exact ⟨Ne.symm hfeed, hend⟩

/-- A row of a diff: the header of a hunk, or a marked line of one of the two texts. -/
def IsRow (before after row : Text) : Prop :=
  (readHeader? (row ++ ['\n'])).isSome = true ∨ ∃ mark ∈ [' ', '-', '+'],
    ∃ l ∈ before.breakLines ++ after.breakLines, row = mark :: dropLastIf '\n' l

/-- The text of a diff consists of the two rows that name the texts and of rows of a diff, or of
nothing at all. -/
def HasOnlyRows (path before after diff : Text) : Prop :=
  diff = [] ∨ ∃ rest, diff.rows = (fileHeader path).map (dropLastIf '\n') ++ rest ∧
    ∀ row ∈ rest, IsRow before after row

/-- The lines of a diff stand on rows of their own. -/
def IsRowByRow (path before after diff : Text) : Prop :=
  diff.rows = (unifiedLines path before after).map (dropLastIf '\n')

theorem isRowByRow_iff (hpath : '\n' ∉ path) :
    IsRowByRow path before after (unified path before after) ↔
      ∀ l ∈ (unifiedLines path before after).dropLast, l.getLast? = some '\n' :=
  rows_flatten_iff fun _ => isLine_of_mem_unifiedLines hpath

/-- The lines of a diff end in line feeds if the lines of both texts do. -/
theorem getLast?_of_mem_unifiedLines
    (hends : ∀ l ∈ before.breakLines ++ after.breakLines, l.getLast? = some '\n')
    (h : line ∈ unifiedLines path before after) : line.getLast? = some '\n' := by
  by_cases heq : before = after
  · rw [unifiedLines, hunks_eq_nil_iff.2 heq] at h
    cases h
  rw [unifiedLines_of_ne path heq, List.mem_append] at h
  rcases h with h | h
  · rw [fileHeader, List.mem_cons, List.mem_singleton] at h
    rcases h with rfl | rfl <;> exact List.getLast?_concat ..
  · rcases cases_of_mem_render h with ⟨hunk, rfl⟩ | ⟨mark, -, l, hl, rfl⟩
    · rw [hunk.header_eq, List.getLast?_concat]
    · rw [List.getLast?_cons, hends l hl]
      rfl

/-- Lines on rows of their own are rows of a diff. -/
theorem IsRowByRow.hasOnlyRows (h : IsRowByRow path before after (unified path before after)) :
    HasOnlyRows path before after (unified path before after) := by
  by_cases heq : before = after
  · refine .inl ?_
    rw [unified, unifiedLines, hunks_eq_nil_iff.2 heq]
    rfl
  refine .inr ⟨((hunks before after).flatMap Hunk.render).map (dropLastIf '\n'), ?_,
    fun row hrow => ?_⟩
  · rw [h, unifiedLines_of_ne path heq, List.map_append]
  · obtain ⟨line, hline, rfl⟩ := List.mem_map.1 hrow
    rcases cases_of_mem_render hline with ⟨hunk, rfl⟩ | ⟨mark, hmark, l, hl, rfl⟩
    · refine .inl ?_
      have hrow : dropLastIf '\n' hunk.header ++ ['\n'] = hunk.header := by
        rw [hunk.header_eq, dropLastIf_append_singleton]
      rw [hrow, Hunk.readHeader?_header]
      rfl
    · refine .inr ⟨mark, hmark, l, hl, ?_⟩
      cases l with
      | nil =>
          refine dropLastIf_of_notMem ?_
          rintro hfeed
          rw [← List.mem_singleton.1 hfeed] at hmark
          exact absurd hmark (by decide)
      | cons c cs => exact dropLastIf_append (List.cons_ne_nil c cs) [mark]

/-- From lines on rows of their own the patch is read back. -/
theorem IsRowByRow.exists_changes (hpath : '\n' ∉ path)
    (h : IsRowByRow path before after (unified path before after)) (hne : before ≠ after) :
    ∃ changes, Change.readAll? ((unified path before after).cutLines.drop 2) = some changes ∧
      Change.applyAll? before.breakLines 0 changes = some after.breakLines := by
  have hcut : (unified path before after).cutLines = unifiedLines path before after :=
    cutLines_flatten (isCut_of_forall (fun _ => isLine_of_mem_unifiedLines hpath)
      ((isRowByRow_iff hpath).1 h))
  refine ⟨_, ?_, (fits_hunks before after).applyAll?⟩
  rw [hcut, unifiedLines_of_ne path hne]
  exact Hunk.readAll?_flatMap_render _

end Diff

namespace Repairs

open Text

variable {r : Repairs} {before : Nat} {dropping : Bool} {ps : List Text}

/-! ## The lines that a pass leaves -/

theorem forall_isBreak_tidyContent {content : Text} (h : ∀ c ∈ content, isBreak c = false) :
    ∀ c ∈ r.tidyContent content, isBreak c = false := by
  intro c hc
  rcases mem_tidyContent hc with hc | rfl
  · exact h c hc
  · rfl

/-- A pass leaves no breaks but line feeds where there are no others. -/
theorem isPlain_of_mem_rewriteFrom (h : ∀ p ∈ ps, IsPlain p) {q : Text}
    (hq : q ∈ r.rewriteFrom before dropping ps) : IsPlain q := by
  induction ps generalizing before dropping with
  | nil => cases hq
  | cons p ps ih =>
      obtain ⟨⟨content, hcontent, hp⟩, hps⟩ := List.forall_mem_cons.1 h
      rcases List.mem_append.1 hq with hq | hq
      · refine ⟨r.tidyContent content, forall_isBreak_tidyContent hcontent, ?_⟩
        have hcarriage : '\r' ∉ content := notMem_of_forall_isBreak hcontent (by decide)
        rcases hp with rfl | rfl
        · rw [remainder_append_feed, tidyBody_of_ne (getLast?_ne_of_notMem hcarriage)] at hq
          split at hq
          · cases hq
          · exact .inl (List.mem_singleton.1 hq)
        · rw [remainder_append_feed, tidyBody_append_carriage] at hq
          split at hq
          · cases hq
          · exact .inr (List.mem_singleton.1 hq)
      · exact ih hps hq

end Repairs

namespace Linter

open Diff

variable {s : Settings} {l : Linter} {path : Text}

theorem diff_repairSafely (l : Linter) (path source : Text) (resolver : Resolver) :
    let o := (l.lint path source).repairSafely resolver
    o.diff = unified path source o.patch.output := by
  intro o
  obtain ⟨hgiven, hpath, -⟩ := (l.lint path source).repairSafely_keeps resolver
  rw [Outcome.diff, hgiven, hpath]
  rfl

/-- A pass leaves lines that end in line feeds if it finds only such lines. -/
theorem getLast?_of_mem_breakLines_fixed (h : ofSettings Rule.catalogue s = .ok l) {source : Text}
    (hends : ∀ line ∈ source.breakLines, line.getLast? = some '\n') {line : Text}
    (hline : line ∈ (l.fixed path source).breakLines) : line.getLast? = some '\n' := by
  have hplain : ∀ q ∈ s.repairs.rewrite source.breakLines, Text.IsPlain q := fun _ hq =>
    Repairs.isPlain_of_mem_rewriteFrom
      (fun p hp => Text.isPlain_of_mem_breakLines hp (hends p hp)) hq
  rw [fixed_eq h, Text.cutLines_eq_breakLines hends, Text.breakLines_flatten hplain] at hline
  exact (hplain line hline).getLast?

/-- **Where the lines of a repair's diff stand on rows of their own.**  They do exactly if each of
them but the last one ends in a line feed.  Then every row behind the two that name the file is a
header or a marked line, and the patch is read back from the text of the diff.  A pass over a text
whose lines all end in line feeds has such a diff. -/
theorem isRowByRow_diff (h : ofSettings Rule.catalogue s = .ok l) (hpath : '\n' ∉ path)
    (source : Text) :
    (∀ resolver : Resolver,
      let o := (l.lint path source).repairSafely resolver
      let after := o.patch.output
      (IsRowByRow path source after o.diff ↔
        ∀ line ∈ (unifiedLines path source after).dropLast, line.getLast? = some '\n') ∧
      (IsRowByRow path source after o.diff → HasOnlyRows path source after o.diff ∧
        (source ≠ after → ∃ changes,
          Change.readAll? (o.diff.cutLines.drop 2) = some changes ∧
          Change.applyAll? source.breakLines 0 changes = some after.breakLines))) ∧
    ((∀ line ∈ source.breakLines, line.getLast? = some '\n') →
      IsRowByRow path source (l.fixed path source) (l.pass path source).diff) := by
  refine ⟨fun resolver => ?_, fun hends => ?_⟩
  · intro o after
    have hdiff : o.diff = unified path source after := l.diff_repairSafely path source resolver
    rw [hdiff]
    exact ⟨isRowByRow_iff hpath, fun hrows => ⟨hrows.hasOnlyRows, hrows.exists_changes hpath⟩⟩
  · have hdiff : (l.pass path source).diff = unified path source (l.fixed path source) :=
      l.diff_repairSafely path source .greedy
    rw [hdiff, isRowByRow_iff hpath]
    intro line hline
    refine getLast?_of_mem_unifiedLines (fun x hx => ?_) ((List.dropLast_sublist _).subset hline)
    rcases List.mem_append.1 hx with hx | hx
    · exact hends x hx
    · exact getLast?_of_mem_breakLines_fixed h hends hx

/-- A pass that removes a blank at the end of a line is shown row by row. -/
theorem isRowByRow_diff_of_trailing_blank :
    ofSettings Rule.catalogue {} = .ok standard ∧ '\n' ∉ "a.sol".toList ∧
      (∀ line ∈ Text.breakLines "a \nb\n".toList, line.getLast? = some '\n') ∧
      IsRowByRow "a.sol".toList "a \nb\n".toList
        (standard.fixed "a.sol".toList "a \nb\n".toList)
        (standard.pass "a.sol".toList "a \nb\n".toList).diff := by
  have hpath : '\n' ∉ "a.sol".toList := by decide
  have hends : ∀ line ∈ Text.breakLines "a \nb\n".toList, line.getLast? = some '\n' := by decide
  exact ⟨ofSettings_standard, hpath, hends,
    (isRowByRow_diff ofSettings_standard hpath "a \nb\n".toList).2 hends⟩

/-- Where a text does not end in a line feed, the line that is removed and the line that is added
for it share a row. -/
theorem not_hasOnlyRows_of_open_end :
    ¬ ∀ (s : Settings) (l : Linter), ofSettings Rule.catalogue s = .ok l →
      ∀ path source : Text, '\n' ∉ path →
        HasOnlyRows path source (l.fixed path source) (l.pass path source).diff := by
  intro hall
  have h := hall {} standard ofSettings_standard "a.sol".toList "a".toList (by decide)
  have hfixed : standard.fixed "a.sol".toList "a".toList = "a\n".toList := by
    rw [fixed_eq ofSettings_standard]
    decide
  have hdiff : (standard.pass "a.sol".toList "a".toList).diff =
      "--- a/a.sol\n+++ b/a.sol\n@@ -1 +1 @@\n-a+a\n".toList := by
    have hunified : (standard.pass "a.sol".toList "a".toList).diff =
        unified "a.sol".toList "a".toList (standard.fixed "a.sol".toList "a".toList) :=
      standard.diff_repairSafely "a.sol".toList "a".toList .greedy
    rw [hunified, hfixed]
    decide
  rw [hfixed, hdiff] at h
  obtain h | ⟨rest, hrows, hrest⟩ := h
  · exact absurd h (by decide)
  -- the last row holds both lines
  have hlast : "-a+a".toList ∈ rest := by
    have hrest : rest = ["@@ -1 +1 @@".toList, "-a+a".toList] :=
      (List.append_cancel_left (hrows.symm.trans (by decide)) : _)
    rw [hrest]
    exact List.mem_cons_of_mem _ (List.mem_cons_self ..)
  rcases hrest _ hlast with hheader | ⟨mark, -, line, hline, hrow⟩
  · exact absurd hheader (by decide)
  · have hlines : Text.breakLines "a".toList ++ Text.breakLines "a\n".toList =
        ["a".toList, "a\n".toList] := rfl
    rw [hlines, List.mem_cons, List.mem_singleton] at hline
    have hcontent := (List.cons.inj hrow).2
    rcases hline with rfl | rfl <;> exact absurd hcontent (by decide)

end Linter

end SolidityLint
