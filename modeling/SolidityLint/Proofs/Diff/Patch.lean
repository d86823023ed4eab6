import SolidityLint.Diff.Unified
import SolidityLint.Proofs.Diff.Identical
import SolidityLint.Proofs.Diff.Tiling
import SolidityLint.Proofs.Text.Number
import SolidityLint.Proofs.Text.Split

/-!
# Unified diffs as patches

A unified diff is read back (`Change.readAll?`): a header gives the stretches of lines that a hunk
covers on either side, and the marks say on which side a line stands.  What is read fits the lines
of the two texts (`Change.Fits`), and carried out on the lines of the first text it gives those of
the second (`Change.applyAll?`).

* `Hunk.readAll?_flatMap_render`: hunks are read back from the lines that show them.
* `Hunk.Tiling.fits`: hunks and the gaps between them fit the lists that they cover.
* `Outcome.diff_patches`: the difference that a repair makes is empty only if the text stays, and
  otherwise a correct patch.
-/

namespace SolidityLint.Diff

/-! ## Reading headers -/

/-- A stretch of a list: the number of elements before it and the number up to its end. -/
structure Stretch where
  /-- The number of elements before the stretch. -/
  start : Nat
  /-- The number of elements up to the end of the stretch. -/
  stop : Nat
  deriving DecidableEq, Repr

namespace Stretch

/-- The elements of a list in a stretch. -/
def of {α : Type} (s : Stretch) (xs : List α) : List α :=
  (xs.take s.stop).drop s.start

/-- Reads a stretch of lines: the number of its first line, and how many lines there are unless it
is one.  A stretch without lines is placed at the line before it. -/
def read? (s : Text) : Option Stretch :=
  match s.splitOn ',' with
  | [first] => first.number?.map fun n => ⟨n - 1, n⟩
  | [first, count] => do
      let n ← first.number?
      let k ← count.number?
      return if k = 0 then ⟨n, n⟩ else ⟨n - 1, n - 1 + k⟩
  | _ => none

end Stretch

/-- Reads the header of a hunk: the stretches of lines that it covers on either side. -/
def readHeader? (line : Text) : Option (Stretch × Stretch) :=
  match line.splitOn ' ' with
  | [opening, '-' :: old, '+' :: new, closing] =>
      if opening = "@@".toList ∧ closing = "@@\n".toList then do
        return (← Stretch.read? old, ← Stretch.read? new)
      else none
  | _ => none

/-! ## Reading hunks -/

/-- A line of a hunk. -/
inductive MarkedLine where
  /-- A line on both sides. -/
  | kept (line : Text)
  /-- A line on the old side. -/
  | removed (line : Text)
  /-- A line on the new side. -/
  | added (line : Text)
  deriving DecidableEq, Repr

namespace MarkedLine

/-- Reads a line with its mark. -/
def read? : Text → Option MarkedLine
  | ' ' :: line => some (kept line)
  | '-' :: line => some (removed line)
  | '+' :: line => some (added line)
  | _ => none

/-- The line, if it stands on the old side. -/
def old? : MarkedLine → Option Text
  | kept line => some line
  | removed line => some line
  | added _ => none

/-- The line, if it stands on the new side. -/
def new? : MarkedLine → Option Text
  | kept line => some line
  | removed _ => none
  | added line => some line

end MarkedLine

/-- A hunk as it is read: the stretches that it covers on either side, and its lines. -/
structure Change where
  /-- The stretch of old lines. -/
  old : Stretch
  /-- The stretch of new lines. -/
  new : Stretch
  /-- The lines with their marks. -/
  lines : List MarkedLine
  deriving DecidableEq, Repr

namespace Change

/-- The lines of a hunk that stand on the old side. -/
def oldLines (c : Change) : List Text :=
  c.lines.filterMap MarkedLine.old?

/-- The lines of a hunk that stand on the new side. -/
def newLines (c : Change) : List Text :=
  c.lines.filterMap MarkedLine.new?

/-- Reads the hunks of a diff, and the lines before the first header.  A line without a mark has to
be a header. -/
def readFrom? : List Text → Option (List MarkedLine × List Change)
  | [] => some ([], [])
  | line :: rest => do
      let (pending, changes) ← readFrom? rest
      match MarkedLine.read? line with
      | some marked => return (marked :: pending, changes)
      | none =>
          let (old, new) ← readHeader? line
          return ([], ⟨old, new, pending⟩ :: changes)

/-- Reads the hunks of a diff, which start with a header. -/
def readAll? (lines : List Text) : Option (List Change) :=
  match readFrom? lines with
  | some ([], changes) => some changes
  | _ => none

/-! ## Carrying out hunks -/

/-- Hunks fit two lists of lines from the places `i` and `j` on. -/
inductive Fits (as bs : List Text) : Nat → Nat → List Change → Prop where
  /-- Behind the last hunk both lists go on in the same way. -/
  | rest {i j : Nat} (hrest : as.drop i = bs.drop j) : Fits as bs i j []
  /-- Before a hunk both lists are the same, and it shows what they have where it stands. -/
  | hunk {i j : Nat} {c : Change} {cs : List Change} (hold : i ≤ c.old.start)
      (hnew : j ≤ c.new.start) (holdStop : c.old.start ≤ c.old.stop ∧ c.old.stop ≤ as.length)
      (hnewStop : c.new.start ≤ c.new.stop ∧ c.new.stop ≤ bs.length)
      (hgap : Stretch.of ⟨i, c.old.start⟩ as = Stretch.of ⟨j, c.new.start⟩ bs)
      (holdLines : c.oldLines = c.old.of as) (hnewLines : c.newLines = c.new.of bs)
      (hrest : Fits as bs c.old.stop c.new.stop cs) : Fits as bs i j (c :: cs)

/-- Carries out hunks on a list of lines from the place `i` on; nothing if one of them does not
find its old lines where its header says. -/
def applyAll? (as : List Text) : Nat → List Change → Option (List Text)
  | i, [] => some (as.drop i)
  | i, c :: cs =>
      if i ≤ c.old.start ∧ c.oldLines = c.old.of as then
        (applyAll? as c.old.stop cs).map fun rest =>
          Stretch.of ⟨i, c.old.start⟩ as ++ c.newLines ++ rest
      else none

end Change

/-! ## Stretches of a list -/

namespace Stretch

variable {α : Type} {i j k : Nat}

theorem of_eq_take_drop (i j : Nat) (xs : List α) : of ⟨i, j⟩ xs = (xs.drop i).take (j - i) :=
  List.drop_take ..

theorem of_append_drop (h : i ≤ j) (xs : List α) : of ⟨i, j⟩ xs ++ xs.drop j = xs.drop i := by
  have hj : xs.drop j = (xs.drop i).drop (j - i) := by rw [List.drop_drop, Nat.add_sub_cancel' h]
  rw [of_eq_take_drop, hj, List.take_append_drop]

/-- A part of a list is the stretch from where it starts to where it ends. -/
theorem of_append_append (pre mid post : List α) :
    of ⟨pre.length, pre.length + mid.length⟩ (pre ++ (mid ++ post)) = mid := by
  rw [of_eq_take_drop, List.drop_left, Nat.add_sub_cancel_left, List.take_left]

end Stretch

namespace Change

/-- **Hunks that fit two lists turn the first into the second.** -/
theorem Fits.applyAll? {as bs : List Text} {i j : Nat} {cs : List Change}
    (h : Fits as bs i j cs) : Change.applyAll? as i cs = some (bs.drop j) := by
  induction h with
  | rest hrest => rw [Change.applyAll?, hrest]
  | hunk hold hnew _ hnewStop hgap holdLines hnewLines _ ih =>
      rw [Change.applyAll?, if_pos ⟨hold, holdLines⟩, ih, hgap, hnewLines, Option.map_some,
        List.append_assoc, Stretch.of_append_drop hnewStop.1, Stretch.of_append_drop hnew]

end Change

/-! ## Hunks are read back -/

namespace Hunk

theorem notMem_describeLines {c : Char} (hc : c.isDigit = false) (hcomma : c ≠ ',')
    (start length : Nat) : c ∉ describeLines start length := by
  have hzero : c ≠ '0' := by
    rintro rfl
    exact absurd hc (by decide)
  match length with
  | 0 => simp [describeLines, Text.notMem_ofNat hc, hcomma, hzero]
  | 1 => exact Text.notMem_ofNat hc _
  | n + 2 => simp [describeLines, Text.notMem_ofNat hc, hcomma]

theorem read?_describeLines (start length : Nat) :
    Stretch.read? (describeLines start length) = some ⟨start, start + length⟩ := by
  have hcomma (n : Nat) : ',' ∉ Text.ofNat n := Text.notMem_ofNat rfl n
  match length with
  | 0 =>
      have hsplit : Text.splitOn ',' (Text.ofNat start ++ ",0".toList) =
          [Text.ofNat start, Text.ofNat 0] := Text.splitOn_append_cons (hcomma start) _
      have hzero : (Text.ofNat 0).number? = some 0 := Text.number?_ofNat 0
      rw [describeLines, Stretch.read?, hsplit]
      simp [Text.number?_ofNat, hzero]
  | 1 =>
      have hsplit := Text.splitOn_of_notMem (hcomma (start + 1))
      rw [describeLines, Stretch.read?, hsplit]
      simp [Text.number?_ofNat]
  | n + 2 =>
      have hsplit : Text.splitOn ',' (Text.ofNat (start + 1) ++ ",".toList ++ Text.ofNat (n + 2)) =
          [Text.ofNat (start + 1), Text.ofNat (n + 2)] := by
        rw [List.append_assoc]
        exact (Text.splitOn_append_cons (hcomma _) _).trans
          (congrArg _ (Text.splitOn_of_notMem (hcomma _)))
      have hlines : describeLines start (n + 2) =
          Text.ofNat (start + 1) ++ ",".toList ++ Text.ofNat (n + 2) := rfl
      rw [hlines, Stretch.read?, hsplit]
      simp [Text.number?_ofNat]

example : Stretch.read? "3,0".toList = some ⟨3, 3⟩ := by decide

/-- The stretches of lines that a hunk covers are read back from its header. -/
theorem readHeader?_header (h : Hunk Text) : readHeader? h.header =
    some (⟨h.beforeStart, h.beforeStop⟩, ⟨h.afterStart, h.afterStop⟩) := by
  have hblank (start length : Nat) : ' ' ∉ describeLines start length :=
    notMem_describeLines rfl (by decide) start length
  have hwords : h.header = Text.join [' '] ["@@".toList,
      '-' :: describeLines h.beforeStart h.beforeLength,
      '+' :: describeLines h.afterStart h.afterLength, "@@\n".toList] := by
    calc h.header = "@@ -".toList ++ describeLines h.beforeStart h.beforeLength ++ " +".toList ++
        describeLines h.afterStart h.afterLength ++ " @@\n".toList := rfl
      _ = _ := by simp [Text.join]
  have hsplit : Text.splitOn ' ' (Text.join [' '] _) = _ :=
    Text.splitOn_join (List.cons_ne_nil "@@".toList
      ['-' :: describeLines h.beforeStart h.beforeLength,
        '+' :: describeLines h.afterStart h.afterLength, "@@\n".toList]) (by simp [hblank])
  rw [← hwords] at hsplit
  simp only [readHeader?, hsplit, and_self, if_true, read?_describeLines]
  rfl

end Hunk

namespace Segment

/-- The lines of a segment, on the sides on which they stand. -/
def lines : Segment Text → List MarkedLine
  | keep kept => kept.map .kept
  | change old new => old.map .removed ++ new.map .added

theorem readFrom?_marked (s : Segment Text) (rest : List Text) :
    Change.readFrom? (s.marked ++ rest) =
      (Change.readFrom? rest).map fun (pending, changes) => (s.lines ++ pending, changes) := by
  have hlist (mark : Char) (side : Text → MarkedLine)
      (hread : ∀ l, MarkedLine.read? (mark :: l) = some (side l)) (ls rest : List Text) :
      Change.readFrom? (ls.map (mark :: ·) ++ rest) =
        (Change.readFrom? rest).map fun (pending, changes) =>
          (ls.map side ++ pending, changes) := by
    induction ls with
    | nil => cases hrest : Change.readFrom? rest <;> simp [hrest]
    | cons l ls ih =>
        rw [List.map_cons, List.cons_append, Change.readFrom?, ih]
        cases Change.readFrom? rest <;> simp [hread]
  cases s with
  | keep kept => exact hlist ' ' .kept (fun _ => rfl) kept rest
  | change old new =>
      rw [marked, List.append_assoc, hlist '-' .removed fun _ => rfl,
        hlist '+' .added fun _ => rfl]
      cases Change.readFrom? rest <;> simp [lines]

theorem filterMap_old?_lines (s : Segment Text) : s.lines.filterMap MarkedLine.old? = s.before := by
  cases s <;> simp [lines, before, List.filterMap_map, Function.comp_def, MarkedLine.old?]

theorem filterMap_new?_lines (s : Segment Text) : s.lines.filterMap MarkedLine.new? = s.after := by
  cases s <;> simp [lines, after, List.filterMap_map, Function.comp_def, MarkedLine.new?]

end Segment

namespace Hunk

/-- A hunk as it is read. -/
def toChange (h : Hunk Text) : Change where
  old := ⟨h.beforeStart, h.beforeStop⟩
  new := ⟨h.afterStart, h.afterStop⟩
  lines := h.script.flatMap Segment.lines

theorem oldLines_toChange (h : Hunk Text) : h.toChange.oldLines = Script.before h.script := by
  simp only [toChange, Change.oldLines, List.filterMap_flatMap, Segment.filterMap_old?_lines,
    Script.before]

theorem newLines_toChange (h : Hunk Text) : h.toChange.newLines = Script.after h.script := by
  simp only [toChange, Change.newLines, List.filterMap_flatMap, Segment.filterMap_new?_lines,
    Script.after]

theorem readFrom?_flatMap_marked (s : Script Text) (rest : List Text) :
    Change.readFrom? (s.flatMap Segment.marked ++ rest) =
      (Change.readFrom? rest).map fun (pending, changes) =>
        (s.flatMap Segment.lines ++ pending, changes) := by
  induction s with
  | nil => cases hrest : Change.readFrom? rest <;> simp [hrest]
  | cons x s ih =>
      rw [List.flatMap_cons, List.append_assoc, Segment.readFrom?_marked, ih]
      cases Change.readFrom? rest <;> simp

theorem readFrom?_flatMap_render (hs : List (Hunk Text)) :
    Change.readFrom? (hs.flatMap render) = some ([], hs.map toChange) := by
  induction hs with
  | nil => rfl
  | cons h hs ih =>
      have hmark : MarkedLine.read? h.header = none := rfl
      rw [List.flatMap_cons, render, List.cons_append, Change.readFrom?, readFrom?_flatMap_marked,
        ih]
      simp [hmark, readHeader?_header, toChange]

/-- **Hunks are read back from the lines that show them.** -/
theorem readAll?_flatMap_render (hs : List (Hunk Text)) :
    Change.readAll? (hs.flatMap render) = some (hs.map toChange) := by
  rw [Change.readAll?, readFrom?_flatMap_render]

/-! ## Hunks fit the lists that they cover -/

/-- Hunks and the gaps between them fit two lists behind any two starts. -/
theorem Tiling.fits {i j : Nat} {hs : List (Hunk Text)} {as bs : List Text}
    (h : Tiling i j hs as bs) (pre post : List Text) (hi : pre.length = i) (hj : post.length = j) :
    Change.Fits (pre ++ as) (post ++ bs) i j (hs.map toChange) := by
  -- what was covered before is put in front, so that the places count from the start
  induction h generalizing pre post with
  | rest i j gap => exact .rest (by rw [← hi, ← hj, List.drop_left, List.drop_left])
  | @hunk i j h hs as bs gap hbefore hafter _ ih =>
      have hpre : (pre ++ gap ++ Script.before h.script).length = h.beforeStop := by
        rw [List.length_append, List.length_append, hi, ← hbefore]
        rfl
      have hpost : (post ++ gap ++ Script.after h.script).length = h.afterStop := by
        rw [List.length_append, List.length_append, hj, ← hafter]
        rfl
      have hrest := ih _ _ hpre hpost
      have has : pre ++ (gap ++ Script.before h.script ++ as) =
          pre ++ gap ++ Script.before h.script ++ as := by simp only [List.append_assoc]
      have hbs : post ++ (gap ++ Script.after h.script ++ bs) =
          post ++ gap ++ Script.after h.script ++ bs := by simp only [List.append_assoc]
      refine .hunk (by simp [toChange, hbefore]) (by simp [toChange, hafter])
        ⟨Nat.le_add_right .., ?_⟩ ⟨Nat.le_add_right .., ?_⟩ ?_ ?_ ?_ ?_
      · rw [has, List.length_append, hpre]
        exact Nat.le_add_right ..
      · rw [hbs, List.length_append, hpost]
        exact Nat.le_add_right ..
      · simp only [toChange, hbefore, hafter, ← hi, ← hj, List.append_assoc,
          Stretch.of_append_append]
      · have hplace : (pre ++ gap).length = h.beforeStart := by
          rw [List.length_append, hi, hbefore]
        rw [oldLines_toChange, has, List.append_assoc]
        simp only [toChange, beforeStop, beforeLength, ← hplace, Stretch.of_append_append]
      · have hplace : (post ++ gap).length = h.afterStart := by
          rw [List.length_append, hj, hafter]
        rw [newLines_toChange, hbs, List.append_assoc]
        simp only [toChange, afterStop, afterLength, ← hplace, Stretch.of_append_append]
      · rw [has, hbs]
        exact hrest

end Hunk

/-! ## The diff of two texts -/

variable {before after : Text}

theorem fits_hunks (before after : Text) : Change.Fits before.breakLines after.breakLines 0 0
    ((hunks before after).map Hunk.toChange) := by
  have htiling := Hunk.tiling_ofScript contextLines
    (Script.make before.breakLines after.breakLines)
  rw [Script.before_make, Script.after_make] at htiling
  exact htiling.fits [] [] rfl rfl

/-- There are no hunks exactly if the texts are equal. -/
theorem hunks_eq_nil_iff : hunks before after = [] ↔ before = after := by
  constructor
  · intro h
    have hlines := Hunk.before_eq_after_of_ofScript_eq_nil h
    rw [Script.before_make, Script.after_make] at hlines
    rw [← Text.flatten_breakLines before, hlines, Text.flatten_breakLines]
  · rintro rfl
    rw [hunks, Script.make_self]
    split <;> rfl

theorem unifiedLines_of_ne (path : Text) (h : before ≠ after) :
    unifiedLines path before after =
      fileHeader path ++ (hunks before after).flatMap Hunk.render := by
  rw [unifiedLines]
  split
  · rename_i hnil
    exact absurd (hunks_eq_nil_iff.1 hnil) h
  · rfl

end SolidityLint.Diff

namespace SolidityLint.Outcome

open Diff

/-- **The difference that a repair makes is a correct patch.**  Its lines are none if the text stays
as it is.  Otherwise two lines name the texts, and what follows is read as hunks that fit the lines
of the two texts and, carried out on the lines of the first, give those of the second. -/
theorem diff_patches (o : Outcome) :
    let before := o.given.source
    let after := o.patch.output
    let lines := unifiedLines o.report.path before after
    o.diff = lines.flatten ∧
    (before = after ∧ lines = [] ∨ before ≠ after ∧ ∃ body changes,
      lines = fileHeader o.report.path ++ body ∧
      Change.readAll? body = some changes ∧ changes ≠ [] ∧
      Change.Fits before.breakLines after.breakLines 0 0 changes ∧
      Change.applyAll? before.breakLines 0 changes = some after.breakLines) := by
  intro before after lines
  refine ⟨rfl, ?_⟩
  by_cases heq : before = after
  · refine .inl ⟨heq, ?_⟩
    have hnil := hunks_eq_nil_iff.2 heq
    simp only [lines, unifiedLines, hnil]
  · have hfits := fits_hunks before after
    refine .inr ⟨heq, _, _, unifiedLines_of_ne _ heq, Hunk.readAll?_flatMap_render _, ?_, hfits,
      hfits.applyAll?⟩
    rw [ne_eq, List.map_eq_nil_iff]
    exact mt hunks_eq_nil_iff.1 heq

end SolidityLint.Outcome
