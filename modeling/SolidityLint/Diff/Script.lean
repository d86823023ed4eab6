/-!
# Edit scripts

An edit script turns one list into another: it is a list of segments, each of which either
keeps elements or replaces some elements by others.  The script of two lists is found by looking
for a longest common run, keeping it, and treating what lies before and after it in the same
way.  Of several longest runs the one that starts first in the first list, then in the second,
is taken.

In a long second list, elements that occur very often are *popular*: they start no common run,
but a run may extend over them.

* `Script.before_make`, `Script.after_make`: the script of two lists turns the first into the
  second.
-/

namespace SolidityLint.Diff

variable {α : Type} [DecidableEq α]

/-! ## Common runs -/

/-- The longest list that both lists start with. -/
def commonStart : List α → List α → List α
  | a :: as, b :: bs => if a = b then a :: commonStart as bs else []
  | _, _ => []

/-- The length of the longest list that both lists end with. -/
def commonEndLength (as bs : List α) : Nat :=
  (commonStart as.reverse bs.reverse).length

/-- The lengths of the common runs that end at each element of a second list and at the next
element `a` of the first, given those that end at the element before; a popular element ends no
run. -/
def nextRow (popular : List α) (a : α) : List α → List Nat → List Nat
  | b :: bs, k :: ks =>
      (if a = b ∧ b ∉ popular then k + 1 else 0) :: nextRow popular a bs ks
  | _, _ => []

/-- Where a longest common run ends, and its length. -/
structure Peak where
  /-- The number of elements of the first list up to the end of the run. -/
  inFirst : Nat
  /-- The number of elements of the second list up to the end of the run. -/
  inSecond : Nat
  /-- The length of the run. -/
  length : Nat
  deriving DecidableEq, Repr

/-- The better of a peak and the runs of one row, the earlier one on equal lengths. -/
def bestInRow (i : Nat) (best : Peak) (j : Nat) : List Nat → Peak
  | [] => best
  | k :: ks => bestInRow i (if best.length < k then ⟨i, j, k⟩ else best) (j + 1) ks

/-- The best peak over the rows of a first list, given the row before and the best so far. -/
def bestPeak (popular second : List α) (i : Nat) (row : List Nat) (best : Peak) :
    List α → Peak
  | [] => best
  | a :: as =>
      let row' := nextRow popular a second (0 :: row)
      bestPeak popular second (i + 1) row' (bestInRow (i + 1) best 1 row') as

/-- Where the longest common run of two lists starts, popular elements at its front left out. -/
def runStart (popular first second : List α) : Nat × Nat :=
  let peak := bestPeak popular second 0 (second.map fun _ => 0) ⟨0, 0, 0⟩ first
  (peak.inFirst - peak.length, peak.inSecond - peak.length)

/-- Two lists cut at the start of their longest common run, popular elements included. -/
def runCut (popular first second : List α) : Nat × Nat :=
  let (i, j) := runStart popular first second
  let k := commonEndLength (first.take i) (second.take j)
  (i - k, j - k)

/-! ## Scripts -/

/-- A piece of an edit script. -/
inductive Segment (α : Type) where
  /-- Keeps some elements. -/
  | keep (kept : List α)
  /-- Replaces some elements by others. -/
  | change (old new : List α)
  deriving DecidableEq, Repr

namespace Segment

/-- The elements of the first list that a segment covers. -/
def before : Segment α → List α
  | keep kept => kept
  | change old _ => old

/-- The elements of the second list that a segment covers. -/
def after : Segment α → List α
  | keep kept => kept
  | change _ new => new

end Segment

/-- A list of segments. -/
abbrev Script (α : Type) := List (Segment α)

namespace Script

/-- The list that a script starts from. -/
def before (s : Script α) : List α :=
  s.flatMap Segment.before

/-- The list that a script arrives at. -/
def after (s : Script α) : List α :=
  s.flatMap Segment.after

/-- The script that replaces all of a list, if there is anything to replace. -/
def replaceAll (first second : List α) : Script α :=
  if first.isEmpty && second.isEmpty then [] else [.change first second]

/-- The script of two lists, found with at most `fuel` nested cuts. -/
def search (popular : List α) : Nat → List α → List α → Script α
  | 0, first, second => replaceAll first second
  | fuel + 1, first, second =>
      let cut := runCut popular first second
      let common := commonStart (first.drop cut.1) (second.drop cut.2)
      if common = [] then replaceAll first second
      else
        search popular fuel (first.take cut.1) (second.take cut.2) ++ .keep common ::
          search popular fuel (first.drop (cut.1 + common.length))
            (second.drop (cut.2 + common.length))

/-- Joins neighbouring segments that keep elements. -/
def fuse : Script α → Script α
  | [] => []
  | .keep a :: rest =>
      match fuse rest with
      | .keep b :: rest' => .keep (a ++ b) :: rest'
      | rest' => .keep a :: rest'
  | s :: rest => s :: fuse rest

/-- The elements that occur more than once in a hundred places, and one more, of a list of at
least two hundred elements. -/
def popularElements (second : List α) : List α :=
  if 200 ≤ second.length then
    second.eraseDups.filter fun x => second.length / 100 + 1 < second.count x
  else []

/-- The edit script of two lists. -/
def make (first second : List α) : Script α :=
  fuse (search (popularElements second) first.length first second)

/-! ## A script turns the first list into the second -/

theorem exists_commonStart_append (as bs : List α) :
    ∃ as' bs', as = commonStart as bs ++ as' ∧ bs = commonStart as bs ++ bs' := by
  fun_induction commonStart as bs with
  | case1 as b bs ih =>
      obtain ⟨as', bs', ha, hb⟩ := ih
      exact ⟨as', bs', congrArg (b :: ·) ha, congrArg (b :: ·) hb⟩
  | case2 a as b bs h => exact ⟨_, _, rfl, rfl⟩
  | case3 as bs h => exact ⟨as, bs, rfl, rfl⟩

/-- A list cut in front of a common run: what lies before, the run, and what lies after. -/
theorem take_append_commonStart (i : Nat) (as bs : List α) :
    as.take i ++ (commonStart (as.drop i) bs ++
      as.drop (i + (commonStart (as.drop i) bs).length)) = as := by
  obtain ⟨as', _, ha, _⟩ := exists_commonStart_append (as.drop i) bs
  have h : as.drop (i + (commonStart (as.drop i) bs).length) = as' := by
    have hd := congrArg (List.drop (commonStart (as.drop i) bs).length) ha
    rwa [List.drop_left, List.drop_drop] at hd
  rw [h, ← ha, List.take_append_drop]

theorem commonStart_comm (as bs : List α) : commonStart as bs = commonStart bs as := by
  fun_induction commonStart as bs with
  | case1 as b bs ih => simp [commonStart, ih]
  | case2 a as b bs h => simp [commonStart, Ne.symm h]
  | case3 as bs h =>
      match as, bs with
      | [], [] | [], _ :: _ | _ :: _, [] => rfl
      | a :: as, b :: bs => exact absurd rfl (h a as b bs rfl)

omit [DecidableEq α] in
theorem before_replaceAll (first second : List α) :
    before (replaceAll first second) = first := by
  unfold replaceAll
  split
  · next h => simp_all [before]
  · simp [before, Segment.before]

omit [DecidableEq α] in
theorem after_replaceAll (first second : List α) :
    after (replaceAll first second) = second := by
  unfold replaceAll
  split
  · next h => simp_all [after]
  · simp [after, Segment.after]

theorem before_search (popular : List α) (fuel : Nat) (first second : List α) :
    before (search popular fuel first second) = first := by
  induction fuel generalizing first second with
  | zero => exact before_replaceAll first second
  | succ fuel ih =>
      simp only [search]
      split
      · exact before_replaceAll first second
      · simp only [before, List.flatMap_append, List.flatMap_cons, Segment.before] at ih ⊢
        rw [ih, ih]
        exact take_append_commonStart _ first _

theorem after_search (popular : List α) (fuel : Nat) (first second : List α) :
    after (search popular fuel first second) = second := by
  induction fuel generalizing first second with
  | zero => exact after_replaceAll first second
  | succ fuel ih =>
      simp only [search]
      split
      · exact after_replaceAll first second
      · simp only [after, List.flatMap_append, List.flatMap_cons, Segment.after] at ih ⊢
        rw [ih, ih, commonStart_comm]
        exact take_append_commonStart _ second _

omit [DecidableEq α] in
theorem before_fuse (s : Script α) : before (fuse s) = before s := by
  fun_induction fuse s with
  | case1 => rfl
  | case2 a rest b rest' h ih => rw [h] at ih; simp_all [before, Segment.before]
  | case3 a rest _ ih => simp_all [before, Segment.before]
  | case4 s rest _ ih => simp_all [before]

omit [DecidableEq α] in
theorem after_fuse (s : Script α) : after (fuse s) = after s := by
  fun_induction fuse s with
  | case1 => rfl
  | case2 a rest b rest' h ih => rw [h] at ih; simp_all [after, Segment.after]
  | case3 a rest _ ih => simp_all [after, Segment.after]
  | case4 s rest _ ih => simp_all [after]

/-- The script of two lists starts from the first. -/
theorem before_make (first second : List α) : before (make first second) = first := by
  rw [make, before_fuse, before_search]

/-- The script of two lists arrives at the second. -/
theorem after_make (first second : List α) : after (make first second) = second := by
  rw [make, after_fuse, after_search]

end Script

end SolidityLint.Diff
