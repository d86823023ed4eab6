import Mathlib.Data.List.Basic
import SolidityLint.Rule.BlankRun

/-!
# Maximal runs of blank lines

A run of blank lines is known by the place of its first line and the number of its lines.  It is
maximal if no blank line stands before it or behind it (`Line.IsRun`).

* `blankRuns_eq_map`: the runs that are gathered line by line start where a blank line follows no
  blank line (`Line.runStarts`).
* `mem_longRuns_iff`, `pairwise_longRuns`: those with more lines than a limit allows, in order and
  apart from each other.
* `inSurplus_eq`: a line lies beyond the limit of its run exactly if it is blank and as many lines
  directly before it are as the limit allows.
-/

namespace SolidityLint.Line

/-- Is there a blank line at a place? -/
def blankAt (ls : List Line) (k : Nat) : Bool :=
  ls[k]?.any isBlank

/-- The `n` lines from place `i` on form a maximal run of blank lines. -/
structure IsRun (ls : List Line) (i n : Nat) : Prop where
  pos : 0 < n
  blank : ∀ j < n, blankAt ls (i + j) = true
  before : ∀ j, j + 1 = i → blankAt ls j = false
  after : blankAt ls (i + n) = false

/-- The places of the first lines of runs, where `inside` tells whether a blank line stands before
all lines. -/
def runStarts (inside : Bool) : List Line → List Nat
  | [] => []
  | l :: ls =>
      (if l.isBlank && !inside then [0] else []) ++ (runStarts l.isBlank ls).map (· + 1)

/-- The blank lines from a place on. -/
def runAt (ls : List Line) (i : Nat) : List Line :=
  (ls.drop i).takeWhile isBlank

/-- The runs of more lines than a limit allows, each with its place and the number of its lines. -/
def longRuns (limit : Nat) (ls : List Line) : List (Nat × Nat) :=
  ((runStarts false ls).map fun i => (i, (runAt ls i).length)).filter fun r => decide (limit < r.2)

/-- Does the line at a place lie beyond the limit of its run? -/
def inSurplus (limit : Nat) (ls : List Line) (k : Nat) : Bool :=
  (longRuns limit ls).any fun r => decide (r.1 + limit ≤ k) && decide (k < r.1 + r.2)

variable {ls : List Line} {limit i j k n : Nat}

/-! ## The runs of a list of lines -/

/-- The first run of blank lines and the others. -/
theorem blankRuns_eq (ls : List Line) :
    blankRuns ls = (if ls.takeWhile isBlank = [] then [] else [ls.takeWhile isBlank]) ++
      blankRuns (ls.dropWhile isBlank) := by
  induction ls with
  | nil => rfl
  | cons l ls ih =>
      cases hblank : l.isBlank with
      | false => simp [hblank]
      | true =>
          rw [List.takeWhile_cons_of_pos hblank, List.dropWhile_cons_of_pos hblank,
            blankRuns.eq_def]
          simp only [hblank, if_true]
          cases ls with
          | nil => rfl
          | cons next ls =>
              cases hnext : next.isBlank with
              | false =>
                  have hself : (next :: ls).dropWhile isBlank = next :: ls := by simp [hnext]
                  have hnone : (next :: ls).takeWhile isBlank = [] := by simp [hnext]
                  rw [hself, hnone]
                  cases blankRuns (next :: ls) with
                  | nil => rfl
                  | cons run runs => simp [hnext]
              | true =>
                  have hsome : (next :: ls).takeWhile isBlank ≠ [] := by simp [hnext]
                  rw [ih, if_neg hsome]
                  simp [hnext]

/-- The runs consist of the blank lines, in order. -/
theorem flatten_blankRuns (ls : List Line) : (blankRuns ls).flatten = ls.filter isBlank := by
  induction ls with
  | nil => rfl
  | cons l ls ih =>
      rw [blankRuns.eq_def]
      dsimp only
      split
      · rename_i hblank
        rw [List.filter_cons_of_pos hblank, ← ih]
        -- the line is put in front of the next run or forms a run of its own
        split
        · rename_i hruns
          rw [hruns]
          split <;> rfl
        · rfl
      · rename_i hblank
        rw [ih, List.filter_cons_of_neg hblank]

/-- The runs start where a blank line follows no blank line; a run that has started before the first
line does not count. -/
theorem blankRuns_eq_map (inside : Bool) (ls : List Line) :
    blankRuns (if inside then ls.dropWhile isBlank else ls) =
      (runStarts inside ls).map (runAt ls) := by
  induction ls generalizing inside with
  | nil => cases inside <;> rfl
  | cons l ls ih =>
      have hrest : ((runStarts l.isBlank ls).map (· + 1)).map (runAt (l :: ls)) =
          (runStarts l.isBlank ls).map (runAt ls) := List.map_map
      rw [runStarts, List.map_append, hrest, ← ih]
      cases hblank : l.isBlank with
      | false =>
          have hskip : blankRuns (l :: ls) = blankRuns ls := by
            rw [blankRuns.eq_def]
            exact if_neg (by simp [hblank])
          cases inside <;> simp [hskip, hblank]
      | true =>
          cases inside with
          | false =>
              have hrun : runAt (l :: ls) 0 = l :: ls.takeWhile isBlank :=
                List.takeWhile_cons_of_pos hblank
              have hfirst : blankRuns (l :: ls) =
                  runAt (l :: ls) 0 :: blankRuns (ls.dropWhile isBlank) := by
                rw [blankRuns_eq, List.takeWhile_cons_of_pos hblank, hrun,
                  List.dropWhile_cons_of_pos hblank]
                rfl
              simp [hfirst]
          | true => simp [hblank]

@[simp] theorem blankAt_zero (l : Line) (ls : List Line) : blankAt (l :: ls) 0 = l.isBlank :=
  rfl

@[simp] theorem blankAt_succ (l : Line) (ls : List Line) (k : Nat) :
    blankAt (l :: ls) (k + 1) = blankAt ls k :=
  rfl

/-- A run starts at a place with a blank line behind no blank line. -/
theorem mem_runStarts_iff {inside : Bool} : i ∈ runStarts inside ls ↔ blankAt ls i = true ∧
    (∀ j, j + 1 = i → blankAt ls j = false) ∧ (i = 0 → inside = false) := by
  induction ls generalizing inside i with
  | nil => simp [runStarts, blankAt]
  | cons l ls ih =>
      rw [runStarts, List.mem_append]
      cases i with
      | zero => simp
      | succ i =>
          have hlater : i + 1 ∉ (if l.isBlank && !inside then [0] else []) := by
            split <;> simp
          have hrest : i + 1 ∈ (runStarts l.isBlank ls).map (· + 1) ↔
              i ∈ runStarts l.isBlank ls := by
            simp
          rw [or_iff_right hlater, hrest, ih, blankAt_succ]
          -- the line before the place is the first line or one of the others
          cases i <;> simp

/-! ## How far runs go -/

theorem length_takeWhile_eq_iff : (ls.takeWhile isBlank).length = n ↔
    (∀ j < n, blankAt ls j = true) ∧ blankAt ls n = false := by
  induction ls generalizing n with
  | nil =>
      cases n with
      | zero => simp [blankAt]
      | succ n =>
          refine iff_of_false (by simp) fun h => ?_
          simpa [blankAt] using h.1 0 (Nat.succ_pos n)
  | cons l ls ih =>
      cases hblank : l.isBlank with
      | false =>
          rw [List.takeWhile_cons_of_neg (by simp [hblank])]
          cases n with
          | zero => simp [hblank]
          | succ n =>
              refine iff_of_false (by simp) fun h => ?_
              have hfirst := h.1 0 (Nat.succ_pos n)
              rw [blankAt_zero, hblank] at hfirst
              exact Bool.noConfusion hfirst
      | true =>
          rw [List.takeWhile_cons_of_pos hblank, List.length_cons]
          cases n with
          | zero => simp [hblank]
          | succ n =>
              rw [Nat.succ_inj, ih, blankAt_succ, Nat.forall_lt_succ_left]
              simp [hblank]

theorem length_runAt_eq_iff : (runAt ls i).length = n ↔
    (∀ j < n, blankAt ls (i + j) = true) ∧ blankAt ls (i + n) = false := by
  have hdrop : ∀ j, blankAt (ls.drop i) j = blankAt ls (i + j) := fun j => by
    rw [blankAt, List.getElem?_drop, blankAt]
  rw [runAt, length_takeWhile_eq_iff]
  simp only [hdrop]

/-- The lines of a run are those from its place on. -/
theorem getElem?_runAt (h : j < (runAt ls i).length) : (runAt ls i)[j]? = ls[i + j]? := by
  have hprefix : runAt ls i <+: ls.drop i := List.takeWhile_prefix isBlank
  rw [List.prefix_iff_eq_take.1 hprefix, List.getElem?_take_of_lt h, List.getElem?_drop]

theorem isRun_iff : IsRun ls i n ↔ i ∈ runStarts false ls ∧ (runAt ls i).length = n := by
  rw [mem_runStarts_iff, length_runAt_eq_iff]
  constructor
  · intro h
    exact ⟨⟨h.blank 0 h.pos, h.before, fun _ => rfl⟩, h.blank, h.after⟩
  · rintro ⟨⟨hfirst, hbefore, -⟩, hblank, hafter⟩
    refine ⟨Nat.pos_of_ne_zero ?_, hblank, hbefore, hafter⟩
    rintro rfl
    rw [Nat.add_zero, hfirst] at hafter
    exact Bool.noConfusion hafter

/-- A run that starts behind the start of another one starts behind its end, and there is a line
between them. -/
theorem IsRun.lt {i' n' : Nat} (h : IsRun ls i n) (h' : IsRun ls i' n') (hlt : i < i') :
    i + n < i' := by
  by_contra hle
  have hblank := h.blank (i' - 1 - i) (by omega)
  rw [Nat.add_sub_of_le (by omega), h'.before (i' - 1) (by omega)] at hblank
  exact Bool.noConfusion hblank

theorem mem_longRuns_iff : (i, n) ∈ longRuns limit ls ↔ IsRun ls i n ∧ limit < n := by
  rw [isRun_iff, longRuns, List.mem_filter, List.mem_map, decide_eq_true_eq]
  refine and_congr_left fun _ => ?_
  simp

theorem pairwise_runStarts (inside : Bool) (ls : List Line) :
    (runStarts inside ls).Pairwise (· < ·) := by
  induction ls generalizing inside with
  | nil => exact .nil
  | cons l ls ih =>
      have hrest : ((runStarts l.isBlank ls).map (· + 1)).Pairwise (· < ·) :=
        List.pairwise_map.2 ((ih _).imp Nat.succ_lt_succ)
      rw [runStarts]
      split
      · refine .cons (fun j hj => ?_) hrest
        obtain ⟨i, -, rfl⟩ := List.mem_map.1 hj
        exact Nat.succ_pos i
      · exact hrest

/-- Long runs are listed in order, and there is a line between any two of them. -/
theorem pairwise_longRuns (limit : Nat) (ls : List Line) :
    (longRuns limit ls).Pairwise fun a b => a.1 + a.2 < b.1 := by
  refine List.Pairwise.filter _ (List.pairwise_map.2 ((pairwise_runStarts false ls).imp_of_mem ?_))
  intro i i' hi hi' hlt
  exact (isRun_iff.2 ⟨hi, rfl⟩).lt (isRun_iff.2 ⟨hi', rfl⟩) hlt

/-! ## The lines beyond the limit -/

/-- How many blank lines stand directly before a place. -/
def blanksBefore (ls : List Line) : Nat → Nat
  | 0 => 0
  | k + 1 => if blankAt ls k then blanksBefore ls k + 1 else 0

theorem le_blanksBefore_iff : n ≤ blanksBefore ls k ↔
    n ≤ k ∧ ∀ j, k ≤ j + n → j < k → blankAt ls j = true := by
  induction k generalizing n with
  | zero => simp [blanksBefore]
  | succ k ih =>
      rw [blanksBefore]
      cases n with
      | zero =>
          refine iff_of_true (Nat.zero_le _) ⟨Nat.zero_le _, fun j hle hlt => ?_⟩
          omega
      | succ n =>
          split
          · rename_i hblank
            rw [Nat.succ_le_succ_iff, ih, Nat.succ_le_succ_iff]
            refine and_congr_right fun _ => ⟨fun h j hle hlt => ?_, fun h j hle hlt => ?_⟩
            · rcases Nat.lt_succ_iff_lt_or_eq.1 hlt with hlt | rfl
              · exact h j (by omega) hlt
              · exact hblank
            · exact h j (by omega) (by omega)
          · rename_i hblank
            exact iff_of_false (by omega) fun h => hblank (h.2 k (by omega) (Nat.lt_succ_self k))

/-- The blank lines before a place are all that there are. -/
theorem blankAt_of_blanksBefore (h : j + 1 = k - blanksBefore ls k) : blankAt ls j = false := by
  by_contra hmore
  rw [Bool.not_eq_false] at hmore
  obtain ⟨hle, hblank⟩ := le_blanksBefore_iff.1 (Nat.le_refl (blanksBefore ls k))
  have hnext : blanksBefore ls k + 1 ≤ blanksBefore ls k := by
    refine le_blanksBefore_iff.2 ⟨by omega, fun j' hle' hlt' => ?_⟩
    rcases Nat.lt_or_eq_of_le (show j ≤ j' by omega) with hlt | rfl
    · exact hblank j' (by omega) hlt'
    · exact hmore
  omega

/-- Every blank line belongs to a run. -/
theorem exists_isRun (h : blankAt ls k = true) : ∃ i n, IsRun ls i n ∧ i ≤ k ∧ k < i + n := by
  obtain ⟨-, hbefore⟩ := le_blanksBefore_iff.1 (Nat.le_refl (blanksBefore ls k))
  have hblank : ∀ j, k - blanksBefore ls k ≤ j → j ≤ k → blankAt ls j = true := fun j hj hjk => by
    rcases Nat.lt_or_eq_of_le hjk with hlt | rfl
    · exact hbefore j (by omega) hlt
    · exact h
  have hstart : k - blanksBefore ls k ∈ runStarts false ls :=
    mem_runStarts_iff.2 ⟨hblank _ (Nat.le_refl _) (by omega), fun j => blankAt_of_blanksBefore,
      fun _ => rfl⟩
  have hrun := isRun_iff.2 ⟨hstart, rfl⟩
  refine ⟨_, _, hrun, by omega, ?_⟩
  by_contra hshort
  have hafter := hrun.after
  rw [hblank _ (by omega) (by omega)] at hafter
  exact Bool.noConfusion hafter

/-- A line lies beyond the limit of its run if it is blank and as many lines before it are as the
limit allows. -/
theorem inSurplus_eq (limit : Nat) (ls : List Line) (k : Nat) :
    inSurplus limit ls k = (blankAt ls k && decide (limit ≤ blanksBefore ls k)) := by
  rw [Bool.eq_iff_iff, inSurplus, List.any_eq_true, Bool.and_eq_true, decide_eq_true_eq,
    le_blanksBefore_iff]
  constructor
  · rintro ⟨⟨i, n⟩, hrun, hplace⟩
    rw [Bool.and_eq_true, decide_eq_true_eq, decide_eq_true_eq] at hplace
    obtain ⟨hrun, -⟩ := mem_longRuns_iff.1 hrun
    have hblank : ∀ j, i ≤ j → j ≤ k → blankAt ls j = true := fun j hj hjk => by
      have := hrun.blank (j - i) (by omega)
      rwa [Nat.add_sub_of_le hj] at this
    exact ⟨hblank k (by omega) (Nat.le_refl k), by omega, fun j hle hlt =>
      hblank j (by omega) (by omega)⟩
  · rintro ⟨hblank, hle, hbefore⟩
    obtain ⟨i, n, hrun, hi, hn⟩ := exists_isRun hblank
    have hstart : i + limit ≤ k := by
      -- the run would have started earlier
      by_contra hlate
      have hfirst := hrun.before (i - 1) (by omega)
      rw [hbefore (i - 1) (by omega) (by omega)] at hfirst
      exact Bool.noConfusion hfirst
    refine ⟨(i, n), mem_longRuns_iff.2 ⟨hrun, by omega⟩, ?_⟩
    rw [Bool.and_eq_true, decide_eq_true_eq, decide_eq_true_eq]
    exact ⟨hstart, hn⟩

end SolidityLint.Line

/-! ## The finding in a run -/

namespace SolidityLint.Rule

variable {limit : Nat} {run : List Line} {x : Finding}

theorem blankRunIn_eq_none_iff : blankRunIn limit run = none ↔ run.length ≤ limit := by
  rw [blankRunIn, ← List.drop_eq_nil_iff]
  cases run.drop limit <;> simp

/-- What is found is to be removed: the lines beyond the limit. -/
theorem exists_drop_of_blankRunIn (h : blankRunIn limit run = some x) :
    ∃ first rest, run.drop limit = first :: rest ∧ x = .removing
      ("More than ".toList ++ Text.ofNat limit ++ " blank line(s) not allowed (".toList ++
        Text.ofNat run.length ++ " found)".toList) (linesRange first rest) := by
  rw [blankRunIn] at h
  split at h
  · simp at h
  · exact ⟨_, _, ‹_›, (Option.some_inj.1 h).symm⟩

end SolidityLint.Rule
