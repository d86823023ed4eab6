import Mathlib.Data.List.Permutation
import SolidityLint.Proofs.Order.Stable
import SolidityLint.Proofs.Repair.Account

/-!
# Which candidates the greedy choice rejects

The walk over the candidates compares each of them with a cursor, which stands at the end of the
last one accepted and which those rejected do not move.  So a candidate is rejected for any accepted
one before it that still covers its start, however many were rejected between the two.

* `mem_rejected_scan_iff`: the cursor stands for all candidates accepted so far.
* `Resolver.mem_rejected_greedy_iff`: the candidates that the greedy choice rejects.
-/

namespace SolidityLint

namespace Candidate

/-- Does `a` come strictly before `b` in the order of scanning? -/
def Precedes (a b : Candidate) : Prop :=
  a.start < b.start ∨ a.start = b.start ∧ a.order < b.order

variable {a b c : Candidate} {cs : List Candidate} {cursor : Int}

theorem Precedes.start_le (h : a.Precedes b) : a.start ≤ b.start := by
  rcases h with hlt | ⟨heq, -⟩ <;> omega

theorem Precedes.irrefl (a : Candidate) : ¬a.Precedes a := by
  rintro (hlt | ⟨-, hlt⟩) <;> omega

theorem Precedes.asymm (h : a.Precedes b) : ¬b.Precedes a := by
  rcases h with hlt | ⟨heq, hlt⟩ <;> rintro (hlt' | ⟨heq', hlt'⟩) <;> omega

/-! ## The order of scanning -/

theorem comesBefore_iff : a.comesBefore b = true ↔
    a.start < b.start ∨ a.start = b.start ∧ a.order ≤ b.order := by
  simp only [comesBefore, Bool.or_eq_true, Bool.and_eq_true, decide_eq_true_eq, beq_iff_eq]

theorem isRanking_comesBefore : Order.IsRanking comesBefore where
  trans a b c hab hbc := by
    rw [comesBefore_iff] at *
    omega
  total a b := by
    rw [Bool.or_eq_true, comesBefore_iff, comesBefore_iff]
    omega

/-- Candidates at different places stand strictly one before the other when they are sorted. -/
theorem pairwise_sort (h : (cs.map (·.order)).Nodup) : (sort cs).Pairwise Precedes := by
  have hsorted : (sort cs).Pairwise fun a b => a.comesBefore b = true :=
    List.pairwise_mergeSort isRanking_comesBefore.trans isRanking_comesBefore.total cs
  have hplaces : (sort cs).Pairwise fun a b => a.order ≠ b.order := by
    rw [← List.pairwise_map]
    exact ((List.mergeSort_perm cs comesBefore).map _).nodup_iff.2 h
  refine hsorted.imp₂ (fun a b hle hne => ?_) hplaces
  rw [comesBefore_iff] at hle
  exact hle.imp_right fun ⟨heq, hle⟩ => ⟨heq, by omega⟩

/-! ## The two sides of the walk -/

theorem sublist_accepted_scan (cursor : Int) (cs : List Candidate) :
    (scan cursor cs).accepted.Sublist cs := by
  induction cs generalizing cursor with
  | nil => exact .slnil
  | cons c cs ih =>
      rw [scan]
      split
      · exact (ih c.stop).cons_cons c
      · exact (ih cursor).cons c

theorem sublist_rejected_scan (cursor : Int) (cs : List Candidate) :
    (scan cursor cs).rejected.Sublist cs := by
  induction cs generalizing cursor with
  | nil => exact .slnil
  | cons c cs ih =>
      rw [scan]
      split
      · exact (ih c.stop).cons c
      · exact (ih cursor).cons_cons c

/-- What the walk rejects starts before the cursor or is still covered by a candidate that the walk
accepted before it, and nothing else does. -/
theorem mem_rejected_scan_iff (hsorted : cs.Pairwise Precedes) :
    c ∈ (scan cursor cs).rejected ↔ c ∈ cs ∧
      (c.start < cursor ∨
        ∃ a ∈ (scan cursor cs).accepted, a.Precedes c ∧ c.start < a.stop) := by
  -- the cursor is any offset, for it moves along with the walk
  induction cs generalizing cursor with
  | nil => simp [scan]
  | cons d cs ih =>
      obtain ⟨hfirst, hrest⟩ := List.pairwise_cons.1 hsorted
      rw [scan]
      split
      · rename_i haccepted
        simp only [ih hrest, List.mem_cons, exists_eq_or_imp]
        constructor
        · rintro ⟨hc, hlt | hcovered⟩
          · exact ⟨.inr hc, .inr (.inl ⟨hfirst c hc, hlt⟩)⟩
          · exact ⟨.inr hc, .inr (.inr hcovered)⟩
        · rintro ⟨rfl | hc, hlt | ⟨hbefore, hlt⟩ | hcovered⟩
          · omega
          · exact absurd hbefore (Precedes.irrefl c)
          · -- nothing that is accepted after a candidate comes before it
            obtain ⟨a, ha, hbefore, -⟩ := hcovered
            exact absurd hbefore (hfirst a ((sublist_accepted_scan _ _).subset ha)).asymm
          · have := (hfirst c hc).start_le
            omega
          · exact ⟨hc, .inl hlt⟩
          · exact ⟨hc, .inr hcovered⟩
      · rename_i hrejected
        simp only [List.mem_cons, ih hrest]
        constructor
        · rintro (rfl | ⟨hc, hcause⟩)
          · exact ⟨.inl rfl, .inl (by omega)⟩
          · exact ⟨.inr hc, hcause⟩
        · rintro ⟨rfl | hc, hcause⟩
          · exact .inl rfl
          · exact .inr ⟨hc, hcause⟩

/-- What the walk accepts starts at the cursor or after it. -/
theorem le_start_of_mem_accepted_scan (hcs : ∀ c ∈ cs, c.start ≤ c.stop)
    (ha : a ∈ (scan cursor cs).accepted) : cursor ≤ a.start := by
  induction cs generalizing cursor with
  | nil => simp [scan] at ha
  | cons c cs ih =>
      obtain ⟨hc, hrest⟩ := List.forall_mem_cons.1 hcs
      rw [scan] at ha
      split at ha
      · rename_i haccepted
        rcases List.mem_cons.1 ha with rfl | ha
        · exact haccepted
        · have := ih hrest ha
          omega
      · exact ih hrest ha

/-- What the walk accepts lies apart. -/
theorem pairwise_accepted_scan (hcs : ∀ c ∈ cs, c.start ≤ c.stop) :
    (scan cursor cs).accepted.Pairwise fun a b => a.stop ≤ b.start := by
  induction cs generalizing cursor with
  | nil => exact .nil
  | cons c cs ih =>
      obtain ⟨-, hrest⟩ := List.forall_mem_cons.1 hcs
      rw [scan]
      split
      · exact .cons (fun a ha => le_start_of_mem_accepted_scan hrest ha) (ih hrest)
      · exact ih hrest

end Candidate

namespace Resolver

open Candidate

variable {cs : List Candidate}

/-- **The exact meaning of a conflict.**  The greedy choice puts every candidate on one of its two
sides, each in the order of scanning.  A candidate is rejected exactly if one that comes before it
is accepted and covers its start, and those accepted never overlap. -/
theorem mem_rejected_greedy_iff (hranges : ∀ c ∈ cs, 0 ≤ c.start ∧ c.start ≤ c.stop)
    (hplaces : (cs.map (·.order)).Nodup) :
    let choice := greedy cs
    (choice.accepted ++ choice.rejected).Perm cs ∧
    (∀ c, c ∈ choice.rejected ↔
      c ∈ cs ∧ ∃ a ∈ choice.accepted, a.Precedes c ∧ a.start ≤ c.start ∧ c.start < a.stop) ∧
    choice.accepted.Pairwise Precedes ∧ choice.rejected.Pairwise Precedes ∧
    choice.accepted.Pairwise fun a b => a.stop ≤ b.start := by
  have hsorted := pairwise_sort hplaces
  refine ⟨(scan_perm 0 _).trans (List.mergeSort_perm _ _), fun c => ?_,
    hsorted.sublist (sublist_accepted_scan 0 _), hsorted.sublist (sublist_rejected_scan 0 _),
    pairwise_accepted_scan fun c hc => (hranges c (mem_sort.1 hc)).2⟩
  rw [greedy, mem_rejected_scan_iff hsorted, mem_sort]
  refine and_congr_right fun hc => ?_
  have hstart := (hranges c hc).1
  constructor
  · rintro (hlt | ⟨a, ha, hbefore, hlt⟩)
    · omega
    · exact ⟨a, ha, hbefore, hbefore.start_le, hlt⟩
  · rintro ⟨a, ha, hbefore, -, hlt⟩
    exact .inr ⟨a, ha, hbefore, hlt⟩

/-- A candidate that replaces a range, at a place of its report. -/
def replacing (order start stop : Int) : Candidate where
  diagnostic := ⟨[], .warning, [], ⟨start, stop⟩, none⟩
  edit := ⟨⟨start, stop⟩, []⟩
  order := order

/-- The second candidate starts within the first.  The third and the fourth start within the second,
which is no obstacle, and the last two start at one offset. -/
def crowded : List Candidate :=
  [replacing 5 8 9, replacing 0 0 5, replacing 1 2 9, replacing 2 6 6, replacing 3 6 7,
    replacing 4 8 10]

theorem mem_rejected_greedy_of_crowded :
    (∀ c ∈ crowded, 0 ≤ c.start ∧ c.start ≤ c.stop) ∧ (crowded.map (·.order)).Nodup ∧
      (greedy crowded).rejected.map (·.order) = [1, 5] ∧
      ∀ c ∈ (greedy crowded).rejected, ∃ a ∈ (greedy crowded).accepted,
        a.Precedes c ∧ a.start ≤ c.start ∧ c.start < a.stop := by
  have hranges : ∀ c ∈ crowded, 0 ≤ c.start ∧ c.start ≤ c.stop := by decide
  have hplaces : (crowded.map (·.order)).Nodup := by decide
  obtain ⟨-, hrejected, -⟩ := mem_rejected_greedy_iff hranges hplaces
  exact ⟨hranges, hplaces, by cbv, fun c hc => ((hrejected c).1 hc).2⟩

end Resolver

end SolidityLint
