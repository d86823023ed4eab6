import SolidityLint.Edit.Apply
import SolidityLint.Proofs.Steps
import Mathlib.Algebra.Ring.Int.Defs
import Mathlib.Data.List.Basic

/-!
# Sweeping ordered edits over a text

A sweep fails only where an edit starts before the end of the one before it.  This file is
about edits that lie one behind the other (`InOrder`), for which the sweep has an answer that
can be written down without failure (`patched`).

* `sweep_eq_ok`: the sweep over edits in order is `patched`.
* `pairwise_of_sweep_eq_ok`, `exists_sweep_eq_error`: the sweep over any other edits fails.
* `length_patched`: the length of the answer is that of the text plus the sum of the deltas.
* `getElem?_patched`: a character that no edit covers is found again, moved by the deltas of the
  edits that end at or before it (`shift`).
* `add_shift_lt`: the characters that no edit covers keep their order.
-/

namespace SolidityLint

namespace Edit

/-! ## Edits in order -/

/-- The edits lie one behind the other, from `cursor` on and up to `limit`. -/
def InOrder (limit : Int) : Int → List Edit → Prop
  | cursor, [] => cursor ≤ limit
  | cursor, e :: es =>
      cursor ≤ e.range.start ∧ e.range.start ≤ e.range.stop ∧ InOrder limit e.range.stop es

/-- Does the edit replace the character at offset `p`? -/
def Covers (e : Edit) (p : Int) : Prop :=
  e.range.start ≤ p ∧ p < e.range.stop

/-- By how much the edits that end at or before offset `p` move the character there. -/
def shift (es : List Edit) (p : Int) : Int :=
  ((es.filter fun e => decide (e.range.stop ≤ p)).map delta).sum

/-- What lies after `cursor` once the edits are applied. -/
def patched (source : Text) (cursor : Int) : List Edit → Text
  | [] => source.sliceFrom cursor
  | e :: es => source.slice cursor e.range.start ++ e.text ++ patched source e.range.stop es

variable {source : Text} {limit cursor : Int} {es : List Edit}

theorem InOrder.cursor_le (h : InOrder limit cursor es) : cursor ≤ limit := by
  induction es generalizing cursor with
  | nil => exact h
  | cons e es ih =>
      obtain ⟨hstart, hstop, hrest⟩ := h
      have := ih hrest
      omega

theorem InOrder.of_mem (h : InOrder limit cursor es) {e : Edit} (he : e ∈ es) :
    cursor ≤ e.range.start ∧ e.range.start ≤ e.range.stop ∧ e.range.stop ≤ limit := by
  induction es generalizing cursor with
  | nil => simp at he
  | cons d ds ih =>
      obtain ⟨hstart, hstop, hrest⟩ := h
      rcases List.mem_cons.1 he with rfl | he
      · exact ⟨hstart, hstop, hrest.cursor_le⟩
      · obtain ⟨h1, h2, h3⟩ := ih hrest he
        exact ⟨by omega, h2, h3⟩

/-- Edits in order do not overlap, and each one starts after those before it. -/
theorem InOrder.pairwise (h : InOrder limit cursor es) :
    es.Pairwise fun a b => a.range.stop ≤ b.range.start := by
  induction es generalizing cursor with
  | nil => exact .nil
  | cons e es ih =>
      obtain ⟨-, -, hrest⟩ := h
      exact List.pairwise_cons.2 ⟨fun b hb => (hrest.of_mem hb).1, ih hrest⟩

/-- Edits that lie from the cursor on and do not overlap are in order. -/
theorem inOrder_of_pairwise (hcursor : cursor ≤ limit)
    (hes : ∀ e ∈ es, cursor ≤ e.range.start ∧ e.range.start ≤ e.range.stop ∧ e.range.stop ≤ limit)
    (h : es.Pairwise fun a b => a.range.stop ≤ b.range.start) : InOrder limit cursor es := by
  induction es generalizing cursor with
  | nil => exact hcursor
  | cons e es ih =>
      obtain ⟨⟨hstart, hstop, hlimit⟩, hrest⟩ := List.forall_mem_cons.1 hes
      obtain ⟨hbehind, hpairs⟩ := List.pairwise_cons.1 h
      exact ⟨hstart, hstop, ih hlimit (fun b hb => ⟨hbehind b hb, (hrest b hb).2⟩) hpairs⟩

/-- Edits over which a sweep does not stop start at the cursor or behind it and do not overlap. -/
theorem pairwise_of_sweep_eq_ok (hes : ∀ e ∈ es, e.range.start ≤ e.range.stop)
    {output : Text} (h : sweep source cursor es = .ok output) :
    (∀ e ∈ es, cursor ≤ e.range.start) ∧ es.Pairwise fun a b => a.range.stop ≤ b.range.start := by
  induction es generalizing cursor output with
  | nil => exact ⟨by simp, .nil⟩
  | cons e es ih =>
      obtain ⟨hstop, hrest⟩ := List.forall_mem_cons.1 hes
      rw [sweep] at h
      split at h
      · cases h
      · rename_i hstart
        obtain ⟨tail, hsweep, -⟩ := map_eq_ok_iff.1 h
        obtain ⟨hbehind, hpairs⟩ := ih hrest hsweep
        refine ⟨List.forall_mem_cons.2 ⟨Int.not_lt.1 hstart, fun d hd => ?_⟩,
          List.pairwise_cons.2 ⟨hbehind, hpairs⟩⟩
        have := hbehind d hd
        omega

/-- The sweep over edits that are not in order fails: it compares neighbours only, but an edit that
starts before the end of any edit before it starts before the end of its neighbour, or that one
starts too early itself. -/
theorem exists_sweep_eq_error (source : Text) (hcursor : cursor ≤ limit)
    (hes : ∀ e ∈ es, e.range.start ≤ e.range.stop ∧ e.range.stop ≤ limit)
    (h : ¬InOrder limit cursor es) : ∃ o, sweep source cursor es = .error o := by
  cases hsweep : sweep source cursor es with
  | error o => exact ⟨o, rfl⟩
  | ok output =>
      obtain ⟨hbehind, hpairs⟩ := pairwise_of_sweep_eq_ok (fun e he => (hes e he).1) hsweep
      exact absurd (inOrder_of_pairwise hcursor (fun e he => ⟨hbehind e he, hes e he⟩) hpairs) h

/-- The sweep over edits in order does not fail. -/
theorem sweep_eq_ok (h : InOrder limit cursor es) :
    sweep source cursor es = .ok (patched source cursor es) := by
  induction es generalizing cursor with
  | nil => rfl
  | cons e es ih =>
      obtain ⟨hstart, -, hrest⟩ := h
      rw [sweep, if_neg (by omega), ih hrest]
      rfl

/-! ## The length of the answer -/

theorem length_sliceFrom (hcursor : 0 ≤ cursor) (hle : cursor ≤ source.length) :
    ((source.sliceFrom cursor).length : Int) = source.length - cursor := by
  obtain ⟨k, rfl⟩ := Int.eq_ofNat_of_zero_le hcursor
  rw [Text.sliceFrom_natCast, List.length_drop]
  omega

theorem length_slice {stop : Int} (hcursor : 0 ≤ cursor) (hle : cursor ≤ stop)
    (hstop : stop ≤ source.length) : ((source.slice cursor stop).length : Int) = stop - cursor := by
  obtain ⟨i, rfl⟩ := Int.eq_ofNat_of_zero_le hcursor
  obtain ⟨j, rfl⟩ := Int.eq_ofNat_of_zero_le (Int.le_trans hcursor hle)
  rw [Text.slice_natCast, List.length_take, List.length_drop]
  omega

theorem delta_of_le {e : Edit} (h : e.range.start ≤ e.range.stop) :
    e.delta = e.text.length - (e.range.stop - e.range.start) := by
  rw [delta, Range.length, Int.toNat_of_nonneg (by omega)]

theorem length_patched (hcursor : 0 ≤ cursor) (h : InOrder source.length cursor es) :
    ((patched source cursor es).length : Int) =
      source.length - cursor + (es.map delta).sum := by
  induction es generalizing cursor with
  | nil => simpa [patched] using length_sliceFrom hcursor h
  | cons e es ih =>
      obtain ⟨hstart, hstop, hrest⟩ := h
      have hslice := length_slice hcursor hstart (Int.le_trans hstop hrest.cursor_le)
      have htail := ih (by omega) hrest
      have hdelta := delta_of_le hstop
      simp only [patched, List.length_append, List.map_cons, List.sum_cons]
      omega

/-! ## Where a character goes -/

theorem shift_cons (e : Edit) (es : List Edit) (p : Int) :
    shift (e :: es) p = (if e.range.stop ≤ p then e.delta else 0) + shift es p := by
  by_cases h : e.range.stop ≤ p <;> simp [shift, h]

/-- A character before all edits stays where it is. -/
theorem shift_eq_zero (h : InOrder limit cursor es) {p : Int} (hp : p < cursor) :
    shift es p = 0 := by
  rw [shift, List.filter_eq_nil_iff.2]
  · rfl
  · intro e he
    obtain ⟨h1, h2, -⟩ := h.of_mem he
    simp only [decide_eq_true_eq]
    omega

/-- A character that no edit covers is found in the answer, moved by its shift. -/
theorem getElem?_patched (hcursor : 0 ≤ cursor) (h : InOrder source.length cursor es) {p : Nat}
    (hp : cursor ≤ p) (hfree : ∀ e ∈ es, ¬e.Covers p) :
    ∃ k : Nat, (k : Int) = p - cursor + shift es p ∧
      (patched source cursor es)[k]? = source[p]? := by
  induction es generalizing cursor with
  | nil =>
      obtain ⟨i, rfl⟩ := Int.eq_ofNat_of_zero_le hcursor
      refine ⟨p - i, by simp [shift]; omega, ?_⟩
      rw [patched, Text.sliceFrom_natCast, List.getElem?_drop]
      congr 1
      omega
  | cons e es ih =>
      obtain ⟨hstart, hstop, hrest⟩ := h
      have hlen := length_slice hcursor hstart (Int.le_trans hstop hrest.cursor_le)
      rw [shift_cons, patched, List.append_assoc]
      by_cases hbefore : (p : Int) < e.range.start
      · -- the character lies in the stretch copied before the first edit
        rw [if_neg (by omega), shift_eq_zero hrest (by omega)]
        obtain ⟨i, rfl⟩ := Int.eq_ofNat_of_zero_le hcursor
        obtain ⟨j, hj⟩ := Int.eq_ofNat_of_zero_le (Int.le_trans hcursor hstart)
        refine ⟨p - i, by omega, ?_⟩
        rw [List.getElem?_append_left (by omega), hj, Text.slice_natCast,
          List.getElem?_take_of_lt (by omega), List.getElem?_drop]
        congr 1
        omega
      · have hafter : e.range.stop ≤ p := by
          have := hfree e (List.mem_cons_self ..)
          simp only [Covers] at this
          omega
        obtain ⟨k, hk, hget⟩ := ih (by omega) hrest hafter
          fun d hd => hfree d (List.mem_cons_of_mem _ hd)
        have hdelta := delta_of_le hstop
        rw [if_pos hafter]
        refine ⟨(source.slice cursor e.range.start).length + (e.text.length + k), by omega, ?_⟩
        rw [List.getElem?_append_right (by omega), Nat.add_sub_cancel_left,
          List.getElem?_append_right (by omega), Nat.add_sub_cancel_left, hget]

/-- A character that no edit covers does not move in front of the cursor. -/
theorem le_add_shift (h : InOrder limit cursor es) {p : Int} (hp : cursor ≤ p)
    (hfree : ∀ e ∈ es, ¬e.Covers p) : cursor ≤ p + shift es p := by
  induction es generalizing cursor with
  | nil => simpa [shift] using hp
  | cons e es ih =>
      obtain ⟨hstart, hstop, hrest⟩ := h
      have hcover := hfree e (List.mem_cons_self ..)
      simp only [Covers] at hcover
      rw [shift_cons]
      by_cases hafter : e.range.stop ≤ p
      · have := ih hrest hafter fun d hd => hfree d (List.mem_cons_of_mem _ hd)
        have hdelta := delta_of_le hstop
        rw [if_pos hafter]
        omega
      · rw [if_neg hafter, shift_eq_zero hrest (by omega)]
        omega

/-- Characters that no edit covers keep their order. -/
theorem add_shift_lt (h : InOrder limit cursor es) {p q : Int} (hlt : p < q)
    (hp : ∀ e ∈ es, ¬e.Covers p) (hq : ∀ e ∈ es, ¬e.Covers q) :
    p + shift es p < q + shift es q := by
  induction es generalizing cursor with
  | nil => simpa [shift] using hlt
  | cons e es ih =>
      obtain ⟨hstart, hstop, hrest⟩ := h
      have hpe := hp e (List.mem_cons_self ..)
      have hqe := hq e (List.mem_cons_self ..)
      have hprest := fun d hd => hp d (List.mem_cons_of_mem _ hd)
      have hqrest := fun d hd => hq d (List.mem_cons_of_mem _ hd)
      have hdelta := delta_of_le hstop
      simp only [Covers] at hpe hqe
      rw [shift_cons, shift_cons]
      by_cases hpafter : e.range.stop ≤ p
      · have := ih hrest hprest hqrest
        rw [if_pos hpafter, if_pos (by omega)]
        omega
      · rw [if_neg hpafter, shift_eq_zero hrest (by omega)]
        by_cases hqafter : e.range.stop ≤ q
        · have := le_add_shift hrest hqafter hqrest
          rw [if_pos hqafter]
          omega
        · rw [if_neg hqafter, shift_eq_zero hrest (by omega)]
          omega

end Edit

end SolidityLint
