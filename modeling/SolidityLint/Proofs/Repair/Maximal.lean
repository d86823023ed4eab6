import Mathlib.Data.List.Pairwise
import SolidityLint.Proofs.Repair.Choice

/-!
# Whether more candidates could be accepted

A candidate should be left only where it overlaps one that is accepted, so that none of those left
could be added.  The greedy choice keeps to this with one exception, an insertion exactly where an
accepted candidate starts to replace some text.  The two are adjacent, but when the diagnostic of
the insertion comes later, the cursor has passed its place before the walk arrives at it.

* `apart_iff_of_covers`: what a candidate that covers the start of another can leave apart.
* `Resolver.apart_rejected_greedy_iff`: the candidates left that overlap no accepted one.
-/

namespace SolidityLint

namespace Candidate

/-- Candidates of which one stops before the other starts, or just there. -/
def Apart (a b : Candidate) : Prop :=
  a.stop ≤ b.start ∨ b.stop ≤ a.start

instance (a b : Candidate) : Decidable (a.Apart b) :=
  inferInstanceAs (Decidable (_ ∨ _))

instance : Std.Symm Apart where
  symm _ _ := Or.symm

/-- Does `c` insert a text exactly where `a` starts to replace one, for a later diagnostic? -/
structure InsertsBehind (c a : Candidate) : Prop where
  insertion : c.start = c.stop
  start : c.start = a.start
  replacement : a.start < a.stop
  later : a.order < c.order

variable {a c : Candidate} {cs : List Candidate}

/-- Of the candidates whose start `a` covers, only an insertion at the start of `a` is apart from
it. -/
theorem apart_iff_of_covers (hc : c.start ≤ c.stop) (hstart : a.start ≤ c.start)
    (hstop : c.start < a.stop) : c.Apart a ↔ c.start = c.stop ∧ c.start = a.start := by
  rw [Apart]
  omega

/-- An insertion at the start of a candidate is apart from all that are apart from that one. -/
theorem InsertsBehind.apart {b : Candidate} (h : c.InsertsBehind a) (hab : a.Apart b) :
    c.Apart b := by
  obtain ⟨hinsertion, hstart, hreplacement, -⟩ := h
  rw [Apart] at *
  omega

end Candidate

namespace Resolver

open Candidate

variable {cs : List Candidate} {c : Candidate}

/-- A candidate is left because an accepted one before it covers its start. -/
theorem exists_covering_of_mem_rejected (hranges : ∀ c ∈ cs, 0 ≤ c.start)
    (hplaces : (cs.map (·.order)).Nodup) (hc : c ∈ (greedy cs).rejected) :
    ∃ a ∈ (greedy cs).accepted, a.Precedes c ∧ c.start < a.stop := by
  obtain ⟨hmem, hcause⟩ := (mem_rejected_scan_iff (pairwise_sort hplaces)).1 hc
  exact hcause.resolve_left (Int.not_lt.2 (hranges c (mem_sort.1 hmem)))

theorem pairwise_apart_accepted (hranges : ∀ c ∈ cs, c.start ≤ c.stop) :
    (greedy cs).accepted.Pairwise Apart :=
  (pairwise_accepted_scan fun c hc => hranges c (mem_sort.1 hc)).imp Or.inl

/-- **Where the choice is not maximal.**  A candidate that the greedy choice leaves overlaps one
that is accepted, unless it inserts a text exactly where an accepted one starts to replace some, for
a later diagnostic.  Then it overlaps none of those accepted and could be added to them. -/
theorem apart_rejected_greedy_iff (hranges : ∀ c ∈ cs, 0 ≤ c.start ∧ c.start ≤ c.stop)
    (hplaces : (cs.map (·.order)).Nodup) :
    ∀ c ∈ (greedy cs).rejected, (∀ a ∈ (greedy cs).accepted, c.Apart a) ↔
      ∃ a ∈ (greedy cs).accepted, c.InsertsBehind a := by
  intro c hc
  have hmem : c ∈ cs := (perm_greedy cs).mem_iff.1 (List.mem_append_right _ hc)
  constructor
  · intro hapart
    obtain ⟨a, ha, hbefore, hlt⟩ :=
      exists_covering_of_mem_rejected (fun c hc => (hranges c hc).1) hplaces hc
    obtain ⟨hinsertion, hstart⟩ :=
      (apart_iff_of_covers (hranges c hmem).2 hbefore.start_le hlt).1 (hapart a ha)
    rcases hbefore with hlt' | ⟨-, hlater⟩
    · omega
    · exact ⟨a, ha, hinsertion, hstart, by omega, hlater⟩
  · rintro ⟨a, ha, hbehind⟩ b hb
    by_cases hab : a = b
    · subst hab
      exact .inl (Int.le_of_eq (hbehind.insertion.symm.trans hbehind.start))
    · have hpairs := pairwise_apart_accepted fun c hc => (hranges c hc).2
      exact hbehind.apart (hpairs.forall ha hb hab)

/-- A replacement, an insertion at its start and a candidate that overlaps it. -/
def shutOut : List Candidate :=
  [replacing 0 2 5, replacing 1 2 2, replacing 2 4 8]

theorem greedy_shutOut :
    greedy shutOut = ⟨[replacing 0 2 5], [replacing 1 2 2, replacing 2 4 8]⟩ := by
  have hsorted : shutOut.Pairwise fun a b => a.comesBefore b = true := by decide
  rw [greedy, sort, List.mergeSort_of_pairwise hsorted]
  rfl

/-- The insertion is left though it overlaps nothing, and the other candidate is left rightly. -/
theorem apart_rejected_of_shutOut :
    (∀ c ∈ shutOut, 0 ≤ c.start ∧ c.start ≤ c.stop) ∧ (shutOut.map (·.order)).Nodup ∧
      (greedy shutOut).rejected = [replacing 1 2 2, replacing 2 4 8] ∧
      (∀ a ∈ (greedy shutOut).accepted, (replacing 1 2 2).Apart a) ∧
      ¬∃ a ∈ (greedy shutOut).accepted, (replacing 2 4 8).InsertsBehind a := by
  have hranges : ∀ c ∈ shutOut, 0 ≤ c.start ∧ c.start ≤ c.stop := by decide
  have hplaces : (shutOut.map (·.order)).Nodup := by decide
  have hiff := apart_rejected_greedy_iff hranges hplaces
  rw [greedy_shutOut] at hiff ⊢
  have hinsertion := hiff (replacing 1 2 2) (List.mem_cons_self ..)
  have hother := hiff (replacing 2 4 8) (List.mem_cons_of_mem _ (List.mem_singleton_self _))
  refine ⟨hranges, hplaces, rfl, hinsertion.2 ?_, fun h => ?_⟩
  · exact ⟨replacing 0 2 5, List.mem_singleton_self _, rfl, rfl, by decide, by decide⟩
  · exact absurd (hother.2 h) (by decide)

/-- So it is not so that every candidate left overlaps one that is accepted. -/
theorem exists_apart_rejected :
    ¬∀ cs : List Candidate, (∀ c ∈ cs, 0 ≤ c.start ∧ c.start ≤ c.stop) →
      (cs.map (·.order)).Nodup →
      ∀ c ∈ (greedy cs).rejected, ∃ a ∈ (greedy cs).accepted, ¬c.Apart a := by
  intro h
  have hinsertion := h shutOut (by decide) (by decide) (replacing 1 2 2)
  rw [greedy_shutOut] at hinsertion
  obtain ⟨a, ha, hoverlap⟩ := hinsertion (List.mem_cons_self ..)
  rw [List.mem_singleton.1 ha] at hoverlap
  exact hoverlap (by decide)

end Resolver

end SolidityLint
