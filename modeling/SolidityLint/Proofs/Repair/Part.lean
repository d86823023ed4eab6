import Mathlib.Data.List.Nodup
import Mathlib.Data.List.Perm.Subperm
import Mathlib.Data.Prod.Lex
import SolidityLint.Proofs.Repair.Choice

/-!
# Resolving a part of the candidates

What the greedy choice decides on a candidate depends on the accepted ones that come before it and
on nothing else.  So a part of the candidates that holds with each of its own the accepted ones
before it is decided as the whole is.  Two kinds of parts are of this form: those that hold all
accepted candidates, whatever they leave out, and those that hold all candidates up to a place.

* `Resolver.greedy_filter`: such a part is decided as the whole is.
* `Resolver.greedy_eq_of_perm`: the order in which the candidates are given is of no account.
* `Resolver.greedy_of_part`: what the choice decides on either kind of part, and in any order.
-/

namespace SolidityLint

namespace Candidate

/-- The place of a candidate in the order of scanning: its start, then its diagnostic. -/
def key (c : Candidate) : Int ×ₗ Int :=
  toLex (c.start, c.order)

variable {a b : Candidate} {cs ds : List Candidate} {cursor : Int} {p : Candidate → Bool}

theorem precedes_iff_key_lt : a.Precedes b ↔ a.key < b.key := by
  rw [key, key, Prod.Lex.toLex_lt_toLex]
  rfl

/-- Candidates at different places are sorted in one way only. -/
theorem sort_eq_of_perm (hplaces : (cs.map (·.order)).Nodup) (hperm : ds.Perm cs) :
    sort ds = sort cs := by
  have hsorted : (sort ds).Perm (sort cs) :=
    (List.mergeSort_perm _ _).trans (hperm.trans (List.mergeSort_perm _ _).symm)
  refine hsorted.eq_of_pairwise (fun a b _ _ hab hba => absurd hba hab.asymm)
    (pairwise_sort ?_) (pairwise_sort hplaces)
  exact (hperm.map _).nodup_iff.2 hplaces

/-- The walk over a part of the candidates decides as the walk over all of them, if the part holds
with each candidate the accepted ones before it. -/
theorem scan_filter (hsorted : cs.Pairwise Precedes)
    (hp : ∀ c ∈ cs, p c = true → ∀ a ∈ (scan cursor cs).accepted, a.Precedes c → p a = true) :
    scan cursor (cs.filter p) =
      ⟨(scan cursor cs).accepted.filter p, (scan cursor cs).rejected.filter p⟩ := by
  induction cs generalizing cursor with
  | nil => rfl
  | cons d cs ih =>
      obtain ⟨hfirst, hrest⟩ := List.pairwise_cons.1 hsorted
      by_cases haccepted : cursor ≤ d.start
      · simp only [scan, if_pos haccepted] at hp ⊢
        by_cases hd : p d = true
        · have hpart := ih hrest fun c hc hpc a ha =>
            hp c (List.mem_cons_of_mem _ hc) hpc a (List.mem_cons_of_mem _ ha)
          rw [List.filter_cons_of_pos hd, List.filter_cons_of_pos hd, scan, if_pos haccepted,
            hpart]
        · -- the part holds nothing behind an accepted candidate that it leaves out
          have hnone : ∀ c ∈ cs, ¬p c = true := fun c hc hpc =>
            hd (hp c (List.mem_cons_of_mem _ hc) hpc d (List.mem_cons_self ..) (hfirst c hc))
          have haccepts := (sublist_accepted_scan d.stop cs).subset
          have hrejects := (sublist_rejected_scan d.stop cs).subset
          rw [List.filter_cons_of_neg hd, List.filter_cons_of_neg hd,
            List.filter_eq_nil_iff.2 hnone,
            List.filter_eq_nil_iff.2 fun c hc => hnone c (haccepts hc),
            List.filter_eq_nil_iff.2 fun c hc => hnone c (hrejects hc), scan]
      · simp only [scan, if_neg haccepted] at hp ⊢
        have hpart := ih hrest fun c hc => hp c (List.mem_cons_of_mem _ hc)
        by_cases hd : p d = true
        · rw [List.filter_cons_of_pos hd, List.filter_cons_of_pos hd, scan, if_neg haccepted,
            hpart]
        · rw [List.filter_cons_of_neg hd, List.filter_cons_of_neg hd, hpart]

end Candidate

namespace Resolver

open Candidate

variable {cs ds part : List Candidate} {p : Candidate → Bool}

/-- The order in which the candidates are given is of no account. -/
theorem greedy_eq_of_perm (hplaces : (cs.map (·.order)).Nodup) (hperm : ds.Perm cs) :
    greedy ds = greedy cs := by
  rw [greedy, greedy, sort_eq_of_perm hplaces hperm]

/-- A part of the candidates is decided as the whole is, if it holds with each of its own the
accepted ones before it. -/
theorem greedy_filter (hplaces : (cs.map (·.order)).Nodup)
    (hp : ∀ c ∈ cs, p c = true → ∀ a ∈ (greedy cs).accepted, a.Precedes c → p a = true) :
    greedy (cs.filter p) = ⟨(greedy cs).accepted.filter p, (greedy cs).rejected.filter p⟩ := by
  have hsort : sort (cs.filter p) = (sort cs).filter p :=
    (Order.filter_mergeSort isRanking_comesBefore p cs).symm
  rw [greedy, hsort]
  exact scan_filter (pairwise_sort hplaces) fun c hc => hp c (mem_sort.1 hc)

/-- A part that reaches up to a place is decided as the whole is. -/
theorem greedy_upTo (hplaces : (cs.map (·.order)).Nodup) (k : Int ×ₗ Int) :
    greedy (cs.filter (·.key ≤ k)) =
      ⟨(greedy cs).accepted.filter (·.key ≤ k), (greedy cs).rejected.filter (·.key ≤ k)⟩ := by
  refine greedy_filter hplaces fun c _ hc a _ hbefore => ?_
  have hle : c.key ≤ k := of_decide_eq_true hc
  exact decide_eq_true ((precedes_iff_key_lt.1 hbefore).le.trans hle)

open scoped Classical in
/-- The candidates of a part, in any order, are those of the whole that stand in the part. -/
theorem perm_filter_mem (hplaces : (cs.map (·.order)).Nodup) (hpart : part.Subperm cs) :
    part.Perm (cs.filter (· ∈ part)) := by
  have hnodup : cs.Nodup := .of_map _ hplaces
  obtain ⟨l, hperm, hsub⟩ := hpart
  refine (List.perm_ext_iff_of_nodup (hperm.nodup_iff.1 (hnodup.sublist hsub))
    (hnodup.filter _)).2 fun c => ?_
  rw [List.mem_filter, decide_eq_true_eq, iff_and_self]
  exact fun hc => hsub.subset (hperm.mem_iff.2 hc)

open scoped Classical in
/-- A part that holds all accepted candidates is decided as the whole is. -/
theorem greedy_of_subperm (hplaces : (cs.map (·.order)).Nodup) (hpart : part.Subperm cs)
    (hall : ∀ a ∈ (greedy cs).accepted, a ∈ part) :
    greedy part = ⟨(greedy cs).accepted, (greedy cs).rejected.filter (· ∈ part)⟩ := by
  have hfilter := greedy_filter (p := fun c => decide (c ∈ part)) hplaces
    fun _ _ _ a ha _ => decide_eq_true (hall a ha)
  rw [greedy_eq_of_perm (hplaces.sublist (List.filter_sublist.map _))
    (perm_filter_mem hplaces hpart), hfilter, List.filter_eq_self.2]
  exact fun a ha => decide_eq_true (hall a ha)

/-- The accepted candidates are a part of all, and none of them was left. -/
theorem greedy_accepted (hplaces : (cs.map (·.order)).Nodup) :
    greedy (greedy cs).accepted = ⟨(greedy cs).accepted, []⟩ := by
  have hperm := perm_greedy cs
  have hdisjoint := List.disjoint_of_nodup_append (hperm.nodup_iff.2 (.of_map _ hplaces))
  classical
  rw [greedy_of_subperm hplaces ((List.sublist_append_left ..).subperm.trans hperm.subperm)
    fun a ha => ha, List.filter_eq_nil_iff.2]
  intro c hc hmem
  exact hdisjoint (of_decide_eq_true hmem) hc

open scoped Classical in
/-- **The choice on a part of the candidates.**  A part that holds all accepted candidates, in
whatever order, is decided as the whole is, so the accepted ones by themselves are all accepted
again.  The same holds of the candidates up to any place, and the order in which all of them are
given is of no account. -/
theorem greedy_of_part (hplaces : (cs.map (·.order)).Nodup) :
    (∀ part : List Candidate, part.Subperm cs → (∀ a ∈ (greedy cs).accepted, a ∈ part) →
      greedy part = ⟨(greedy cs).accepted, (greedy cs).rejected.filter (· ∈ part)⟩) ∧
    greedy (greedy cs).accepted = ⟨(greedy cs).accepted, []⟩ ∧
    (∀ k : Int ×ₗ Int, greedy (cs.filter (·.key ≤ k)) =
      ⟨(greedy cs).accepted.filter (·.key ≤ k), (greedy cs).rejected.filter (·.key ≤ k)⟩) ∧
    ∀ ds : List Candidate, ds.Perm cs → greedy ds = greedy cs :=
  ⟨fun _ => greedy_of_subperm hplaces, greedy_accepted hplaces, greedy_upTo hplaces,
    fun _ => greedy_eq_of_perm hplaces⟩

/-- The second candidate starts within the first and the last one within the fifth. -/
def crossing : List Candidate :=
  [replacing 0 0 5, replacing 1 2 9, replacing 2 6 6, replacing 3 6 7, replacing 4 8 10,
    replacing 5 8 9]

theorem greedy_crossing :
    greedy crossing = ⟨[replacing 0 0 5, replacing 2 6 6, replacing 3 6 7, replacing 4 8 10],
      [replacing 1 2 9, replacing 5 8 9]⟩ := by
  have hsorted : crossing.Pairwise fun a b => a.comesBefore b = true := by decide
  rw [greedy, sort, List.mergeSort_of_pairwise hsorted]
  rfl

open scoped Classical in
/-- All but the second candidate, and in the other direction: what was accepted is accepted, and
the last candidate is rejected. -/
theorem greedy_of_crossing :
    let part := (crossing.eraseIdx 1).reverse
    (crossing.map (·.order)).Nodup ∧ part.Subperm crossing ∧
      (∀ a ∈ (greedy crossing).accepted, a ∈ part) ∧
      greedy part = ⟨(greedy crossing).accepted, (greedy crossing).rejected.filter (· ∈ part)⟩ ∧
      crossing.reverse.Perm crossing ∧ greedy crossing.reverse = greedy crossing := by
  intro part
  have hplaces : (crossing.map (·.order)).Nodup := by decide
  have hpart : part.Subperm crossing :=
    ⟨crossing.eraseIdx 1, (List.reverse_perm _).symm, List.eraseIdx_sublist ..⟩
  have hall : ∀ a ∈ (greedy crossing).accepted, a ∈ part := by
    rw [greedy_crossing]
    simp [part, crossing]
  have hperm := List.reverse_perm crossing
  obtain ⟨hstable, -, -, horder⟩ := greedy_of_part hplaces
  exact ⟨hplaces, hpart, hall, hstable part hpart hall, hperm, horder _ hperm⟩

end Resolver

end SolidityLint
