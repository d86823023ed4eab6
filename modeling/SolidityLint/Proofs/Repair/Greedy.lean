import SolidityLint.Proofs.Edit.Sweep
import SolidityLint.Repair.Outcome

/-!
# The greedy choice never fails

The greedy choice walks over the candidates with a cursor that stands at the end of the last edit
accepted, and so does the sweep that applies them.  The two cursors agree, hence the edits
accepted are always in order and every repair has an outcome.

* `scan_inOrder`: what the greedy walk accepts lies one behind the other.
* `repairWith_eq_ok`: whatever the resolver, if the edits accepted are in order, then the outcome of
  the repair can be written down without failure (`Report.repairedBy`).
* `repair_eq_ok`: so it can for the greedy choice (`Report.repaired`).
* `repair_sound`: the edits accepted lie within the text and apart from each other, the length of
  the result is that of the text plus the sum of the deltas, and every character outside the
  edits survives, moved by the edits before it.
-/

namespace SolidityLint

/-! ## Candidates lie within the text -/

theorem Diagnostic.edit?_admits {d : Diagnostic} {f : EditFactory} {e : Edit}
    (h : d.edit? f = some e) : f.Admits e.range := by
  rw [edit?, Option.filter_eq_some_iff] at h
  exact of_decide_eq_true h.2

theorem Report.admits_of_mem_candidates {r : Report} {c : Candidate} (hc : c ∈ r.candidates) :
    (EditFactory.ofText r.source).Admits c.edit.range := by
  obtain ⟨⟨d, order⟩, -, hd⟩ := List.mem_filterMap.1 hc
  obtain ⟨e, he, rfl⟩ := Option.map_eq_some_iff.1 hd
  exact d.edit?_admits he

/-! ## The walk over the candidates -/

namespace Candidate

theorem mem_sort {cs : List Candidate} {c : Candidate} : c ∈ sort cs ↔ c ∈ cs :=
  List.mem_mergeSort

/-- What the walk accepts lies one behind the other, from the cursor on. -/
theorem scan_inOrder {limit cursor : Int} {cs : List Candidate} (hcursor : cursor ≤ limit)
    (hcs : ∀ c ∈ cs, c.start ≤ c.stop ∧ c.stop ≤ limit) :
    Edit.InOrder limit cursor ((scan cursor cs).accepted.map (·.edit)) := by
  induction cs generalizing cursor with
  | nil => exact hcursor
  | cons c cs ih =>
      obtain ⟨hstop, hlimit⟩ := hcs c (List.mem_cons_self ..)
      have hrest := fun d hd => hcs d (List.mem_cons_of_mem _ hd)
      rw [scan]
      split
      · rename_i hstart
        exact ⟨hstart, hstop, ih hlimit hrest⟩
      · exact ih hcursor hrest

end Candidate

/-! ## The outcome of a repair -/

namespace Report

/-- The edits that the greedy choice accepts lie one behind the other within the text. -/
theorem greedy_inOrder (r : Report) :
    Edit.InOrder r.source.length 0 ((Resolver.greedy r.candidates).accepted.map (·.edit)) := by
  refine Candidate.scan_inOrder (Int.natCast_nonneg _) fun c hc => ?_
  obtain ⟨-, hstop, hlimit⟩ := admits_of_mem_candidates (Candidate.mem_sort.1 hc)
  exact ⟨hstop, hlimit⟩

theorem prune_nil (r : Report) : r.prune [] = r := by
  simp [prune, List.filter_eq_self.2]

/-- The outcome of a repair that is not given up. -/
def repairedBy (resolver : Resolver) (r : Report) : Outcome :=
  let resolution := resolver r.candidates
  { given := r
    report := r.prune resolution.accepted
    patch := ⟨!resolution.accepted.isEmpty,
      Edit.patched r.source 0 (resolution.accepted.map (·.edit))⟩
    accepted := resolution.accepted
    rejected := resolution.rejected
    written := false
    skipped := none }

@[simp] theorem changed_repairedBy (resolver : Resolver) (r : Report) :
    (r.repairedBy resolver).patch.changed = !(resolver r.candidates).accepted.isEmpty :=
  rfl

/-- A repair whose edits are in order has an outcome. -/
theorem repairWith_eq_ok {resolver : Resolver} {r : Report}
    (h : Edit.InOrder r.source.length 0 ((resolver r.candidates).accepted.map (·.edit))) :
    r.repairWith resolver = .ok (r.repairedBy resolver) := by
  rw [repairWith, Edit.applyAll, Edit.sweep_eq_ok h]
  simp only [Except.map, List.isEmpty_map, repairedBy]
  cases h : (resolver r.candidates).accepted with
  | nil => simp [prune_nil]
  | cons c cs => simp

/-- The outcome of the repair by the greedy choice. -/
def repaired (r : Report) : Outcome :=
  r.repairedBy .greedy

/-- A repair by the greedy choice has an outcome. -/
theorem repair_eq_ok (r : Report) : r.repair = .ok r.repaired :=
  repairWith_eq_ok r.greedy_inOrder

/-- The repair by the greedy choice is never given up. -/
theorem repairSafely_greedy (r : Report) : r.repairSafely .greedy = r.repaired := by
  have h := r.repair_eq_ok
  rw [repair] at h
  rw [repairSafely, h]

/-- **A repair is sound.**  It has an outcome, the edits it applies lie within the text, in order
and apart from each other, and of the text they leave every character they do not cover, in its
old order and moved by the edits before it. -/
theorem repair_sound (r : Report) :
    ∃ o, r.repair = .ok o ∧
      let edits := o.accepted.map (·.edit)
      let Free (p : Nat) := ∀ e ∈ edits, ¬e.Covers p
      (∀ e ∈ edits, 0 ≤ e.range.start ∧ e.range.start ≤ e.range.stop ∧
        e.range.stop ≤ (r.source.length : Int)) ∧
      edits.Pairwise (fun a b => a.range.start ≤ b.range.start) ∧
      edits.Pairwise (fun a b => a.range.stop ≤ b.range.start) ∧
      (o.patch.output.length : Int) = r.source.length + (edits.map Edit.delta).sum ∧
      (∀ p, p < r.source.length → Free p →
        ∃ k : Nat, (k : Int) = p + Edit.shift edits p ∧ o.patch.output[k]? = r.source[p]?) ∧
      ∀ p q, p < q → q < r.source.length → Free p → Free q →
        p + Edit.shift edits p < q + Edit.shift edits q := by
  have h := r.greedy_inOrder
  refine ⟨r.repaired, r.repair_eq_ok, fun e he => h.of_mem he, ?_, h.pairwise, ?_, ?_, ?_⟩
  · refine h.pairwise.imp_of_mem fun {a b} ha _ hab => ?_
    have := (h.of_mem ha).2.1
    omega
  · have hlen := Edit.length_patched (Int.le_refl 0) h
    rwa [Int.sub_zero] at hlen
  · intro p _ hp
    obtain ⟨k, hk, hget⟩ := Edit.getElem?_patched (Int.le_refl 0) h (Int.natCast_nonneg p) hp
    exact ⟨k, by rwa [Int.sub_zero] at hk, hget⟩
  · intro p q hpq _ hp hq
    exact Edit.add_shift_lt h (by omega) hp hq

end Report

end SolidityLint
