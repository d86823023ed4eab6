import SolidityLint.Proofs.Repair.Greedy

/-!
# What becomes of candidates and diagnostics

A repair splits the candidates of a report into those it applies and those it leaves, and takes the
diagnostics of the first ones out of the report.  Diagnostics may be equal, so they are told apart
by their places in the report.

* `mem_candidates_iff`: the candidates are the diagnostics that offer an edit within the text.
* `repair_accounts`: no candidate is lost or doubled, and the diagnostics that remain are those at
  the places that no applied candidate has.
-/

namespace SolidityLint

/-! ## The candidates of a report -/

namespace Diagnostic

variable {d : Diagnostic} {f : EditFactory}

/-- A diagnostic offers the edit that its producer answers with, if that lies within the text. -/
theorem edit?_eq_some_iff {e : Edit} : d.edit? f = some e ↔
    ∃ producer, d.fix = some producer ∧ producer f = .ok (some e) ∧ f.Admits e.range := by
  rw [edit?, Option.filter_eq_some_iff, offer?, decide_eq_true_eq]
  cases hfix : d.fix with
  | none => simp
  | some producer =>
      cases hanswer : producer f with
      | error failure => simp [hanswer]
      | ok offered => simp [hanswer]

theorem edit?_eq_none_iff : d.edit? f = none ↔
    ∀ producer e, d.fix = some producer → producer f = .ok (some e) → ¬f.Admits e.range := by
  rw [Option.eq_none_iff_forall_ne_some]
  constructor
  · intro h producer e hfix hanswer hadmits
    exact h e (edit?_eq_some_iff.2 ⟨producer, hfix, hanswer, hadmits⟩)
  · intro h e he
    obtain ⟨producer, hfix, hanswer, hadmits⟩ := edit?_eq_some_iff.1 he
    exact h producer e hfix hanswer hadmits

end Diagnostic

namespace Report

variable {r : Report} {c : Candidate}

/-- The candidates are the diagnostics that offer an edit within the text, with their places. -/
theorem mem_candidates_iff : c ∈ r.candidates ↔ ∃ i : Nat, c.order = i ∧
    r.diagnostics[i]? = some c.diagnostic ∧
      c.diagnostic.edit? (.ofText r.source) = some c.edit := by
  rw [candidates, candidatesFor, List.mem_filterMap]
  constructor
  · rintro ⟨⟨d, i⟩, hd, hc⟩
    obtain ⟨e, he, rfl⟩ := Option.map_eq_some_iff.1 hc
    exact ⟨i, rfl, List.mem_zipIdx_iff_getElem?.1 hd, he⟩
  · rintro ⟨i, hi, hd, he⟩
    refine ⟨(c.diagnostic, i), List.mem_zipIdx_iff_getElem?.2 hd, ?_⟩
    simp only [Diagnostic.candidate?, he, Option.map_some, ← hi]

/-- The candidates stand in the order of their diagnostics. -/
theorem pairwise_order_candidates (r : Report) :
    r.candidates.Pairwise (·.order < ·.order) := by
  have hindex : r.diagnostics.zipIdx.Pairwise (·.2 < ·.2) := by
    rw [← List.pairwise_map, List.zipIdx_map_snd]
    exact List.pairwise_lt_range'
  refine List.pairwise_filterMap.2 (hindex.imp fun {x y} hlt a ha b hb => ?_)
  obtain ⟨e, -, rfl⟩ := Option.map_eq_some_iff.1 ha
  obtain ⟨e', -, rfl⟩ := Option.map_eq_some_iff.1 hb
  simpa using hlt

theorem nodup_map_order_candidates (r : Report) : (r.candidates.map (·.order)).Nodup :=
  List.pairwise_map.2 (r.pairwise_order_candidates.imp fun h => Int.ne_of_lt h)

end Report

/-! ## The greedy choice loses no candidate -/

namespace Candidate

/-- The walk puts every candidate on one of its two sides. -/
theorem scan_perm (cursor : Int) (cs : List Candidate) :
    ((scan cursor cs).accepted ++ (scan cursor cs).rejected).Perm cs := by
  induction cs generalizing cursor with
  | nil => exact .nil
  | cons c cs ih =>
      rw [scan]
      split
      · exact (ih c.stop).cons c
      · exact List.perm_middle.trans ((ih cursor).cons c)

/-- The walk accepts the first candidate, unless it starts before the cursor. -/
theorem scan_accepted_eq_nil_iff {cursor : Int} {cs : List Candidate}
    (h : ∀ c ∈ cs, cursor ≤ c.start) : (scan cursor cs).accepted = [] ↔ cs = [] := by
  cases cs with
  | nil => simp [scan]
  | cons c cs => simp [scan, h c (List.mem_cons_self ..)]

end Candidate

/-- The greedy choice puts every candidate on one of its two sides. -/
theorem Resolver.perm_greedy (cs : List Candidate) :
    ((greedy cs).accepted ++ (greedy cs).rejected).Perm cs :=
  (Candidate.scan_perm 0 _).trans (List.mergeSort_perm _ _)

namespace Report

variable (r : Report)

theorem greedy_perm : ((Resolver.greedy r.candidates).accepted ++
    (Resolver.greedy r.candidates).rejected).Perm r.candidates :=
  Resolver.perm_greedy _

theorem greedy_accepted_eq_nil_iff :
    (Resolver.greedy r.candidates).accepted = [] ↔ r.candidates = [] := by
  rw [Resolver.greedy, Candidate.scan_accepted_eq_nil_iff]
  · rw [← List.length_eq_zero_iff, Candidate.sort, List.length_mergeSort, List.length_eq_zero_iff]
  · intro c hc
    exact (admits_of_mem_candidates (Candidate.mem_sort.1 hc)).1

theorem nodup_map_order_greedy :
    ((Resolver.greedy r.candidates).accepted.map (·.order) ++
      (Resolver.greedy r.candidates).rejected.map (·.order)).Nodup := by
  rw [← List.map_append]
  exact (r.greedy_perm.map _).nodup_iff.2 r.nodup_map_order_candidates

theorem mem_candidates_of_mem_accepted {c : Candidate}
    (hc : c ∈ (Resolver.greedy r.candidates).accepted) : c ∈ r.candidates :=
  r.greedy_perm.mem_iff.1 (List.mem_append_left _ hc)

theorem mem_candidates_of_mem_rejected {c : Candidate}
    (hc : c ∈ (Resolver.greedy r.candidates).rejected) : c ∈ r.candidates :=
  r.greedy_perm.mem_iff.1 (List.mem_append_right _ hc)

/-! ## The diagnostics that remain -/

/-- The places of the diagnostics that remain when some candidates are applied. -/
def placesLeft (applied : List Candidate) : List Nat :=
  (List.range r.diagnostics.length).filter fun i => applied.all fun c => c.order != (i : Int)

/-- The places of the diagnostics that are taken out of the report then. -/
def placesTaken (applied : List Candidate) : List Nat :=
  (List.range r.diagnostics.length).filter fun i => !applied.all fun c => c.order != (i : Int)

variable {r}

theorem mem_placesLeft_iff {applied : List Candidate} {i : Nat} : i ∈ r.placesLeft applied ↔
    i < r.diagnostics.length ∧ ∀ c ∈ applied, c.order ≠ i := by
  simp [placesLeft]

/-- Pruning keeps the diagnostics at the places left, in their order. -/
theorem map_diagnostics_prune (r : Report) (applied : List Candidate) :
    (r.prune applied).diagnostics.map some =
      (r.placesLeft applied).map (r.diagnostics[·]?) := by
  have hplaces : r.placesLeft applied = (r.diagnostics.zipIdx.filter fun x =>
      applied.all fun c => c.order != x.2).map (·.2) := by
    have hfilter := List.filter_map (f := Prod.snd) (l := r.diagnostics.zipIdx)
      (p := fun i : Nat => applied.all fun c => c.order != i)
    rw [List.zipIdx_map_snd, ← List.range_eq_range'] at hfilter
    exact hfilter
  have hkept : (r.prune applied).diagnostics = (r.diagnostics.zipIdx.filter fun x =>
      applied.all fun c => c.order != x.2).map (·.1) := by
    simp only [prune, List.not_any_eq_all_not, bne]
  rw [hplaces, hkept, List.map_map, List.map_map]
  refine List.map_congr_left fun x hx => ?_
  exact (List.mem_zipIdx_iff_getElem?.1 (List.mem_filter.1 hx).1).symm

theorem length_diagnostics_prune (r : Report) (applied : List Candidate) :
    (r.prune applied).diagnostics.length = (r.placesLeft applied).length := by
  have h := congrArg List.length (r.map_diagnostics_prune applied)
  rwa [List.length_map, List.length_map] at h

/-- A diagnostic remains if no applied candidate has its place. -/
theorem mem_diagnostics_prune {applied : List Candidate} {i : Nat} {d : Diagnostic}
    (hd : r.diagnostics[i]? = some d) (hleft : ∀ c ∈ applied, c.order ≠ i) :
    d ∈ (r.prune applied).diagnostics := by
  have hplace := mem_placesLeft_iff.2 ⟨(List.getElem?_eq_some_iff.1 hd).1, hleft⟩
  have hmem := List.mem_map_of_mem (f := (r.diagnostics[·]?)) hplace
  rw [← map_diagnostics_prune, hd] at hmem
  simpa using hmem

/-- No applied candidate has the place of a diagnostic that offers no edit. -/
theorem order_ne_of_edit?_eq_none {i : Nat} {d : Diagnostic} (hd : r.diagnostics[i]? = some d)
    (hnone : d.edit? (.ofText r.source) = none) :
    ∀ c ∈ (Resolver.greedy r.candidates).accepted, c.order ≠ i := by
  intro c hc hi
  -- an applied candidate at this place is this diagnostic with an edit
  obtain ⟨j, hj, hdiag, hedit⟩ := mem_candidates_iff.1 (r.mem_candidates_of_mem_accepted hc)
  have hij : j = i := Int.ofNat.inj (hj.symm.trans hi)
  rw [hij, hd] at hdiag
  rw [← Option.some_inj.1 hdiag, hnone] at hedit
  simp at hedit

/-- No applied candidate has the place of one that was left. -/
theorem order_ne_of_mem_rejected {c' : Candidate}
    (hc' : c' ∈ (Resolver.greedy r.candidates).rejected) :
    ∀ c ∈ (Resolver.greedy r.candidates).accepted, c.order ≠ c'.order := fun _ hc =>
  (List.nodup_append.1 r.nodup_map_order_greedy).2.2 _ (List.mem_map_of_mem hc) _
    (List.mem_map_of_mem hc')

theorem mem_placesTaken_iff {applied : List Candidate} {i : Nat} : i ∈ r.placesTaken applied ↔
    i < r.diagnostics.length ∧ ∃ c ∈ applied, c.order = i := by
  simp [placesTaken]

/-- Every place belongs to a diagnostic that is taken out or to one that is left. -/
theorem length_placesTaken_add (applied : List Candidate) :
    (r.placesTaken applied).length + (r.placesLeft applied).length = r.diagnostics.length := by
  have hsplit := List.length_eq_length_filter_add
    (l := List.range r.diagnostics.length) fun i => applied.all fun c => c.order != (i : Int)
  rw [List.length_range] at hsplit
  rw [Nat.add_comm]
  exact hsplit.symm

/-- The diagnostics that are taken out have the places of the applied candidates. -/
theorem map_placesTaken_perm {applied : List Candidate}
    (hmem : ∀ c ∈ applied, c ∈ r.candidates) (hnodup : (applied.map (·.order)).Nodup) :
    ((r.placesTaken applied).map Int.ofNat).Perm (applied.map (·.order)) := by
  have hplaces : ((r.placesTaken applied).map Int.ofNat).Nodup :=
    List.pairwise_map.2 ((List.nodup_range.filter _).imp fun hne h => hne (Int.ofNat.inj h))
  refine (List.perm_ext_iff_of_nodup hplaces hnodup).2 fun o => ?_
  simp only [List.mem_map, mem_placesTaken_iff]
  constructor
  · rintro ⟨i, ⟨-, c, hc, hi⟩, rfl⟩
    exact ⟨c, hc, hi⟩
  · rintro ⟨c, hc, rfl⟩
    obtain ⟨i, hi, hd, -⟩ := mem_candidates_iff.1 (hmem c hc)
    exact ⟨i, ⟨(List.getElem?_eq_some_iff.1 hd).1, c, hc, hi⟩, hi.symm⟩

/-- Every applied candidate takes one diagnostic out of the report. -/
theorem length_add_length_placesLeft {applied : List Candidate}
    (hmem : ∀ c ∈ applied, c ∈ r.candidates) (hnodup : (applied.map (·.order)).Nodup) :
    applied.length + (r.placesLeft applied).length = r.diagnostics.length := by
  have hlen := (map_placesTaken_perm hmem hnodup).length_eq
  rw [List.length_map, List.length_map] at hlen
  rw [← hlen, length_placesTaken_add]

/-- **Every candidate and every diagnostic is accounted for.**  A repair applies some candidates
and leaves the others.  The report keeps its path and its text, and it keeps exactly the
diagnostics whose places no applied candidate has, in their order: among them those that offer no
edit within the text and those whose candidates were left.  Nothing is applied only if there is no
candidate at all. -/
theorem repair_accounts (r : Report) :
    ∃ o, r.repair = .ok o ∧
      (o.accepted ++ o.rejected).Perm r.candidates ∧ (r.candidates.map (·.order)).Nodup ∧
      o.report.path = r.path ∧ o.report.source = r.source ∧
      o.report.diagnostics.map some = (r.placesLeft o.accepted).map (r.diagnostics[·]?) ∧
      o.accepted.length + o.report.diagnostics.length = r.diagnostics.length ∧
      (∀ (i : Nat) d, r.diagnostics[i]? = some d →
        ((∀ producer e, d.fix = some producer →
            producer (.ofText r.source) = .ok (some e) →
              ¬(EditFactory.ofText r.source).Admits e.range) ∨
          ∃ c ∈ o.rejected, c.order = i) → i ∈ r.placesLeft o.accepted) ∧
      (o.patch.changed = false ↔ r.candidates = []) ∧
      (o.patch.changed = false → o.rejected = []) := by
  have hperm := r.greedy_perm
  have hchanged : r.repaired.patch.changed = false ↔ r.candidates = [] := by
    rw [← r.greedy_accepted_eq_nil_iff]
    simp [repaired]
  refine ⟨r.repaired, r.repair_eq_ok, hperm, r.nodup_map_order_candidates, rfl, rfl,
    r.map_diagnostics_prune _, ?_, ?_, hchanged, ?_⟩
  · rw [← length_add_length_placesLeft (fun c hc => r.mem_candidates_of_mem_accepted hc)
      (List.nodup_append.1 r.nodup_map_order_greedy).1]
    exact congrArg _ (r.length_diagnostics_prune _)
  · intro i d hd hcause
    refine mem_placesLeft_iff.2 ⟨(List.getElem?_eq_some_iff.1 hd).1, ?_⟩
    rcases hcause with hnone | ⟨c', hc', hi'⟩
    · exact order_ne_of_edit?_eq_none hd (Diagnostic.edit?_eq_none_iff.2 hnone)
    · rw [← hi']
      exact order_ne_of_mem_rejected hc'
  · intro hnone
    have hlen := hperm.length_eq
    rw [congrArg List.length (hchanged.1 hnone), List.length_append] at hlen
    exact List.eq_nil_of_length_eq_zero (Nat.eq_zero_of_add_eq_zero_left hlen)

end Report

end SolidityLint
