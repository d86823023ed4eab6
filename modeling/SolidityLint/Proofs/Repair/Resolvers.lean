import SolidityLint.Proofs.Repair.Batch
import Mathlib.Data.List.Forall2

/-!
# Whatever the resolver

The applier does not trust the resolver: it gives up on edits that are not in order.  So a resolver
can accept what it likes of the candidates of a report, in any order and as often as it likes, and
still the file is repaired as it should be (`RepairJob.CarriedOut`) or not touched at all
(`RepairJob.GivenUp`).

* `repairSafely_of_overlap`: edits that are not in order are noticed before anything is done.
* `carriedOut_or_givenUp`: there is no third way for any job of a batch.
-/

namespace SolidityLint

namespace Resolver

/-- Does a resolver accept none but the candidates of a report? -/
def DrawsFrom (resolver : Resolver) (r : Report) : Prop :=
  ∀ c ∈ (resolver r.candidates).accepted, c ∈ r.candidates

theorem drawsFrom_acceptAll (r : Report) : acceptAll.DrawsFrom r :=
  fun _ hc => hc

end Resolver

namespace Report

variable {resolver : Resolver} {r : Report}

/-- The edits accepted lie within the text. -/
theorem admits_of_drawsFrom (h : resolver.DrawsFrom r) :
    ∀ e ∈ (resolver r.candidates).accepted.map (·.edit),
      0 ≤ e.range.start ∧ e.range.start ≤ e.range.stop ∧
        e.range.stop ≤ (r.source.length : Int) := by
  rw [List.forall_mem_map]
  exact fun c hc => admits_of_mem_candidates (h c hc)

/-- A repair whose edits are in order is carried out. -/
theorem repairSafely_of_inOrder
    (h : Edit.InOrder r.source.length 0 ((resolver r.candidates).accepted.map (·.edit))) :
    r.repairSafely resolver = r.repairedBy resolver := by
  rw [repairSafely, repairWith_eq_ok h]

/-- A repair whose edits are not in order is given up. -/
theorem repairSafely_of_overlap (hdrawn : resolver.DrawsFrom r)
    (h : ¬Edit.InOrder r.source.length 0 ((resolver r.candidates).accepted.map (·.edit))) :
    ∃ overlap, r.repairSafely resolver = .abandoned r overlap := by
  obtain ⟨overlap, hsweep⟩ := Edit.exists_sweep_eq_error r.source (Int.natCast_nonneg _)
    (fun e he => (admits_of_drawsFrom hdrawn e he).2) h
  refine ⟨overlap, ?_⟩
  rw [repairSafely, repairWith, Edit.applyAll, hsweep]
  rfl

end Report

namespace RepairJob

/-- The edits that the resolver of a job accepts. -/
def edits (job : RepairJob) : List Edit :=
  (job.resolver job.report.candidates).accepted.map (·.edit)

/-- The repair of a job was carried out: its edits are sorted and do not overlap, and the file holds
the text after them, or on a dry run the text before. -/
structure CarriedOut (dryRun : Bool) (u : Tree) (job : RepairJob) (o : Outcome) : Prop where
  sorted : job.edits.Pairwise fun a b => a.range.start ≤ b.range.start
  apart : job.edits.Pairwise fun a b => a.range.stop ≤ b.range.start
  answer : { o with written := false } = job.report.repairedBy job.resolver
  length : (o.patch.output.length : Int) = job.report.source.length + (job.edits.map Edit.delta).sum
  written : o.written = true ↔ dryRun = false ∧ o.patch.output ≠ job.report.source
  holds : u.Holds job.path (if dryRun then job.report.source else o.patch.output)

/-- The repair of a job was given up: its edits overlap or are not sorted, and the file, the text
and the report are as they were. -/
structure GivenUp (t u : Tree) (job : RepairJob) (o : Outcome) : Prop where
  overlaps : ¬job.edits.Pairwise fun a b => a.range.stop ≤ b.range.start
  skipped : o.skipped.isSome
  patch : o.patch = ⟨false, job.report.source⟩
  written : o.written = false
  report : o.report = job.report
  accepted : o.accepted = []
  rejected : o.rejected = []
  untouched : u.read job.path = t.read job.path

variable {dryRun : Bool} {t u : Tree} {job : RepairJob} {jobs : List RepairJob}

theorem carriedOut_stored (hdrawn : job.resolver.DrawsFrom job.report)
    (h : Edit.InOrder job.report.source.length 0 job.edits)
    (hafter : u.Holds job.path (job.finalText dryRun)) :
    CarriedOut dryRun u job (job.stored dryRun) := by
  have houtcome : job.outcome = job.report.repairedBy job.resolver :=
    Report.repairSafely_of_inOrder h
  have hadmits := Report.admits_of_drawsFrom hdrawn
  refine ⟨?_, h.pairwise, ?_, ?_, written_stored_iff dryRun job, hafter⟩
  · refine h.pairwise.imp_of_mem fun {a b} ha _ hab => ?_
    exact Int.le_trans (hadmits a ha).2.1 hab
  · rw [stored, houtcome]
    rfl
  · have hlength := Edit.length_patched (Int.le_refl 0) h
    rw [Int.sub_zero] at hlength
    rw [stored, houtcome]
    exact hlength

theorem givenUp_stored (hdrawn : job.resolver.DrawsFrom job.report)
    (h : ¬Edit.InOrder job.report.source.length 0 job.edits)
    (hbefore : t.Holds job.path job.report.source)
    (hafter : u.Holds job.path (job.finalText dryRun)) :
    GivenUp t u job (job.stored dryRun) := by
  obtain ⟨overlap, houtcome⟩ := Report.repairSafely_of_overlap hdrawn h
  have houtcome : job.outcome = .abandoned job.report overlap := houtcome
  have hstored : job.stored dryRun = .abandoned job.report overlap := by
    rw [stored, writes, houtcome]
    cases dryRun <;> rfl
  have hfinal : job.finalText dryRun = job.report.source := by
    rw [finalText, houtcome]
    cases dryRun <;> rfl
  rw [hstored]
  refine ⟨fun hpairs => h ?_, rfl, rfl, rfl, rfl, rfl, rfl, ?_⟩
  · exact Edit.inOrder_of_pairwise (Int.natCast_nonneg _) (Report.admits_of_drawsFrom hdrawn) hpairs
  · rw [hfinal, Tree.holds_iff_read] at hafter
    rw [hafter, Tree.holds_iff_read.1 hbefore]

/-- **No resolver can spoil a file.**  Let the files of a batch hold the texts of its reports, and
let each resolver accept what it likes of the candidates: in any order, overlapping, again and
again.  Then every repair of the batch is carried out or given up, and what is read elsewhere stays
the same. -/
theorem carriedOut_or_givenUp (dryRun : Bool) {t : Tree} {jobs : List RepairJob}
    (hholds : ∀ job ∈ jobs, t.Holds job.path job.report.source)
    (hdistinct : jobs.Pairwise fun a b => a.place t ≠ b.place t)
    (hdrawn : ∀ job ∈ jobs, job.resolver.DrawsFrom job.report) :
    ∃ outcomes u, runAll dryRun t jobs = ⟨u, .ok outcomes⟩ ∧
      List.Forall₂ (fun job o => CarriedOut dryRun u job o ∨ GivenUp t u job o) jobs outcomes ∧
      ∀ q, (∀ job ∈ jobs, t.locate q ≠ t.locate job.path) → u.read q = t.read q := by
  obtain ⟨u, hall, -, hafter, hread⟩ := runAll_of_holds dryRun hholds hdistinct
  refine ⟨_, u, hall, ?_, hread⟩
  rw [List.forall₂_map_right_iff, List.forall₂_same]
  intro job hjob
  by_cases h : Edit.InOrder job.report.source.length 0 job.edits
  · exact .inl (carriedOut_stored (hdrawn job hjob) h (hafter job hjob))
  · exact .inr (givenUp_stored (hdrawn job hjob) h (hholds job hjob) (hafter job hjob))

/-- The job that removes a tab twice is given up, and the one that removes it once is not. -/
theorem carriedOut_or_givenUp_of_tabs :
    ∃ o o' u, runAll false tabTree tabJobs = ⟨u, .ok [o, o']⟩ ∧
      GivenUp tabTree u (tabJob "A.sol" 2) o ∧ CarriedOut false u (tabJob "B.sol" 1) o' := by
  have hdrawn : ∀ job ∈ tabJobs, job.resolver.DrawsFrom job.report := by
    rw [tabJobs, List.forall_mem_cons, List.forall_mem_singleton]
    exact ⟨Resolver.drawsFrom_acceptAll _, Resolver.drawsFrom_acceptAll _⟩
  obtain ⟨outcomes, u, hall, hways, -⟩ :=
    carriedOut_or_givenUp false holds_tabJobs pairwise_tabJobs hdrawn
  obtain ⟨o, rest, htwice, hlast, rfl⟩ := List.forall₂_cons_left_iff.1 hways
  obtain ⟨o', rest', honce, hnone, rfl⟩ := List.forall₂_cons_left_iff.1 hlast
  rw [List.forall₂_nil_left_iff.1 hnone] at hall
  -- the two edits of the first job overlap, and the other job has one edit only
  have htwo : (tabJob "A.sol" 2).edits = [⟨⟨0, 1⟩, []⟩, ⟨⟨0, 1⟩, []⟩] := rfl
  have hone : (tabJob "B.sol" 1).edits = [⟨⟨0, 1⟩, []⟩] := rfl
  refine ⟨o, o', u, hall, htwice.resolve_left fun h => ?_, honce.resolve_right fun h => ?_⟩
  · have hapart := h.apart
    rw [htwo, List.pairwise_pair] at hapart
    exact absurd hapart (by decide)
  · refine h.overlaps ?_
    rw [hone]
    exact List.pairwise_singleton ..

end RepairJob

end SolidityLint
