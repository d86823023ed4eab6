import SolidityLint.Proofs.Repair.Account
import SolidityLint.Proofs.Repair.Job
import SolidityLint.Proofs.Text.Utf8

/-!
# A batch rewrites its files

The reports of a batch are about files that hold the texts of the reports (`Tree.Holds`).  No write
fails then, whatever the resolvers of the jobs: every file holds the text after the repair, and what
is read elsewhere stays the same (`runAll_of_holds`).  No two of the files are the same.
-/

namespace SolidityLint

/-! ## Files and their texts -/

namespace Tree

variable {t u : Tree} {p q : Path} {source text : Text}

/-- The file that a path leads to holds a text. -/
def Holds (t : Tree) (p : Path) (source : Text) : Prop :=
  ∃ bytes, t.read p = .ok bytes ∧ Utf8.decode bytes = .ok source

theorem holds_iff_read : t.Holds p source ↔ t.read p = .ok (Utf8.encode source) := by
  simp [Holds, Utf8.decode_eq_ok_iff]

theorem holds_iff : t.Holds p source ↔
    ∃ l, t.locate p = .ok l ∧ t.bytesAt? l = some (Utf8.encode source) := by
  rw [holds_iff_read, read_eq_ok_iff]

theorem Holds.bytesAt? (h : t.Holds p source) :
    t.bytesAt? (p.resolve t.here) = some (Utf8.encode source) := by
  obtain ⟨l, hlocate, hbytes⟩ := holds_iff.1 h
  rwa [← locate_eq_resolve hlocate]

theorem Holds.hasFile (h : t.Holds p source) : t.hasFile (p.resolve t.here) = true := by
  rw [Tree.hasFile, h.bytesAt?]
  rfl

theorem Holds.exists_write (h : t.Holds p source) (bytes : Bytes) :
    ∃ u, t.write p bytes = .ok u := by
  obtain ⟨l, hlocate, -⟩ := holds_iff.1 h
  have hfile := h.hasFile
  rw [← locate_eq_resolve hlocate] at hfile
  exact Tree.exists_write hlocate hfile bytes

/-- In a tree of the same shape a file holds the text that its bytes are written for. -/
theorem Holds.of_bytesAt? (h : t.Holds p source) (hshape : t.SameShape u)
    (hbytes : u.bytesAt? (p.resolve t.here) = some (Utf8.encode text)) : u.Holds p text := by
  obtain ⟨l, hlocate, -⟩ := holds_iff.1 h
  rw [← locate_eq_resolve hlocate] at hbytes
  exact holds_iff.2 ⟨l, by rw [hshape.locate, hlocate], hbytes⟩

/-- A file holds its text also when another file is written. -/
theorem Holds.of_write {bytes : Bytes} (h : t.Holds p source)
    (hne : p.resolve t.here ≠ q.resolve t.here) (hwrite : t.write q bytes = .ok u) :
    u.Holds p source :=
  holds_iff_read.2 (read_of_write hne hwrite (holds_iff_read.1 h))

/-- A path that leads to the place of a file leads where its path leads. -/
theorem Holds.ne_resolve (h : t.Holds p source) (hne : t.locate q ≠ t.locate p) {l : Location}
    (hq : t.locate q = .ok l) : l ≠ p.resolve t.here := by
  obtain ⟨k, hlocate, -⟩ := holds_iff.1 h
  rintro rfl
  rw [← locate_eq_resolve hlocate] at hq
  exact hne (hq.trans hlocate.symm)

end Tree

/-! ## Texts after a repair -/

/-- Where the file need not be rewritten, the text after a repair is the one before. -/
theorem Report.output_of_needsWrite_eq_false {resolver : Resolver} {r : Report}
    (h : (r.repairSafely resolver).needsWrite = false) :
    (r.repairSafely resolver).patch.output = r.source := by
  rw [Outcome.needsWrite, (r.repairSafely_keeps resolver).1, Bool.and_eq_false_iff] at h
  rcases h with hunchanged | hsame
  · rw [repairSafely, repairWith, Edit.applyAll] at hunchanged ⊢
    -- a repair that changes nothing applies no edit, or it is given up
    cases hedits : (resolver r.candidates).accepted with
    | nil => rfl
    | cons c cs =>
        rw [hedits] at hunchanged
        cases hsweep : Edit.sweep r.source 0 ((c :: cs).map (·.edit)) with
        | error overlap => rfl
        | ok output =>
            rw [hsweep] at hunchanged
            exact absurd hunchanged (by simp [Except.map])
  · simpa using hsame

namespace RepairJob

variable {t : Tree} {job : RepairJob} {jobs : List RepairJob}

/-- The text that the file of a job holds in the end. -/
def finalText (dryRun : Bool) (job : RepairJob) : Text :=
  if dryRun then job.report.source else job.outcome.patch.output

theorem leaves_of_holds (dryRun : Bool) (h : t.Holds job.path job.report.source) :
    job.leaves dryRun t = some (Utf8.encode (job.finalText dryRun)) := by
  rw [leaves, finalText, writes]
  cases dryRun with
  | true => exact h.bytesAt?
  | false =>
      cases hneeded : job.outcome.needsWrite with
      | true => rfl
      | false =>
          have houtput : job.outcome.patch.output = job.report.source :=
            Report.output_of_needsWrite_eq_false hneeded
          rw [houtput]
          exact h.bytesAt?

/-- A job writes if the text after the repair is another one. -/
theorem written_stored_iff (dryRun : Bool) (job : RepairJob) :
    (job.stored dryRun).written = true ↔
      dryRun = false ∧ job.outcome.patch.output ≠ job.report.source := by
  have hgiven : job.outcome.given = job.report := (job.report.repairSafely_keeps job.resolver).1
  rw [stored, writes, Bool.and_eq_true, Bool.not_eq_true']
  refine and_congr_right fun _ => ⟨fun hneeded => ?_, fun hne => ?_⟩
  · rw [Outcome.needsWrite, hgiven, Bool.and_eq_true, bne_iff_ne] at hneeded
    exact hneeded.2
  · cases hneeded : job.outcome.needsWrite with
    | true => rfl
    | false => exact absurd (Report.output_of_needsWrite_eq_false hneeded) hne

theorem succeeds_of_holds (dryRun : Bool) (h : t.Holds job.path job.report.source) :
    job.Succeeds dryRun t :=
  succeeds_iff.2 fun _ => h.exists_write _

/-- Jobs whose files hold the texts of their reports can be carried out. -/
theorem Independent.of_holds (dryRun : Bool)
    (hholds : ∀ job ∈ jobs, t.Holds job.path job.report.source)
    (hdistinct : jobs.Pairwise fun a b => a.place t ≠ b.place t) : Independent dryRun t jobs where
  distinct := hdistinct
  way job hjob _ := Tree.hasWay_of_hasFile (hholds job hjob).hasFile
  succeeds job hjob := succeeds_of_holds dryRun (hholds job hjob)

/-- **A batch rewrites its files and no others.** -/
theorem runAll_of_holds (dryRun : Bool)
    (hholds : ∀ job ∈ jobs, t.Holds job.path job.report.source)
    (hdistinct : jobs.Pairwise fun a b => a.place t ≠ b.place t) :
    ∃ u, runAll dryRun t jobs = ⟨u, .ok (jobs.map (·.stored dryRun))⟩ ∧ t.SameShape u ∧
      (∀ job ∈ jobs, u.Holds job.path (job.finalText dryRun)) ∧
      ∀ q, (∀ job ∈ jobs, t.locate q ≠ t.locate job.path) → u.read q = t.read q := by
  obtain ⟨u, hall, -, hleft⟩ :=
    (Independent.of_holds dryRun hholds hdistinct).runAll
  have hshape := sameShape_runAll dryRun fun job hjob _ => (hholds job hjob).hasFile
  rw [hall] at hshape
  refine ⟨u, hall, hshape, fun job hjob => ?_, fun q hq => ?_⟩
  · refine (hholds job hjob).of_bytesAt? hshape ?_
    rw [← leaves_of_holds dryRun (hholds job hjob)]
    exact hleft.files job hjob
  · exact Tree.read_congr hshape fun l hl =>
      hleft.rest l fun job hjob => (hholds job hjob).ne_resolve (hq job hjob) hl

/-! ## Two files with a tab -/

/-- A job for a file with a tab, which is to be removed so many times. -/
def tabJob (name : String) (times : Nat) : RepairJob :=
  ⟨⟨name.toList, "\t\n".toList,
    List.replicate times ⟨[], .warning, [], ⟨0, 1⟩, some (.ofFactory (·.remove ⟨0, 1⟩))⟩⟩,
    .acceptAll⟩

/-- Jobs for two files, in one of which the tab is to be removed twice. -/
def tabJobs : List RepairJob :=
  [tabJob "A.sol" 2, tabJob "B.sol" 1]

/-- A current directory with these files. -/
def tabTree : Tree :=
  ⟨[(["A.sol".toList], Utf8.encode "\t\n".toList), (["B.sol".toList], Utf8.encode "\t\n".toList)],
    [], []⟩

theorem holds_tabJobs : ∀ job ∈ tabJobs, tabTree.Holds job.path job.report.source := by
  rw [tabJobs, List.forall_mem_cons, List.forall_mem_singleton]
  exact ⟨⟨_, rfl, Utf8.decode_encode _⟩, ⟨_, rfl, Utf8.decode_encode _⟩⟩

theorem pairwise_tabJobs : tabJobs.Pairwise fun a b => a.place tabTree ≠ b.place tabTree := by
  have hplaces : (tabJob "A.sol" 2).place tabTree = ["A.sol".toList] ∧
      (tabJob "B.sol" 1).place tabTree = ["B.sol".toList] := ⟨rfl, rfl⟩
  rw [tabJobs, List.pairwise_pair, hplaces.1, hplaces.2]
  decide

end RepairJob

end SolidityLint
