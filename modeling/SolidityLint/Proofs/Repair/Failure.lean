import SolidityLint.Proofs.Files.Disk
import SolidityLint.Proofs.Repair.Batch

/-!
# A write that fails

The jobs of a batch are carried out here on a disk, which may refuse to open a file or stop while a
file is written.  On a disk that does neither the batch is carried out as it is (`runAllOn_sound`).

* `runAllOn_eq_error_iff`: a batch fails exactly where the first of its writes fails
  (`FailsFirst`).
* `rewrites_of_runAllOn`: up to there the batch goes as it does on a disk that takes everything.
* `stops_at_failure`: so the files before hold the texts after their repairs, and all files but the
  one that was written when the disk failed are as they were.  That file is as it was only if it
  was not opened.
* `cut_on_full_disk`: otherwise it may be left with a part of its text.
-/

namespace SolidityLint

namespace RepairJob

variable {ε : Type} {d : Disk ε} {t u v after : Tree} {job g : RepairJob} {jobs : List RepairJob}
  {k : Nat} {e : WriteError ε} {o : Outcome} {os : List Outcome}

/-! ## Batches on a disk -/

/-- Runs a job on a disk: the tree after the job, and the outcome or the reason of the failure. -/
def runOn (d : Disk ε) (t : Tree) (job : RepairJob) : Tree × Except (WriteError ε) Outcome :=
  if job.writes false then
    (d.write t job.path job.bytes).map id (·.map fun _ => job.stored false)
  else (t, .ok (job.stored false))

/-- Runs jobs on a disk, one after the other until a write fails. -/
def runAllOn (d : Disk ε) : Tree → List RepairJob → Tree × Except (WriteError ε) (List Outcome)
  | t, [] => (t, .ok [])
  | t, job :: jobs =>
      match job.runOn d t with
      | (after, .error e) => (after, .error e)
      | (after, .ok o) => (runAllOn d after jobs).map id (·.map (o :: ·))

theorem runOn_eq_error_iff : job.runOn d t = (u, .error e) ↔
    job.writes false = true ∧ d.write t job.path job.bytes = (u, .error e) := by
  rw [runOn]
  cases job.writes false with
  | true => simp [Prod.ext_iff, map_eq_error_iff]
  | false => simp

/-- What a job has done on a disk, it would have done without the disk. -/
theorem run_of_runOn (h : job.runOn d t = (u, .ok o)) : job.run false t = .ok (o, u) := by
  rw [runOn] at h
  rw [run_eq_ok_iff]
  split at h
  · rename_i hwrites
    obtain ⟨hu, ho⟩ := Prod.mk.inj h
    obtain ⟨done, hdone, rfl⟩ := map_eq_ok_iff.1 ho
    obtain ⟨opened, -, -, hwrite⟩ := Disk.write_eq_ok_iff.1 (Prod.ext hu hdone)
    exact ⟨rfl, by rw [if_pos hwrites, hwrite]⟩
  · rename_i hsilent
    obtain ⟨rfl, ho⟩ := Prod.mk.inj h
    exact ⟨(Except.ok.inj ho).symm, by rw [if_neg hsilent]⟩

/-- A disk that opens every file and takes all bytes makes no difference to a job. -/
theorem runOn_sound (t : Tree) (job : RepairJob) :
    job.runOn (Disk.sound : Disk ε) t =
      match job.run false t with
      | .error error => (t, .error (.path error))
      | .ok (o, after) => (after, .ok o) := by
  rw [runOn, run_eq, Disk.write_sound]
  cases job.writes false with
  | true => cases t.write job.path job.bytes <;> rfl
  | false => rfl

/-- Nor to a batch. -/
theorem runAllOn_sound (t : Tree) (jobs : List RepairJob) :
    runAllOn (Disk.sound : Disk ε) t jobs =
      ((runAll false t jobs).tree, (runAll false t jobs).outcomes.mapError .path) := by
  induction jobs generalizing t with
  | nil => rfl
  | cons job jobs ih =>
      rw [runAllOn, runAll, runOn_sound]
      cases job.run false t with
      | error error => rfl
      | ok result =>
          simp only [ih]
          cases (runAll false result.2 jobs).outcomes <;> rfl

/-! ## The first failure -/

theorem runAllOn_cons_eq_ok_iff : runAllOn d t (job :: jobs) = (u, .ok os) ↔
    ∃ o after rest, job.runOn d t = (after, .ok o) ∧ runAllOn d after jobs = (u, .ok rest) ∧
      o :: rest = os := by
  rw [runAllOn]
  obtain ⟨after, result⟩ := job.runOn d t
  cases result with
  | error e => simp
  | ok o => simp [Prod.ext_iff, map_eq_ok_iff, and_assoc]

theorem runAllOn_cons_eq_error_iff : runAllOn d t (job :: jobs) = (u, .error e) ↔
    job.runOn d t = (u, .error e) ∨
      ∃ o after, job.runOn d t = (after, .ok o) ∧ runAllOn d after jobs = (u, .error e) := by
  rw [runAllOn]
  obtain ⟨after, result⟩ := job.runOn d t
  cases result with
  | error e => simp
  | ok o => simp [Prod.ext_iff, map_eq_error_iff]

/-- The write of the job at place `k` is the first that fails: the jobs before it have led to the
tree `v`, and there it fails for the reason `e` and leaves the tree `u`. -/
structure FailsFirst (d : Disk ε) (t : Tree) (jobs : List RepairJob) (k : Nat) (job : RepairJob)
    (v u : Tree) (e : WriteError ε) : Prop where
  before : ∃ os, runAllOn d t (jobs.take k) = (v, .ok os)
  place : jobs[k]? = some job
  writes : job.writes false = true
  fails : d.write v job.path job.bytes = (u, .error e)

theorem exists_failsFirst_zero_iff : (∃ g v, FailsFirst d t (job :: jobs) 0 g v u e) ↔
    job.runOn d t = (u, .error e) := by
  rw [runOn_eq_error_iff]
  constructor
  · rintro ⟨g, v, ⟨_, hbefore⟩, hplace, hwrites, hfails⟩
    obtain ⟨rfl, -⟩ := Prod.mk.inj hbefore
    obtain rfl := Option.some.inj hplace
    exact ⟨hwrites, hfails⟩
  · rintro ⟨hwrites, hfails⟩
    exact ⟨job, t, ⟨[], rfl⟩, rfl, hwrites, hfails⟩

theorem failsFirst_succ_iff : FailsFirst d t (job :: jobs) (k + 1) g v u e ↔
    ∃ o after, job.runOn d t = (after, .ok o) ∧ FailsFirst d after jobs k g v u e := by
  constructor
  · rintro ⟨⟨_, hbefore⟩, hplace, hwrites, hfails⟩
    rw [List.take_succ_cons] at hbefore
    obtain ⟨o, after, rest, hrun, hrest, -⟩ := runAllOn_cons_eq_ok_iff.1 hbefore
    exact ⟨o, after, hrun, ⟨rest, hrest⟩, hplace, hwrites, hfails⟩
  · rintro ⟨o, after, hrun, ⟨rest, hrest⟩, hplace, hwrites, hfails⟩
    exact ⟨⟨o :: rest, runAllOn_cons_eq_ok_iff.2 ⟨o, after, rest, hrun, hrest, rfl⟩⟩, hplace,
      hwrites, hfails⟩

/-- **A batch fails exactly where the first of its writes fails**, and for the same reason. -/
theorem runAllOn_eq_error_iff :
    runAllOn d t jobs = (u, .error e) ↔ ∃ k g v, FailsFirst d t jobs k g v u e := by
  induction jobs generalizing t with
  | nil =>
      refine iff_of_false (fun h => by simp [runAllOn] at h) ?_
      rintro ⟨k, g, v, -, hplace, -⟩
      simp at hplace
  | cons job jobs ih =>
      rw [runAllOn_cons_eq_error_iff]
      constructor
      · rintro (hnow | ⟨o, after, hrun, hlater⟩)
        · exact ⟨0, exists_failsFirst_zero_iff.2 hnow⟩
        · obtain ⟨k, g, v, hk⟩ := ih.1 hlater
          exact ⟨k + 1, g, v, failsFirst_succ_iff.2 ⟨o, after, hrun, hk⟩⟩
      · rintro ⟨_ | k, g, v, hk⟩
        · exact .inl (exists_failsFirst_zero_iff.1 ⟨g, v, hk⟩)
        · obtain ⟨o, after, hrun, hlater⟩ := failsFirst_succ_iff.1 hk
          exact .inr ⟨o, after, hrun, ih.2 ⟨k, g, v, hlater⟩⟩

/-! ## The files after a failure -/

/-- Up to a failure a batch goes as it does on a disk that takes everything. -/
theorem runAll_of_runAllOn (h : runAllOn d t jobs = (u, .ok os)) :
    runAll false t jobs = ⟨u, .ok os⟩ := by
  induction jobs generalizing t os with
  | nil =>
      obtain ⟨rfl, hos⟩ := Prod.mk.inj h
      rw [runAll, Except.ok.inj hos]
  | cons job jobs ih =>
      obtain ⟨o, after, rest, hrun, hrest, rfl⟩ := runAllOn_cons_eq_ok_iff.1 h
      simp only [runAll, run_of_runOn hrun, ih hrest, Except.map]

/-- A batch that comes to its end on a disk rewrites its files and no others. -/
theorem rewrites_of_runAllOn (h : runAllOn d t jobs = (v, .ok os))
    (hholds : ∀ g ∈ jobs, t.Holds g.path g.report.source)
    (hdistinct : jobs.Pairwise fun a b => a.place t ≠ b.place t) :
    t.SameShape v ∧ (∀ g ∈ jobs, v.Holds g.path g.outcome.patch.output) ∧
      ∀ l, (∀ g ∈ jobs, l ≠ g.place t) → v.bytesAt? l = t.bytesAt? l := by
  have hrun := runAll_of_runAllOn h
  obtain ⟨w, hall, hshape, hnew, -⟩ := runAll_of_holds false hholds hdistinct
  obtain ⟨w', hall', -, hleft⟩ := (Independent.of_holds false hholds hdistinct).runAll
  -- all three batches are one, and come to one tree
  obtain rfl : w = v := congrArg BatchResult.tree (hall.symm.trans hrun)
  obtain rfl : w' = w := congrArg BatchResult.tree (hall'.symm.trans hall)
  exact ⟨hshape, hnew, hleft.rest⟩

/-- A write that fails leaves the other files with their texts. -/
theorem holds_of_write_eq_error {p q : Path} {source : Text} {bytes : Bytes}
    (h : d.write t p bytes = (u, .error e)) (hholds : t.Holds q source)
    (hne : q.resolve t.here ≠ p.resolve t.here) : u.Holds q source := by
  rcases Disk.write_eq_error_iff.1 h with ⟨-, rfl⟩ | ⟨_, _, _, -, -, -, hwrite⟩
  · exact hholds
  · exact hholds.of_write hne hwrite

/-- **A batch stops at the first write that fails, and leaves a clean front.**  Whatever the reason
of the failure, the batch fails with it.  The files of the jobs before hold the texts after their
repairs, provided that they held the texts of their reports.  The files of the later jobs are
neither made nor changed, and nothing else is.  The file of the job that failed is as it was only if
it could not be opened; otherwise it holds the bytes that the disk took of the text after the
repair. -/
theorem stops_at_failure (d : Disk ε) {t : Tree} {jobs : List RepairJob}
    (hdistinct : jobs.Pairwise fun a b => a.place t ≠ b.place t) :
    runAllOn (Disk.sound : Disk ε) t jobs =
      ((runAll false t jobs).tree, (runAll false t jobs).outcomes.mapError .path) ∧
    (∀ u e, runAllOn d t jobs = (u, .error e) ↔ ∃ k job v, FailsFirst d t jobs k job v u e) ∧
    ∀ k job v u e, FailsFirst d t jobs k job v u e →
      (∀ g ∈ jobs.take k, t.Holds g.path g.report.source) →
      (∀ g ∈ jobs.take k, u.Holds g.path g.outcome.patch.output) ∧
      (∀ g ∈ jobs.drop (k + 1), u.bytesAt? (g.place t) = t.bytesAt? (g.place t)) ∧
      (∀ l, (∀ g ∈ jobs.take (k + 1), l ≠ g.place t) → u.bytesAt? l = t.bytesAt? l) ∧
      t.SameShape v ∧
      (d.openFile v job.path = .error e ∧ v = u ∧
          u.bytesAt? (job.place t) = t.bytesAt? (job.place t) ∨
        ∃ opened n cause, d.openFile v job.path = .ok opened ∧
          d.stop? opened job.path job.bytes = some (n, cause) ∧ e = .disk cause ∧
          u.bytesAt? (job.place t) = some (job.bytes.take n)) := by
  refine ⟨runAllOn_sound t jobs, fun u e => runAllOn_eq_error_iff,
    fun k job v u e hfirst hholds => ?_⟩
  obtain ⟨hk, hjob⟩ := List.getElem?_eq_some_iff.1 hfirst.place
  have hfront : jobs.take (k + 1) = jobs.take k ++ [job] := by
    rw [← hjob, List.take_append_getElem]
  have hback : jobs.drop k = job :: jobs.drop (k + 1) := by
    rw [← hjob, List.drop_eq_getElem_cons]
  have hsplit := hdistinct
  rw [← List.take_append_drop k jobs, List.pairwise_append, hback, List.pairwise_cons] at hsplit
  obtain ⟨hamong, ⟨hlater, -⟩, hapart⟩ := hsplit
  obtain ⟨os, hbefore⟩ := hfirst.before
  obtain ⟨hshape, hnew, hsame⟩ := rewrites_of_runAllOn hbefore hholds hamong
  have hplace : job.path.resolve v.here = job.place t := by rw [place, hshape.here]
  have hrest : ∀ l, (∀ g ∈ jobs.take k, l ≠ g.place t) → l ≠ job.place t →
      u.bytesAt? l = t.bytesAt? l := fun l hl hne => by
    rw [Disk.bytesAt?_of_write_eq_error hfirst.fails (hplace ▸ hne), hsame l hl]
  refine ⟨fun g hg => ?_, fun g hg => hrest _ (fun other hother => ?_) (hlater g hg).symm,
    fun l hl => ?_, hshape, ?_⟩
  · refine holds_of_write_eq_error hfirst.fails (hnew g hg) ?_
    rw [hplace, hshape.here]
    exact hapart g hg job (List.mem_cons_self ..)
  · exact (hapart other hother g (List.mem_cons_of_mem _ hg)).symm
  · rw [hfront, List.forall_mem_append, List.forall_mem_singleton] at hl
    exact hrest l hl.1 hl.2
  · rcases Disk.write_eq_error_iff.1 hfirst.fails with
      ⟨hclosed, rfl⟩ | ⟨opened, n, cause, hopened, hstop, hcause, hwrite⟩
    · exact .inl ⟨hclosed, rfl, hsame _ fun g hg =>
        (hapart g hg job (List.mem_cons_self ..)).symm⟩
    · refine .inr ⟨opened, n, cause, hopened, hstop, hcause, ?_⟩
      rw [Tree.bytesAt?_of_write hwrite, if_pos hplace.symm]

/-- Jobs for four files with a tab; the edits for the first one overlap. -/
def fourTabJobs : List RepairJob :=
  tabJobs ++ [tabJob "C.sol" 1, tabJob "D.sol" 1]

/-- A current directory with these files. -/
def fourTabTree : Tree :=
  ⟨["A.sol", "B.sol", "C.sol", "D.sol"].map fun name =>
    ([name.toList], Utf8.encode "\t\n".toList), [], []⟩

/-- The third file is protected: the first one is left as it is, the second one is rewritten, the
third one is not opened, and the last one is not reached. -/
theorem stops_at_protected_file :
    let d := Disk.protecting ["C.sol".toList]
    ∃ u, runAllOn d fourTabTree fourTabJobs = (u, .error (.disk .accessDenied)) ∧
      u.Holds (.ofText "A.sol".toList) "\t\n".toList ∧
      u.Holds (.ofText "B.sol".toList) "\n".toList ∧
      u.bytesAt? ["C.sol".toList] = fourTabTree.bytesAt? ["C.sol".toList] ∧
      u.bytesAt? ["D.sol".toList] = fourTabTree.bytesAt? ["D.sol".toList] := by
  intro d
  have hdistinct : fourTabJobs.Pairwise fun a b => a.place fourTabTree ≠ b.place fourTabTree := by
    decide
  have hfront : fourTabJobs.take 2 = [tabJob "A.sol" 2, tabJob "B.sol" 1] := rfl
  have hback : fourTabJobs.drop 3 = [tabJob "D.sol" 1] := rfl
  have hfirst : FailsFirst d fourTabTree fourTabJobs 2 (tabJob "C.sol" 1)
      (runAllOn d fourTabTree fourTabJobs).1 (runAllOn d fourTabTree fourTabJobs).1
      (.disk .accessDenied) := ⟨⟨_, rfl⟩, rfl, rfl, rfl⟩
  have hholds : ∀ g ∈ fourTabJobs.take 2, fourTabTree.Holds g.path g.report.source := by
    rw [hfront, List.forall_mem_cons, List.forall_mem_singleton]
    exact ⟨⟨_, rfl, Utf8.decode_encode _⟩, ⟨_, rfl, Utf8.decode_encode _⟩⟩
  obtain ⟨-, herror, hfiles⟩ := stops_at_failure d hdistinct
  obtain ⟨hbefore, hbehind, -, -, hown⟩ := hfiles 2 _ _ _ _ hfirst hholds
  rw [hfront] at hbefore
  rw [hback, List.forall_mem_singleton] at hbehind
  refine ⟨_, (herror _ _).2 ⟨2, _, _, hfirst⟩, hbefore _ (List.mem_cons_self ..),
    hbefore _ (List.mem_cons_of_mem _ (List.mem_singleton_self _)), ?_, hbehind⟩
  rcases hown with ⟨-, -, hsame⟩ | ⟨opened, n, cause, -, hstop, -⟩
  · exact hsame
  · -- a disk that protects a file never stops behind its opening
    simp [d, Disk.protecting] at hstop

/-- A job for a file with a tab, for which four blanks are to be put. -/
def indentJob (name : String) : RepairJob where
  report := ⟨name.toList, "\t\n".toList,
    [⟨[], .warning, [], ⟨0, 1⟩, some (.ofFactory (·.replace ⟨0, 1⟩ "    ".toList))⟩]⟩

/-- **A file may be left cut.**  The disk has room for three more bytes, which the first file takes.
The second one is opened, which frees its two bytes, and these are all that is written of the text
after its repair. -/
theorem cut_on_full_disk :
    let d := Disk.ofCapacity 7
    let jobs := [indentJob "A.sol", indentJob "B.sol"]
    (∀ g ∈ jobs, tabTree.Holds g.path g.report.source) ∧
    (jobs.Pairwise fun a b => a.place tabTree ≠ b.place tabTree) ∧
    ∃ v u, FailsFirst d tabTree jobs 1 (indentJob "B.sol") v u (.disk .noSpace) ∧
      u.bytesAt? ["B.sol".toList] = some (Utf8.encode "  ".toList) ∧
      u.bytesAt? ["B.sol".toList] ≠ tabTree.bytesAt? ["B.sol".toList] := by
  intro d jobs
  have hwrites : (indentJob "A.sol").writes false = true ∧
      (indentJob "B.sol").writes false = true := ⟨by decide +kernel, by decide +kernel⟩
  have hbytes : (indentJob "A.sol").bytes = Utf8.encode "    \n".toList ∧
      (indentJob "B.sol").bytes = Utf8.encode "    \n".toList :=
    ⟨by decide +kernel, by decide +kernel⟩
  -- after the first job, and after the write that fails
  let v := tabTree.put ["A.sol".toList] (Utf8.encode "    \n".toList)
  let u := v.put ["B.sol".toList] (Utf8.encode "  ".toList)
  have hbefore : runAllOn d tabTree (jobs.take 1) =
      (v, .ok [(indentJob "A.sol").stored false]) := by
    simp only [jobs, List.take_succ_cons, List.take_zero, runAllOn, runOn, hwrites.1, hbytes.1]
    rfl
  have hfails : d.write v (indentJob "B.sol").path (indentJob "B.sol").bytes =
      (u, .error (.disk .noSpace)) := by
    rw [hbytes.2]
    rfl
  refine ⟨?_, by decide, v, u, ⟨⟨_, hbefore⟩, rfl, hwrites.2, hfails⟩, rfl, by decide⟩
  rw [List.forall_mem_cons, List.forall_mem_singleton]
  exact ⟨⟨_, rfl, Utf8.decode_encode _⟩, ⟨_, rfl, Utf8.decode_encode _⟩⟩

end RepairJob

end SolidityLint
