import SolidityLint.Proofs.Files.Ground
import SolidityLint.Repair.Batch

/-!
# What a job does to its file

A job writes one file at most, the one that its report is about (`RepairJob.place`).  Its answer
does not depend on the tree (`RepairJob.stored`), and what it leaves in its file depends on the
tree only if it does not write (`RepairJob.leaves`).  So jobs that repair different files do not
get in each other's way: a batch of them does what each of them does alone (`Independent.runAll`).
-/

namespace SolidityLint

namespace Report

/-- Whatever the resolver, a repair is given up or it is not. -/
theorem repairSafely_cases (resolver : Resolver) (r : Report) :
    (∃ overlap, r.repairSafely resolver = .abandoned r overlap) ∨
      ∃ pruned patch accepted rejected, pruned.path = r.path ∧
        r.repairSafely resolver = ⟨r, pruned, patch, accepted, rejected, false, none⟩ := by
  simp only [repairSafely, repairWith]
  cases Edit.applyAll r.source ((resolver r.candidates).accepted.map (·.edit)) with
  | error overlap => exact .inl ⟨overlap, rfl⟩
  | ok patch =>
      simp only [Except.map]
      split
      · exact .inr ⟨r.prune (resolver r.candidates).accepted, _, _, _, rfl, rfl⟩
      · exact .inr ⟨r, _, _, _, rfl, rfl⟩

/-- An outcome says what was given, and has nothing written yet. -/
theorem repairSafely_keeps (resolver : Resolver) (r : Report) :
    let o := r.repairSafely resolver
    o.given = r ∧ o.report.path = r.path ∧ o.written = false := by
  rcases r.repairSafely_cases resolver with ⟨overlap, h⟩ | ⟨_, _, _, _, hpath, h⟩
  · rw [h]
    exact ⟨rfl, rfl, rfl⟩
  · rw [h]
    exact ⟨rfl, hpath, rfl⟩

/-- A repair that is given up changes nothing. -/
theorem needsWrite_of_skipped {resolver : Resolver} {r : Report}
    (hskipped : (r.repairSafely resolver).skipped.isSome = true) :
    (r.repairSafely resolver).needsWrite = false := by
  rcases r.repairSafely_cases resolver with ⟨overlap, h⟩ | ⟨_, _, _, _, -, h⟩
  · rw [h]
    rfl
  · rw [h] at hskipped
    exact Bool.noConfusion hskipped

end Report

namespace RepairJob

/-! ## The file of a job -/

/-- The path of the file that a job repairs. -/
def path (job : RepairJob) : Path :=
  .ofText job.report.path

/-- The place of that file. -/
def place (t : Tree) (job : RepairJob) : Location :=
  job.path.resolve t.here

/-- Does a job rewrite its file? -/
def writes (dryRun : Bool) (job : RepairJob) : Bool :=
  !dryRun && job.outcome.needsWrite

/-- The bytes of the text after the repair. -/
def bytes (job : RepairJob) : Bytes :=
  Utf8.encode job.outcome.patch.output

/-- The answer of a job that was carried out. -/
def stored (dryRun : Bool) (job : RepairJob) : Outcome :=
  { job.outcome with written := job.writes dryRun }

/-- What lies at the place of the file when the job is done. -/
def leaves (dryRun : Bool) (t : Tree) (job : RepairJob) : Option Bytes :=
  if job.writes dryRun then some job.bytes else t.bytesAt? (job.place t)

/-- Does a job succeed on a tree? -/
def Succeeds (dryRun : Bool) (t : Tree) (job : RepairJob) : Prop :=
  ∃ o u, job.run dryRun t = .ok (o, u)

variable {dryRun : Bool} {t u v : Tree} {job : RepairJob} {jobs : List RepairJob} {o : Outcome}

theorem path_outcome (job : RepairJob) : Path.ofText job.outcome.report.path = job.path :=
  congrArg Path.ofText (job.report.repairSafely_keeps job.resolver).2.1

theorem not_writes (dryRun : Bool) (job : RepairJob) :
    (dryRun || !job.outcome.needsWrite) = !job.writes dryRun := by
  rw [writes, Bool.not_and, Bool.not_not]

/-- A job that does not write answers the outcome as it is. -/
theorem stored_eq_outcome (h : job.writes dryRun = false) : job.stored dryRun = job.outcome := by
  rw [stored, h, ← (job.report.repairSafely_keeps job.resolver).2.2]
  rfl

/-- A job that writes says so. -/
theorem stored_eq_written (h : job.writes dryRun = true) :
    job.stored dryRun = { job.outcome with written := true } := by
  rw [stored, h]

/-- A job that is given up does not write. -/
theorem writes_of_skipped (h : (job.stored dryRun).skipped.isSome = true) :
    job.writes dryRun = false := by
  have hneeded : job.outcome.needsWrite = false := Report.needsWrite_of_skipped h
  rw [writes, hneeded, Bool.and_false]

/-- A job writes the text after the repair, or it does nothing. -/
theorem run_eq (dryRun : Bool) (t : Tree) (job : RepairJob) :
    job.run dryRun t =
      if job.writes dryRun then (t.write job.path job.bytes).map (job.stored dryRun, ·)
      else .ok (job.stored dryRun, t) := by
  rw [run, Outcome.store, not_writes, path_outcome]
  cases hwrites : job.writes dryRun with
  | true => rw [stored_eq_written hwrites]; rfl
  | false => rw [stored_eq_outcome hwrites]; rfl

theorem run_eq_ok_iff : job.run dryRun t = .ok (o, u) ↔ o = job.stored dryRun ∧
    if job.writes dryRun then t.write job.path job.bytes = .ok u else u = t := by
  rw [run_eq]
  split
  · cases t.write job.path job.bytes with
    | error error => simp [Except.map]
    | ok v => simp [Except.map, eq_comm]
  · simp [eq_comm]

theorem succeeds_iff : job.Succeeds dryRun t ↔
    (job.writes dryRun = true → ∃ u, t.write job.path job.bytes = .ok u) := by
  simp only [Succeeds, run_eq_ok_iff]
  cases job.writes dryRun <;> simp

/-- Whether a job succeeds depends on the ground of the tree. -/
theorem succeeds_congr (h : t.SameGround u) : job.Succeeds dryRun u ↔ job.Succeeds dryRun t := by
  rw [succeeds_iff, succeeds_iff, h.exists_write_iff]

/-- A job changes the bytes of its file only. -/
theorem bytesAt?_of_run (h : job.run dryRun t = .ok (o, u)) (k : Location) :
    u.bytesAt? k = if k = job.place t then job.leaves dryRun t else t.bytesAt? k := by
  obtain ⟨-, htree⟩ := run_eq_ok_iff.1 h
  rw [leaves]
  split at htree
  · rename_i hwrites
    rw [if_pos hwrites]
    exact Tree.bytesAt?_of_write htree k
  · rename_i hnone
    rw [if_neg hnone, htree]
    split
    · rename_i hplace
      rw [hplace]
    · rfl

theorem sameGround_of_run (hway : job.writes dryRun = true → t.HasWay (job.place t))
    (h : job.run dryRun t = .ok (o, u)) : t.SameGround u := by
  obtain ⟨-, htree⟩ := run_eq_ok_iff.1 h
  split at htree
  · rename_i hwrites
    exact Tree.sameGround_of_write (hway hwrites) htree
  · exact htree ▸ .refl t

theorem sameShape_of_run (hfile : job.writes dryRun = true → t.hasFile (job.place t) = true)
    (h : job.run dryRun t = .ok (o, u)) : t.SameShape u := by
  obtain ⟨-, htree⟩ := run_eq_ok_iff.1 h
  split at htree
  · rename_i hwrites
    exact Tree.sameShape_of_write (hfile hwrites) htree
  · exact htree ▸ .refl t

theorem place_congr (h : t.SameGround u) : job.place u = job.place t := by
  rw [place, place, h.here]

theorem leaves_congr (h : t.SameGround u)
    (hbytes : u.bytesAt? (job.place t) = t.bytesAt? (job.place t)) :
    job.leaves dryRun u = job.leaves dryRun t := by
  rw [leaves, leaves, place_congr h, hbytes]

/-! ## Batches -/

/-- A dry run answers what each job answers, and changes nothing. -/
theorem runAll_true (t : Tree) (jobs : List RepairJob) :
    runAll true t jobs = ⟨t, .ok (jobs.map (·.stored true))⟩ := by
  induction jobs with
  | nil => rfl
  | cons job jobs ih =>
      have hrun : job.run true t = .ok (job.stored true, t) := run_eq_ok_iff.2 ⟨rfl, rfl⟩
      simp only [runAll, hrun, ih, Except.map, List.map_cons]

/-- Rewriting files that are there keeps the shape of a tree. -/
theorem sameShape_runAll (dryRun : Bool)
    (hfiles : ∀ job ∈ jobs, job.writes dryRun = true → t.hasFile (job.place t) = true) :
    t.SameShape (runAll dryRun t jobs).tree := by
  induction jobs generalizing t with
  | nil => exact .refl t
  | cons job jobs ih =>
      obtain ⟨hfile, hrest⟩ := List.forall_mem_cons.1 hfiles
      rw [runAll]
      cases hrun : job.run dryRun t with
      | error error => exact .refl t
      | ok result =>
          have hshape := sameShape_of_run hfile hrun
          refine hshape.trans (ih fun g hg hwrites => ?_)
          rw [hshape.hasFile, place, hshape.here]
          exact hrest g hg hwrites

/-! ## Jobs on different files -/

/-- Jobs at different places of a list repair different files. -/
theorem place_ne_of_getElem? (hdistinct : jobs.Pairwise fun a b => a.place t ≠ b.place t)
    {i j : Nat} {a b : RepairJob} (hi : jobs[i]? = some a) (hj : jobs[j]? = some b) (hij : i ≠ j) :
    a.place t ≠ b.place t := by
  have hnodup : (jobs.map (·.place t)).Nodup := List.pairwise_map.2 hdistinct
  intro heq
  refine hij ((List.getElem?_inj ?_ hnodup).1 ?_)
  · rw [List.length_map]
    exact (List.getElem?_eq_some_iff.1 hi).1
  · rw [List.getElem?_map, List.getElem?_map, hi, hj]
    exact congrArg some heq

/-- Each file holds what its job leaves there, and all else is as it was in `t`. -/
structure LeftBy (dryRun : Bool) (t : Tree) (jobs : List RepairJob) (u : Tree) : Prop where
  files : ∀ job ∈ jobs, u.bytesAt? (job.place t) = job.leaves dryRun t
  rest : ∀ k, (∀ job ∈ jobs, k ≠ job.place t) → u.bytesAt? k = t.bytesAt? k

namespace LeftBy

/-- Jobs leave the same bytes everywhere, however they were carried out. -/
theorem bytesAt?_eq (h : LeftBy dryRun t jobs u) (h' : LeftBy dryRun t jobs v) :
    u.bytesAt? = v.bytesAt? := by
  funext k
  by_cases hk : ∃ job ∈ jobs, k = job.place t
  · obtain ⟨job, hjob, rfl⟩ := hk
    rw [h.files job hjob, h'.files job hjob]
  · have hk' : ∀ job ∈ jobs, k ≠ job.place t := fun job hjob heq => hk ⟨job, hjob, heq⟩
    rw [h.rest k hk', h'.rest k hk']

/-- A job that writes nothing makes no difference. -/
theorem insert (hdistinct : jobs.Pairwise fun a b => a.place t ≠ b.place t) {i : Nat}
    (hi : jobs[i]? = some job) (hsilent : job.writes dryRun = false)
    (h : LeftBy dryRun t (jobs.eraseIdx i) u) : LeftBy dryRun t jobs u where
  files g hg := by
    obtain ⟨j, hj⟩ := List.mem_iff_getElem?.1 hg
    by_cases hij : j = i
    · rw [hij, hi, Option.some_inj] at hj
      rw [← hj, leaves, hsilent]
      -- the place of the job is none of the others
      refine h.rest _ fun other hother => ?_
      obtain ⟨k, hk, hplace⟩ := List.mem_eraseIdx_iff_getElem?.1 hother
      exact place_ne_of_getElem? hdistinct hi hplace (Ne.symm hk)
    · exact h.files g (List.mem_eraseIdx_iff_getElem?.2 ⟨j, hij, hj⟩)
  rest k hk := h.rest k fun g hg => hk g (List.mem_of_mem_eraseIdx hg)

end LeftBy

/-- Jobs that repair different files, each of which can be carried out on its own. -/
structure Independent (dryRun : Bool) (t : Tree) (jobs : List RepairJob) : Prop where
  distinct : jobs.Pairwise fun a b => a.place t ≠ b.place t
  way : ∀ job ∈ jobs, job.writes dryRun = true → t.HasWay (job.place t)
  succeeds : ∀ job ∈ jobs, job.Succeeds dryRun t

namespace Independent

/-- Where a job succeeds, the directories on the way to its file are there. -/
theorem of_succeeds (hhere : t.hasDirectory t.here = true)
    (hdistinct : jobs.Pairwise fun a b => a.place t ≠ b.place t)
    (hsucceeds : ∀ job ∈ jobs, job.Succeeds dryRun t) : Independent dryRun t jobs where
  distinct := hdistinct
  way job hjob hwrites :=
    have ⟨_, hwrite⟩ := succeeds_iff.1 (hsucceeds job hjob) hwrites
    Tree.hasWay_of_write hhere hwrite
  succeeds := hsucceeds

theorem sublist (h : Independent dryRun t jobs) {some : List RepairJob}
    (hsome : List.Sublist some jobs) : Independent dryRun t some :=
  ⟨h.distinct.sublist hsome, fun job hjob => h.way job (hsome.mem hjob),
    fun job hjob => h.succeeds job (hsome.mem hjob)⟩

theorem congr (h : Independent dryRun t jobs) (hground : t.SameGround u) :
    Independent dryRun u jobs where
  distinct := h.distinct.imp fun hne => by rwa [place_congr hground, place_congr hground]
  way job hjob hwrites := by
    rw [place_congr hground]
    exact hground.hasWay (h.way job hjob hwrites)
  succeeds job hjob := (succeeds_congr hground).2 (h.succeeds job hjob)

/-- **Jobs that repair different files do not get in each other's way.**  A batch answers what each
job answers alone, and it leaves in each file what the job leaves there alone. -/
theorem runAll (h : Independent dryRun t jobs) :
    ∃ u, RepairJob.runAll dryRun t jobs = ⟨u, .ok (jobs.map (·.stored dryRun))⟩ ∧
      t.SameGround u ∧ LeftBy dryRun t jobs u := by
  induction jobs generalizing t with
  | nil => exact ⟨t, rfl, .refl t, by simp, fun _ _ => rfl⟩
  | cons job jobs ih =>
      obtain ⟨hne, -⟩ := List.pairwise_cons.1 h.distinct
      obtain ⟨o, after, hrun⟩ := h.succeeds job (List.mem_cons_self ..)
      have hground := sameGround_of_run (h.way job (List.mem_cons_self ..)) hrun
      have hbytes := bytesAt?_of_run hrun
      obtain ⟨u, hall, hground', hleaves, hrest⟩ :=
        ih ((h.sublist (List.sublist_cons_self ..)).congr hground)
      simp only [place_congr hground] at hleaves hrest
      refine ⟨u, ?_, hground.trans hground', List.forall_mem_cons.2 ⟨?_, fun g hg => ?_⟩,
        fun k hk => ?_⟩
      · rw [RepairJob.runAll, hrun]
        simp only [hall, Except.map, List.map_cons, (run_eq_ok_iff.1 hrun).1]
      · rw [hrest _ hne, hbytes, if_pos rfl]
      · -- the file of a later job is still as it was
        rw [hleaves g hg, leaves_congr hground]
        rw [hbytes, if_neg (Ne.symm (hne g hg))]
      · obtain ⟨hjob, hjobs⟩ := List.forall_mem_cons.1 hk
        rw [hrest k hjobs, hbytes, if_neg hjob]

end Independent

/-- A batch whose writes succeed consists of jobs that succeed alone. -/
theorem succeeds_of_runAll (hhere : t.hasDirectory t.here = true) {outcomes : List Outcome}
    (h : (runAll dryRun t jobs).outcomes = .ok outcomes) : ∀ job ∈ jobs, job.Succeeds dryRun t := by
  induction jobs generalizing t outcomes with
  | nil => simp
  | cons job jobs ih =>
      rw [runAll] at h
      cases hrun : job.run dryRun t with
      | error error => simp [hrun] at h
      | ok result =>
          obtain ⟨o, after⟩ := result
          have hjob : job.Succeeds dryRun t := ⟨o, after, hrun⟩
          have hground : t.SameGround after := sameGround_of_run
            (fun hwrites =>
              have ⟨_, hwrite⟩ := succeeds_iff.1 hjob hwrites
              Tree.hasWay_of_write hhere hwrite) hrun
          simp only [hrun, map_eq_ok_iff] at h
          obtain ⟨os, hrest, -⟩ := h
          refine List.forall_mem_cons.2 ⟨hjob, fun g hg => (succeeds_congr hground).1 ?_⟩
          exact ih (hground.hasDirectory_here hhere) hrest g hg

end RepairJob

end SolidityLint
