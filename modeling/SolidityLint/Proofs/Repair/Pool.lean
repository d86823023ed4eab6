import SolidityLint.Proofs.Repair.Batch
import SolidityLint.Repair.Pool
import Mathlib.Data.List.InsertIdx
import Mathlib.Data.List.Nodup

/-!
# The order of the steps does not matter

Jobs that repair different files can be carried out together in any order of their steps.  At every
moment a file is as its job has left it so far (`RepairJob.Fits`), whatever the other jobs did
meanwhile, and every other place is as it was.  One step keeps this (`Sound.step`), hence so does
every schedule (`Sound.play`).  In the end each job has answered what it answers alone, and its file
holds what it leaves there alone (`runTogether_eq_alone`).
-/

namespace SolidityLint

/-! ## Collecting outcomes -/

namespace Progress

variable {ps : List Progress} {outcomes : List Outcome} {error : FileError}

/-- Outcomes are collected only if every job is done and none of the writes failed. -/
theorem eq_map_of_collect (h : collect ps = some (.ok outcomes)) :
    ps = outcomes.map fun o => done (.ok o) := by
  induction ps generalizing outcomes with
  | nil =>
      rw [collect, Option.some_inj, Except.ok.injEq] at h
      rw [← h, List.map_nil]
  | cons p ps ih =>
      cases p with
      | done result =>
          cases result with
          | error error => simp [collect] at h
          | ok o =>
              simp only [collect, Option.map_eq_some_iff, map_eq_ok_iff] at h
              obtain ⟨_, hrest, os, rfl, rfl⟩ := h
              rw [List.map_cons, ← ih hrest]
      | _ => simp [collect] at h

/-- The number of steps that a job has before it at most. -/
def stepsLeft : Progress → Nat
  | waiting => 3
  | repaired _ => 2
  | opened _ => 1
  | done _ => 0

theorem eq_done_of_stepsLeft_eq_zero {p : Progress} (h : p.stepsLeft = 0) :
    ∃ result, p = done result := by
  cases p with
  | done result => exact ⟨result, rfl⟩
  | _ => simp [stepsLeft] at h

/-- If no job has a step before it, then the outcomes are collected, or a write has failed. -/
theorem collect_of_stepsLeft (h : ∀ p ∈ ps, p.stepsLeft = 0) :
    (∃ outcomes, collect ps = some (.ok outcomes)) ∨
      ∃ error, collect ps = some (.error error) ∧ done (.error error) ∈ ps := by
  induction ps with
  | nil => exact .inl ⟨[], rfl⟩
  | cons p ps ih =>
      obtain ⟨hp, hrest⟩ := List.forall_mem_cons.1 h
      obtain ⟨result, rfl⟩ := eq_done_of_stepsLeft_eq_zero hp
      cases result with
      | error error => exact .inr ⟨error, rfl, List.mem_cons_self ..⟩
      | ok o =>
          rw [collect]
          rcases ih hrest with ⟨os, hos⟩ | ⟨error, herror, hmem⟩
          · exact .inl ⟨o :: os, by rw [hos]; rfl⟩
          · exact .inr ⟨error, by rw [herror]; rfl, List.mem_cons_of_mem _ hmem⟩

end Progress

/-! ## The steps of one job -/

namespace RepairJob

variable {dryRun : Bool} {t u v : Tree} {job : RepairJob} {jobs : List RepairJob}
  {progress next : Progress} {bytes : Bytes}

/-- How far a job has come shows in its file: `t` is the tree at the start, `u` is the tree now. -/
def Fits (dryRun : Bool) (t u : Tree) (job : RepairJob) : Progress → Prop
  | .waiting => u.bytesAt? (job.place t) = t.bytesAt? (job.place t)
  | .repaired o => o = job.outcome ∧ u.bytesAt? (job.place t) = t.bytesAt? (job.place t)
  | .opened o => o = job.outcome ∧ job.writes dryRun = true ∧ job.Succeeds dryRun t ∧
      u.bytesAt? (job.place t) = some []
  | .done (.ok o) => o = job.stored dryRun ∧ job.Succeeds dryRun t ∧
      u.bytesAt? (job.place t) = job.leaves dryRun t
  | .done (.error _) => ¬job.Succeeds dryRun t

theorem Fits.congr (h : job.Fits dryRun t u progress)
    (hbytes : v.bytesAt? (job.place t) = u.bytesAt? (job.place t)) :
    job.Fits dryRun t v progress := by
  cases progress with
  | done result =>
      cases result with
      | ok o => exact ⟨h.1, h.2.1, hbytes.trans h.2.2⟩
      | error error => exact h
  | waiting => exact hbytes.trans h
  | repaired o => exact ⟨h.1, hbytes.trans h.2⟩
  | opened o => exact ⟨h.1, h.2.1, h.2.2.1, hbytes.trans h.2.2.2⟩

/-- A step that writes succeeds or fails as a write at the start would have done. -/
theorem writeStep_cases (hhere : t.hasDirectory t.here = true) (hground : t.SameGround u)
    (hwrites : job.writes dryRun = true)
    (h : writeStep u job.outcome bytes progress = (v, next)) :
    (job.Succeeds dryRun t ∧ next = progress ∧ t.SameGround v ∧
        ∀ k, v.bytesAt? k = if k = job.place t then some bytes else u.bytesAt? k) ∨
      ¬job.Succeeds dryRun t ∧ v = u ∧ ∃ error, next = .done (.error error) := by
  have hsucceeds : job.Succeeds dryRun t ↔ ∃ w, u.write job.path bytes = .ok w := by
    rw [succeeds_iff, hground.exists_write_iff bytes job.bytes]
    exact forall_prop_of_true hwrites
  rw [writeStep, path_outcome] at h
  cases hwrite : u.write job.path bytes with
  | ok w =>
      rw [hwrite, Prod.mk.injEq] at h
      obtain ⟨rfl, rfl⟩ := h
      have hway := Tree.hasWay_of_write (hground.hasDirectory_here hhere) hwrite
      refine .inl ⟨hsucceeds.2 ⟨_, hwrite⟩, rfl,
        hground.trans (Tree.sameGround_of_write hway hwrite), fun k => ?_⟩
      rw [Tree.bytesAt?_of_write hwrite, place, hground.here]
  | error error =>
      rw [hwrite, Prod.mk.injEq] at h
      refine .inr ⟨fun hok => ?_, h.1.symm, error, h.2.symm⟩
      obtain ⟨w, hw⟩ := hsucceeds.1 hok
      rw [hwrite] at hw
      exact absurd hw (by simp)

/-- **One step of a job** keeps the ground and what lies at other places, and the file of the job
shows how far the job has come then. -/
theorem advance_fits (hhere : t.hasDirectory t.here = true) (hground : t.SameGround u)
    (hfits : job.Fits dryRun t u progress) (h : job.advance dryRun u progress = (v, next)) :
    t.SameGround v ∧ (∀ k, k ≠ job.place t → v.bytesAt? k = u.bytesAt? k) ∧
      job.Fits dryRun t v next := by
  cases progress with
  | waiting =>
      rw [advance, Prod.mk.injEq] at h
      obtain ⟨rfl, rfl⟩ := h
      exact ⟨hground, fun _ _ => rfl, rfl, hfits⟩
  | repaired o =>
      obtain ⟨rfl, hbytes⟩ := hfits
      rw [advance, not_writes] at h
      cases hwrites : job.writes dryRun with
      | false =>
          rw [hwrites, Bool.not_false, if_pos rfl, Prod.mk.injEq] at h
          obtain ⟨rfl, rfl⟩ := h
          refine ⟨hground, fun _ _ => rfl, (stored_eq_outcome hwrites).symm, ?_, ?_⟩
          · exact succeeds_iff.2 fun hw => absurd hw (by simp [hwrites])
          · rw [leaves, hwrites, hbytes]
            rfl
      | true =>
          rw [hwrites, Bool.not_true, if_neg Bool.false_ne_true] at h
          rcases writeStep_cases hhere hground hwrites h with
            ⟨hok, rfl, hground', hwritten⟩ | ⟨hfail, rfl, error, rfl⟩
          · refine ⟨hground', fun k hk => by rw [hwritten, if_neg hk], rfl, hwrites, hok, ?_⟩
            rw [hwritten, if_pos rfl]
          · exact ⟨hground, fun _ _ => rfl, hfail⟩
  | opened o =>
      obtain ⟨rfl, hwrites, hok, -⟩ := hfits
      rcases writeStep_cases hhere hground hwrites h with
        ⟨-, rfl, hground', hwritten⟩ | ⟨hfail, -⟩
      · refine ⟨hground', fun k hk => by rw [hwritten, if_neg hk],
          (stored_eq_written hwrites).symm, hok, ?_⟩
        rw [hwritten, if_pos rfl, leaves, if_pos hwrites]
        rfl
      · exact absurd hok hfail
  | done result =>
      rw [advance, Prod.mk.injEq] at h
      obtain ⟨rfl, rfl⟩ := h
      exact ⟨hground, fun _ _ => rfl, hfits⟩

theorem stepsLeft_writeStep (o : Outcome) :
    (writeStep u o bytes progress).2.stepsLeft ≤ progress.stepsLeft := by
  rw [writeStep]
  cases u.write (.ofText o.report.path) bytes with
  | ok w => exact Nat.le_refl _
  | error error => exact Nat.zero_le _

/-- Every step brings a job closer to its end. -/
theorem stepsLeft_advance (dryRun : Bool) (u : Tree) (job : RepairJob) (progress : Progress) :
    (job.advance dryRun u progress).2.stepsLeft ≤ progress.stepsLeft - 1 := by
  cases progress with
  | waiting => exact Nat.le_refl _
  | repaired o =>
      rw [advance]
      split
      · exact Nat.zero_le _
      · exact stepsLeft_writeStep o
  | opened o => exact stepsLeft_writeStep o
  | done result => exact Nat.le_refl _

end RepairJob

/-! ## The steps of a schedule -/

namespace Pool

variable {dryRun : Bool} {t u : Tree} {jobs : List RepairJob} {pool : Pool} {i j : Nat}
  {job : RepairJob} {progress : Progress} {outcomes : List Outcome} {schedule : List Nat}

theorem step_of_none (h : pool.jobs[i]? = none) : pool.step dryRun i = pool := by
  rw [step, h]

theorem step_of_some (h : pool.jobs[i]? = some (job, progress)) :
    pool.step dryRun i = ⟨(job.advance dryRun pool.tree progress).1,
      pool.jobs.set i (job, (job.advance dryRun pool.tree progress).2)⟩ := by
  rw [step, h]

/-- A step changes one place of the pool. -/
theorem getElem?_step (dryRun : Bool) (pool : Pool) (i j : Nat) :
    (pool.step dryRun i).jobs[j]? =
      if i = j then
        pool.jobs[j]?.map fun (job, progress) =>
          (job, (job.advance dryRun pool.tree progress).2)
      else pool.jobs[j]? := by
  cases hi : pool.jobs[i]? with
  | none =>
      rw [step_of_none hi]
      split
      · rename_i hij
        rw [← hij, hi]
        rfl
      · rfl
  | some entry =>
      rw [step_of_some hi]
      split
      · rename_i hij
        rw [← hij, hi, List.getElem?_set_self (List.getElem?_eq_some_iff.1 hi).1]
        rfl
      · rename_i hij
        exact List.getElem?_set_ne hij

/-- Every file is as its job has left it so far, and all else is as it was at the start. -/
structure Sound (dryRun : Bool) (t : Tree) (jobs : List RepairJob) (pool : Pool) : Prop where
  members : pool.jobs.map (·.1) = jobs
  ground : t.SameGround pool.tree
  fits : ∀ (i : Nat) (job : RepairJob) (progress : Progress),
    pool.jobs[i]? = some (job, progress) → job.Fits dryRun t pool.tree progress
  rest : ∀ k, (∀ job ∈ jobs, k ≠ job.place t) → pool.tree.bytesAt? k = t.bytesAt? k

theorem Sound.getElem?_jobs (h : Sound dryRun t jobs pool)
    (hi : pool.jobs[i]? = some (job, progress)) : jobs[i]? = some job := by
  rw [← h.members, List.getElem?_map, hi]
  rfl

theorem sound_start (dryRun : Bool) (t : Tree) (jobs : List RepairJob) :
    Sound dryRun t jobs (start t jobs) where
  members := by
    rw [start, List.map_map]
    exact List.map_id jobs
  ground := .refl t
  fits i job progress h := by
    rw [start, List.getElem?_map, Option.map_eq_some_iff] at h
    obtain ⟨_, -, h⟩ := h
    obtain ⟨rfl, rfl⟩ := Prod.mk.inj h
    rfl
  rest _ _ := rfl

/-- **One step keeps a pool sound**, whichever job takes it. -/
theorem Sound.step (h : Sound dryRun t jobs pool) (hhere : t.hasDirectory t.here = true)
    (hdistinct : jobs.Pairwise fun a b => a.place t ≠ b.place t) (i : Nat) :
    Sound dryRun t jobs (pool.step dryRun i) := by
  cases hi : pool.jobs[i]? with
  | none => rwa [step_of_none hi]
  | some entry =>
      obtain ⟨job, progress⟩ := entry
      cases hadvance : job.advance dryRun pool.tree progress with | mk after next =>
      obtain ⟨hground, hother, hfits⟩ :=
        RepairJob.advance_fits hhere h.ground (h.fits i job progress hi) hadvance
      have hjob := h.getElem?_jobs hi
      rw [step_of_some hi, hadvance]
      refine ⟨?_, hground, fun j other stage hj => ?_, fun k hk => ?_⟩
      · obtain ⟨hlt, hget⟩ := List.getElem?_eq_some_iff.1 hjob
        rw [List.map_set, h.members, ← hget, List.set_getElem_self]
      · by_cases hij : i = j
        · rw [← hij, List.getElem?_set_self (List.getElem?_eq_some_iff.1 hi).1] at hj
          obtain ⟨rfl, rfl⟩ := Prod.mk.inj (Option.some.inj hj)
          exact hfits
        · -- the file of another job lies at another place
          rw [List.getElem?_set_ne hij] at hj
          refine (h.fits j other stage hj).congr (hother _ ?_)
          exact RepairJob.place_ne_of_getElem? hdistinct (h.getElem?_jobs hj) hjob (Ne.symm hij)
      · exact (hother k (hk job (List.mem_of_getElem? hjob))).trans (h.rest k hk)

/-- **A schedule keeps a pool sound.** -/
theorem Sound.play (h : Sound dryRun t jobs pool) (hhere : t.hasDirectory t.here = true)
    (hdistinct : jobs.Pairwise fun a b => a.place t ≠ b.place t) (schedule : List Nat) :
    Sound dryRun t jobs (pool.play dryRun schedule) := by
  induction schedule generalizing pool with
  | nil => exact h
  | cons i schedule ih => exact ih (h.step hhere hdistinct i)

/-- A job is closer to its end by the steps that a schedule gives it. -/
theorem stepsLeft_play (dryRun : Bool) (schedule : List Nat)
    (h : pool.jobs[i]? = some (job, progress)) :
    ∃ next, (pool.play dryRun schedule).jobs[i]? = some (job, next) ∧
      next.stepsLeft ≤ progress.stepsLeft - schedule.count i := by
  induction schedule generalizing pool progress with
  | nil => exact ⟨progress, h, Nat.le_refl _⟩
  | cons k schedule ih =>
      have hstep := getElem?_step dryRun pool k i
      rw [h] at hstep
      rw [List.count_cons]
      by_cases hk : k = i
      · rw [if_pos hk, Option.map_some] at hstep
        obtain ⟨next, hnext, hleft⟩ := ih hstep
        have hcloser := RepairJob.stepsLeft_advance dryRun pool.tree job progress
        refine ⟨next, hnext, ?_⟩
        rw [if_pos (beq_iff_eq.2 hk)]
        omega
      · rw [if_neg hk] at hstep
        obtain ⟨next, hnext, hleft⟩ := ih hstep
        refine ⟨next, hnext, ?_⟩
        rw [if_neg fun heq => hk (beq_iff_eq.1 heq)]
        exact hleft

/-- If every job gets its three steps, then the pool comes to an end. -/
theorem Sound.stepsLeft_eq_zero (h : Sound dryRun t jobs ((start t jobs).play dryRun schedule))
    (hturns : ∀ i < jobs.length, 3 ≤ schedule.count i) :
    ∀ progress ∈ ((start t jobs).play dryRun schedule).jobs.map (·.2),
      progress.stepsLeft = 0 := by
  rw [List.forall_mem_map]
  rintro ⟨job, progress⟩ hentry
  obtain ⟨i, hi⟩ := List.mem_iff_getElem?.1 hentry
  have hjob := h.getElem?_jobs hi
  have hstart : (start t jobs).jobs[i]? = some (job, .waiting) := by
    rw [start, List.getElem?_map, hjob]
    rfl
  obtain ⟨next, hnext, hleft⟩ := stepsLeft_play dryRun schedule hstart
  obtain ⟨-, rfl⟩ := Prod.mk.inj (Option.some.inj (hi.symm.trans hnext))
  have hthree := hturns i (List.getElem?_eq_some_iff.1 hjob).1
  have hwaiting : Progress.waiting.stepsLeft = 3 := rfl
  show progress.stepsLeft = 0
  omega

/-- When the outcomes are collected, every job is done. -/
theorem Sound.getElem?_of_collect (h : Sound dryRun t jobs pool)
    (hcollect : Progress.collect (pool.jobs.map (·.2)) = some (.ok outcomes))
    (hi : jobs[i]? = some job) :
    outcomes[i]? = some (job.stored dryRun) ∧ job.Succeeds dryRun t ∧
      pool.tree.bytesAt? (job.place t) = job.leaves dryRun t := by
  have hplace : (pool.jobs.map (·.1))[i]? = some job := by rw [h.members, hi]
  rw [List.getElem?_map, Option.map_eq_some_iff] at hplace
  obtain ⟨⟨_, progress⟩, hentry, rfl⟩ := hplace
  have hdone : (pool.jobs.map (·.2))[i]? = some progress := by rw [List.getElem?_map, hentry]; rfl
  rw [Progress.eq_map_of_collect hcollect, List.getElem?_map, Option.map_eq_some_iff] at hdone
  obtain ⟨o, ho, rfl⟩ := hdone
  obtain ⟨rfl, hok, hbytes⟩ := h.fits i _ _ hentry
  exact ⟨ho, hok, hbytes⟩

/-- When the outcomes are collected, the jobs have answered what they answer alone, and have left
in their files what they leave there alone. -/
theorem Sound.of_collect (h : Sound dryRun t jobs pool)
    (hcollect : Progress.collect (pool.jobs.map (·.2)) = some (.ok outcomes)) :
    outcomes = jobs.map (·.stored dryRun) ∧ (∀ job ∈ jobs, job.Succeeds dryRun t) ∧
      RepairJob.LeftBy dryRun t jobs pool.tree := by
  have hlength : outcomes.length = jobs.length := by
    have hdone := congrArg List.length (Progress.eq_map_of_collect hcollect)
    rw [List.length_map, List.length_map] at hdone
    rw [← h.members, List.length_map, hdone]
  refine ⟨List.ext_getElem? fun i => ?_, fun job hjob => ?_, fun job hjob => ?_, h.rest⟩
  · cases hi : jobs[i]? with
    | some job => rw [(h.getElem?_of_collect hcollect hi).1, List.getElem?_map, hi]; rfl
    | none =>
        rw [List.getElem?_map, hi, Option.map_none, List.getElem?_eq_none_iff, hlength]
        exact List.getElem?_eq_none_iff.1 hi
  · obtain ⟨i, hi⟩ := List.mem_iff_getElem?.1 hjob
    exact (h.getElem?_of_collect hcollect hi).2.1
  · obtain ⟨i, hi⟩ := List.mem_iff_getElem?.1 hjob
    exact (h.getElem?_of_collect hcollect hi).2.2

end Pool

/-! ## Batches carried out together -/

namespace RepairJob

variable {dryRun : Bool} {t u : Tree} {jobs : List RepairJob} {schedule : List Nat}
  {outcomes : List Outcome}

theorem runTogether_eq_some_iff {batch : BatchResult} :
    runTogether dryRun schedule t jobs = some batch ↔
      Progress.collect (((Pool.start t jobs).play dryRun schedule).jobs.map (·.2)) =
        some batch.outcomes ∧ ((Pool.start t jobs).play dryRun schedule).tree = batch.tree := by
  rw [runTogether, Pool.result?, Option.map_eq_some_iff]
  constructor
  · rintro ⟨_, hcollect, rfl⟩
    exact ⟨hcollect, rfl⟩
  · rintro ⟨hcollect, htree⟩
    exact ⟨_, hcollect, by rw [htree]⟩

theorem runTogether_sound (hhere : t.hasDirectory t.here = true)
    (hdistinct : jobs.Pairwise fun a b => a.place t ≠ b.place t)
    (h : runTogether dryRun schedule t jobs = some ⟨u, .ok outcomes⟩) :
    outcomes = jobs.map (·.stored dryRun) ∧ (∀ job ∈ jobs, job.Succeeds dryRun t) ∧
      LeftBy dryRun t jobs u := by
  obtain ⟨hcollect, htree⟩ := runTogether_eq_some_iff.1 h
  have hsound := (Pool.sound_start dryRun t jobs).play hhere hdistinct schedule
  obtain ⟨hanswers, hsucceeds, hleft⟩ := hsound.of_collect hcollect
  rw [htree] at hleft
  exact ⟨hanswers, hsucceeds, hleft⟩

/-- A schedule that gives every job its three steps comes to an end, and to a good one if every job
succeeds alone. -/
theorem exists_runTogether (hhere : t.hasDirectory t.here = true)
    (hdistinct : jobs.Pairwise fun a b => a.place t ≠ b.place t)
    (hturns : ∀ i < jobs.length, 3 ≤ schedule.count i) :
    ∃ batch, runTogether dryRun schedule t jobs = some batch ∧
      ((∃ outcomes, batch.outcomes = .ok outcomes) ↔ ∀ job ∈ jobs, job.Succeeds dryRun t) := by
  have hsound := (Pool.sound_start dryRun t jobs).play hhere hdistinct schedule
  rcases Progress.collect_of_stepsLeft (hsound.stepsLeft_eq_zero hturns) with
    ⟨outcomes, hcollect⟩ | ⟨error, hcollect, hmem⟩
  · refine ⟨⟨_, .ok outcomes⟩, runTogether_eq_some_iff.2 ⟨hcollect, rfl⟩, fun _ => ?_,
      fun _ => ⟨outcomes, rfl⟩⟩
    exact (hsound.of_collect hcollect).2.1
  · refine ⟨⟨_, .error error⟩, runTogether_eq_some_iff.2 ⟨hcollect, rfl⟩, ?_, fun hall => ?_⟩
    · rintro ⟨outcomes, hok⟩
      exact absurd hok (by simp)
    · -- the job whose write failed does not succeed alone either
      obtain ⟨⟨job, _⟩, hentry, rfl⟩ := List.mem_map.1 hmem
      obtain ⟨i, hi⟩ := List.mem_iff_getElem?.1 hentry
      have hfails := hsound.fits i job _ hi
      exact absurd (hall job (List.mem_of_getElem? (hsound.getElem?_jobs hi))) hfails

theorem count_inTurns {i : Nat} (hi : i < jobs.length) : (inTurns jobs).count i = 3 := by
  have hround : (List.range jobs.length).count i = 1 :=
    List.count_eq_one_of_mem List.nodup_range (List.mem_range.2 hi)
  rw [inTurns, List.count_flatten, List.map_replicate, hround]
  rfl

/-- Jobs that take turns come to an end. -/
theorem exists_runTogether_inTurns (dryRun : Bool) (hhere : t.hasDirectory t.here = true)
    (hdistinct : jobs.Pairwise fun a b => a.place t ≠ b.place t) :
    ∃ batch, runTogether dryRun (inTurns jobs) t jobs = some batch := by
  obtain ⟨batch, hbatch, -⟩ := @exists_runTogether dryRun t jobs _ hhere hdistinct
    fun _ hi => Nat.le_of_eq (count_inTurns hi).symm
  exact ⟨batch, hbatch⟩

/-- **Files are independent.**  Let jobs repair different files, and let a schedule order their
steps.  If the schedule gives every job its three steps, then the batch comes to an end, and no
write fails in it if none fails for a job alone, as it is with the jobs one after the other.
Whenever no write fails, each job has answered what it answers alone and its file holds what the
job leaves there alone, nothing else has changed, and the jobs one after the other come to the same.
A job that is given up makes no difference to the others. -/
theorem runTogether_eq_alone (dryRun : Bool) {t : Tree} {jobs : List RepairJob}
    (hhere : t.hasDirectory t.here = true)
    (hdistinct : jobs.Pairwise fun a b => a.place t ≠ b.place t) (schedule : List Nat) :
    ((∀ i < jobs.length, 3 ≤ schedule.count i) →
      ∃ batch, runTogether dryRun schedule t jobs = some batch ∧
        ((∃ outcomes, batch.outcomes = .ok outcomes) ↔ ∀ job ∈ jobs, job.Succeeds dryRun t)) ∧
    ((∃ outcomes, (runAll dryRun t jobs).outcomes = .ok outcomes) ↔
      ∀ job ∈ jobs, job.Succeeds dryRun t) ∧
    ∀ u outcomes, runTogether dryRun schedule t jobs = some ⟨u, .ok outcomes⟩ →
      outcomes.length = jobs.length ∧
      (∀ (i : Nat) job, jobs[i]? = some job →
        ∃ o alone, runAll dryRun t [job] = ⟨alone, .ok [o]⟩ ∧ outcomes[i]? = some o ∧
          u.bytesAt? (job.place t) = alone.bytesAt? (job.place t)) ∧
      (∀ k, (∀ job ∈ jobs, k ≠ job.place t) → u.bytesAt? k = t.bytesAt? k) ∧
      (∃ v, runAll dryRun t jobs = ⟨v, .ok outcomes⟩ ∧ v.bytesAt? = u.bytesAt?) ∧
      ∀ (i : Nat) o, outcomes[i]? = some o → o.skipped.isSome →
        ∃ v, runAll dryRun t (jobs.eraseIdx i) = ⟨v, .ok (outcomes.eraseIdx i)⟩ ∧
          v.bytesAt? = u.bytesAt? := by
  refine ⟨exists_runTogether hhere hdistinct, ⟨?_, fun hall => ?_⟩, fun u outcomes h => ?_⟩
  · rintro ⟨outcomes, hok⟩
    exact succeeds_of_runAll hhere hok
  · obtain ⟨v, hrun, -⟩ := (Independent.of_succeeds hhere hdistinct hall).runAll
    exact ⟨_, congrArg BatchResult.outcomes hrun⟩
  obtain ⟨rfl, hsucceeds, hleft⟩ := runTogether_sound hhere hdistinct h
  have hind := Independent.of_succeeds hhere hdistinct hsucceeds
  refine ⟨List.length_map _, fun i job hi => ?_, hleft.rest, ?_, fun i o ho hskipped => ?_⟩
  · have hjob := List.mem_of_getElem? hi
    obtain ⟨alone, hrun, -, halone⟩ := (hind.sublist (List.singleton_sublist.2 hjob)).runAll
    refine ⟨_, alone, hrun, by rw [List.getElem?_map, hi]; rfl, ?_⟩
    rw [hleft.files job hjob, halone.files job (List.mem_singleton_self job)]
  · obtain ⟨v, hrun, -, hleft'⟩ := hind.runAll
    exact ⟨v, hrun, hleft'.bytesAt?_eq hleft⟩
  · rw [List.getElem?_map, Option.map_eq_some_iff] at ho
    obtain ⟨job, hi, rfl⟩ := ho
    obtain ⟨v, hrun, -, hleft'⟩ := (hind.sublist (List.eraseIdx_sublist jobs i)).runAll
    refine ⟨v, by rw [hrun, List.eraseIdx_map], ?_⟩
    exact (hleft'.insert hdistinct hi (writes_of_skipped hskipped)).bytesAt?_eq hleft

/-- Two jobs whose steps are mixed: the first one is given up between the steps of the second. -/
theorem runTogether_eq_alone_of_tabs :
    ∃ u o o', runTogether false [1, 0, 0, 1, 0, 1] tabTree tabJobs = some ⟨u, .ok [o, o']⟩ ∧
      o.skipped.isSome = true ∧
      (∃ v, runAll false tabTree tabJobs = ⟨v, .ok [o, o']⟩ ∧ v.bytesAt? = u.bytesAt?) ∧
      ∃ v, runAll false tabTree [tabJob "B.sol" 1] = ⟨v, .ok [o']⟩ ∧ v.bytesAt? = u.bytesAt? := by
  obtain ⟨hends, -, hagrees⟩ := @runTogether_eq_alone false tabTree tabJobs rfl pairwise_tabJobs
    [1, 0, 0, 1, 0, 1]
  obtain ⟨⟨u, _⟩, hbatch, hok⟩ := hends (by decide)
  obtain ⟨outcomes, rfl⟩ := hok.2 fun job hjob => succeeds_of_holds false (holds_tabJobs job hjob)
  obtain ⟨hlength, halone, -, hsequential, hskipped⟩ := hagrees u outcomes hbatch
  obtain ⟨o, o', rfl⟩ := List.length_eq_two.1 hlength
  obtain ⟨first, _, hfirst, ho, -⟩ := halone 0 (tabJob "A.sol" 2) rfl
  obtain ⟨overlap, hgiven⟩ : ∃ overlap, (runAll false tabTree [tabJob "A.sol" 2]).outcomes =
      .ok [.abandoned (tabJob "A.sol" 2).report overlap] := ⟨_, rfl⟩
  have hoverlap : o.skipped.isSome = true := by
    rw [hfirst, Except.ok.injEq, List.cons.injEq] at hgiven
    rw [Option.some.inj ho, hgiven.1]
    rfl
  exact ⟨u, o, o', hbatch, hoverlap, hsequential, hskipped 0 o rfl hoverlap⟩

end RepairJob

end SolidityLint
