import SolidityLint.Proofs.Command.Again
import SolidityLint.Proofs.Edit.Stretches

/-!
# Repairing again and again

Runs that repair their files do to the bytes of the files what passes do to their texts: after some
runs each file holds the bytes of the text after so many passes (`lint_iterate`).  Between two runs
the tree is the one of the start in which the linted files hold other texts (`Plan.Revised`).  One
run takes such a tree to the next (`Revised.treeAfter`), since it finds the same settings, the same
patterns and the same files.
-/

namespace SolidityLint

/-! ## What a pass does to a file -/

/-- What a pass does to a file that holds `source`: it writes the file if the text changes, and the
stretches that no edit replaces keep their bytes. -/
structure Outcome.Rewrites (o : Outcome) (source output : Text) : Prop where
  patched : o.patch.output = output
  written : o.written = true ↔ output ≠ source
  before : Utf8.encode source =
    braid ((Edit.kept source 0 (o.accepted.map (·.edit))).map Utf8.encode)
      ((Edit.removed source (o.accepted.map (·.edit))).map Utf8.encode)
  after : Utf8.encode output =
    braid ((Edit.kept source 0 (o.accepted.map (·.edit))).map Utf8.encode)
      (o.accepted.map fun c => Utf8.encode c.edit.text)

theorem Linter.rewrites_stored (l : Linter) (path source : Text) :
    (RepairJob.stored false ⟨l.lint path source, .greedy⟩).Rewrites source
      (l.fixed path source) := by
  have hpass : l.pass path source = (l.lint path source).repaired := Report.repairSafely_greedy _
  have hwritten := RepairJob.written_stored_iff false ⟨l.lint path source, .greedy⟩
  have haccepted : (RepairJob.stored false ⟨l.lint path source, .greedy⟩).accepted =
      (Resolver.greedy (l.lint path source).candidates).accepted :=
    congrArg Outcome.accepted hpass
  refine ⟨rfl, hwritten.trans (and_iff_right rfl), ?_, ?_⟩
  · rw [haccepted]
    exact Edit.encode_eq_braid (l.lint path source).greedy_inOrder
  · have hfixed : l.fixed path source = Edit.patched source 0
        ((Resolver.greedy (l.lint path source).candidates).accepted.map (·.edit)) :=
      congrArg (·.patch.output) hpass
    rw [haccepted, hfixed, Edit.encode_patched_eq_braid, List.map_map]
    rfl

namespace Plan

/-! ## One run after another -/

/-- A tree in which the files of a plan hold other texts than in `t`, and all else is the same. -/
structure Revised (t : Tree) (files : List (Path × Text)) (text : Path × Text → Text)
    (u : Tree) : Prop where
  shape : t.SameShape u
  holds : ∀ f ∈ files, u.Holds f.1 (text f)
  rest : ∀ q, (∀ f ∈ files, t.locate q ≠ t.locate f.1) → u.read q = t.read q

variable {w : World} {r : LintRequest} {plan : Plan} {s : Settings} {ignored : List Text}
  {l : Linter} {files : List (Path × Text)} {text : Path × Text → Text} {u : Tree}

/-- The plan that is made when the files hold other texts. -/
theorem Revised.isMadeOf (hrev : Revised w.tree files text u)
    (h : plan.IsMadeOf w r s ignored l files) (hnamed : w.tree.IsNamed)
    (hapart : Run.IsApart w r) :
    IsMadeOf ⟨plan.format, files.map fun f => l.lint f.1.text (text f)⟩ { w with tree := u } r s
      ignored l (files.map fun f => (f.1, text f)) :=
  h.after hrev.shape (hapart.read_eq h hnamed hrev.rest) hrev.holds

/-- The repairs of that plan take the tree to the next one. -/
theorem Revised.runAll (hrev : Revised w.tree files text u)
    (h : plan.IsMadeOf w r s ignored l files) (hnamed : w.tree.IsNamed)
    (hapart : Run.IsApart w r) :
    let jobs : List RepairJob := files.map fun f => ⟨l.lint f.1.text (text f), .greedy⟩
    ∃ after, RepairJob.runAll false u jobs = ⟨after, .ok (jobs.map (·.stored false))⟩ ∧
      Revised w.tree files (fun f => l.fixed f.1.text (text f)) after := by
  intro jobs
  have hmade := hrev.isMadeOf h hnamed hapart
  have hjobs : Plan.jobs ⟨plan.format, files.map fun f => l.lint f.1.text (text f)⟩ = jobs := by
    rw [Plan.jobs, List.map_map]
    rfl
  obtain ⟨after, hall, hshape, hafter, hread⟩ := hmade.runAll (hrev.shape.isNamed hnamed)
  rw [hjobs] at hall
  simp only [List.forall_mem_map] at hafter hread
  refine ⟨after, hall, hrev.shape.trans hshape, hafter, fun q hq => ?_⟩
  rw [← hrev.rest q hq]
  refine hread q fun f hf => ?_
  rw [hrev.shape.locate]
  exact hq f hf

end Plan

namespace Run

variable {w v : World} {r : LintRequest} {before : Shown} {plan : Plan} {s : Settings}
  {ignored : List Text} {l : Linter} {files : List (Path × Text)} {text : Path × Text → Text}
  {u : Tree}

/-- The tree that a run leaves in the place of another one. -/
def treeAfter (w : World) (r : LintRequest) (t : Tree) : Tree :=
  (lint .greedy { w with tree := t } r).tree

/-- What a run does to a tree in which it was prepared already. -/
theorem treeAfter_eq (hprepared : prepared w r = .ok (v, before)) (hshape : v.tree.SameShape u)
    (hplan : Plan.make { w with tree := u } r = .ok plan) (hfix : r.fix = true)
    (hdry : r.dryRun = false) :
    treeAfter w r u = (RepairJob.runAll false u plan.jobs).tree := by
  obtain ⟨shown, hagain⟩ := prepared_again hprepared hshape
  exact tree_lint_fixing .greedy hagain hplan hfix hdry

/-- The first run does what it would do with the sample settings file there. -/
theorem treeAfter_prepared (hprepared : prepared w r = .ok (v, before))
    (hplan : Plan.make v r = .ok plan) (hfix : r.fix = true) (hdry : r.dryRun = false) :
    treeAfter w r w.tree = treeAfter w r v.tree := by
  have hworld := (prepared_eq_ok hprepared).1
  rw [treeAfter_eq hprepared (.refl v.tree) (hworld ▸ hplan) hfix hdry]
  exact tree_lint_fixing .greedy hprepared hplan hfix hdry

/-- **One run** finds the files with the texts they hold, and leaves them with the texts after a
pass. -/
theorem treeAfter_of_revised (hprepared : prepared w r = .ok (v, before))
    (h : plan.IsMadeOf v r s ignored l files) (hnamed : v.tree.IsNamed) (hfix : r.fix = true)
    (hdry : r.dryRun = false) (hapart : IsApart v r) (hrev : Plan.Revised v.tree files text u) :
    let reports := files.map fun f => l.lint f.1.text (text f)
    Plan.make { w with tree := u } r = .ok ⟨plan.format, reports⟩ ∧
      RepairJob.runAll false u (reports.map fun report => ⟨report, .greedy⟩) =
        ⟨treeAfter w r u,
          .ok (files.map fun f => RepairJob.stored false ⟨l.lint f.1.text (text f), .greedy⟩)⟩ ∧
      Plan.Revised v.tree files (fun f => l.fixed f.1.text (text f)) (treeAfter w r u) := by
  intro reports
  -- what was prepared is the tree, so a run in `w` sees the rest of the world as one in `v` does
  have hworld : { v with tree := u } = { w with tree := u } := by
    rw [(prepared_eq_ok hprepared).1]
  have hmade := hrev.isMadeOf h hnamed hapart
  rw [hworld] at hmade
  have hplan := Plan.make_eq_ok_iff.2 ⟨s, ignored, l, _, hmade⟩
  obtain ⟨after, hall, hnext⟩ := hrev.runAll h hnamed hapart
  rw [List.map_map] at hall
  have hbatch : RepairJob.runAll false u (reports.map fun report => ⟨report, .greedy⟩) =
      ⟨after, .ok (files.map fun f =>
        RepairJob.stored false ⟨l.lint f.1.text (text f), .greedy⟩)⟩ := by
    rw [List.map_map]
    exact hall
  have htree : treeAfter w r u = after := by
    rw [treeAfter_eq hprepared hrev.shape hplan hfix hdry]
    exact congrArg BatchResult.tree hbatch
  rw [htree]
  exact ⟨hplan, hbatch, hnext⟩

/-- Some runs leave the files with the texts after so many passes. -/
theorem revised_iterate (hprepared : prepared w r = .ok (v, before))
    (h : plan.IsMadeOf v r s ignored l files) (hnamed : v.tree.IsNamed) (hfix : r.fix = true)
    (hdry : r.dryRun = false) (hapart : IsApart v r) (k : Nat) :
    Plan.Revised v.tree files (fun f => (l.fixed f.1.text)^[k] f.2)
      ((treeAfter w r)^[k] v.tree) := by
  induction k with
  | zero => exact ⟨.refl _, h.holds, fun _ _ => rfl⟩
  | succ k ih =>
      simp only [Function.iterate_succ_apply']
      exact (treeAfter_of_revised hprepared h hnamed hfix hdry hapart ih).2.2

/-- **Runs on files are passes over texts.**  Let a run that repairs its files be repeated, where it
does not lint what it reads its settings and patterns from.  After `k` runs each file holds the
bytes of its text after `k` passes and nothing else has changed, so the next run makes the same plan
for these texts.  It rewrites a file only if another pass changes the text, and then whatever no
edit replaces keeps its bytes. -/
theorem lint_iterate (hnamed : w.tree.IsNamed) (hfix : r.fix = true) (hdry : r.dryRun = false)
    (hprepared : prepared w r = .ok (v, before)) (h : plan.IsMadeOf v r s ignored l files)
    (hapart : IsApart v r) :
    let text (k : Nat) (f : Path × Text) := (l.fixed f.1.text)^[k] f.2
    let reports (k : Nat) := files.map fun f => l.lint f.1.text (text k f)
    ∀ k,
      let t := (treeAfter w r)^[k] v.tree
      (treeAfter w r)^[k + 1] w.tree = treeAfter w r t ∧
      (∀ f ∈ files, t.read f.1 = .ok (Utf8.encode (text k f))) ∧
      (∀ q, (∀ f ∈ files, v.tree.locate q ≠ v.tree.locate f.1) → t.read q = v.tree.read q) ∧
      Plan.make { w with tree := t } r = .ok ⟨plan.format, reports k⟩ ∧
      ∃ outcomes,
        RepairJob.runAll false t ((reports k).map fun report => ⟨report, .greedy⟩) =
          ⟨treeAfter w r t, .ok outcomes⟩ ∧
        List.Forall₂ (fun f o => o.Rewrites (text k f) (text (k + 1) f)) files outcomes := by
  intro text reports k t
  have hnamed' := isNamed_of_prepared hnamed hprepared
  have hplan := Plan.make_eq_ok_iff.2 ⟨s, ignored, l, files, h⟩
  have hrev := revised_iterate hprepared h hnamed' hfix hdry hapart k
  obtain ⟨hmake, hbatch, -⟩ := treeAfter_of_revised hprepared h hnamed' hfix hdry hapart hrev
  refine ⟨?_, fun f hf => Tree.holds_iff_read.1 (hrev.holds f hf), hrev.rest, hmake, _, hbatch, ?_⟩
  · -- the first run may have to create the sample settings file, the others find it
    rw [Function.iterate_succ_apply, treeAfter_prepared hprepared hplan hfix hdry,
      ← Function.iterate_succ_apply, Function.iterate_succ_apply']
  · rw [List.forall₂_map_right_iff, List.forall₂_same]
    intro f _
    simp only [text, Function.iterate_succ_apply']
    exact l.rewrites_stored f.1.text _

/-- A byte order mark, an accent and both kinds of returns are left by two runs, of which the first
removes a blank and ends the last line. -/
theorem lint_iterate_of_mixed_returns :
    let w := loneWorld "\uFEFFx \r\né\ry".toList
    ((treeAfter w fixRequest)^[2] w.tree).read (.ofText "A.sol".toList) =
      .ok (Utf8.encode "\uFEFFx\r\né\ry\n".toList) := by
  intro w
  have hfirst : Linter.standard.fixed (Path.ofText "A.sol".toList).text
      "\uFEFFx \r\né\ry".toList = "\uFEFFx\r\né\ry\n".toList := by
    rw [Linter.fixed_eq Linter.ofSettings_standard]
    decide
  have hsecond : Linter.standard.fixed (Path.ofText "A.sol".toList).text
      "\uFEFFx\r\né\ry\n".toList = "\uFEFFx\r\né\ry\n".toList := by
    rw [Linter.fixed_eq Linter.ofSettings_standard]
    decide
  have htwo : (Linter.standard.fixed (Path.ofText "A.sol".toList).text)^[2]
      "\uFEFFx \r\né\ry".toList = "\uFEFFx\r\né\ry\n".toList := by
    rw [Function.iterate_succ_apply', Function.iterate_one, hfirst, hsecond]
  obtain ⟨-, hread, -⟩ := lint_iterate (isNamed_loneWorld _) rfl rfl rfl (isMadeOf_loneWorld _)
    (isApart_loneWorld "\uFEFFx \r\né\ry".toList) 2
  have hheld := hread _ (List.mem_singleton_self _)
  exact hheld.trans (congrArg (Except.ok ∘ Utf8.encode) htwo)

end Run

end SolidityLint
