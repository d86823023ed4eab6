import SolidityLint.Command.Run
import SolidityLint.Proofs.Command.Jobs

/-!
# Before a run lints

A run may create the sample settings file before it lints (`Run.prepared`).  That is the only file
it touches then (`tree_of_prepared`), and it is the only thing the run does before it makes its plan
(`lint_of_prepared`).
-/

namespace SolidityLint

namespace Run

variable {w v : World} {r : LintRequest} {before : Shown} {plan : Plan}

/-- The world in which a run lints, and what it has shown before. -/
def prepared (w : World) (r : LintRequest) : Except Stop (World × Shown) :=
  if r.init then
    (createSample w.tree).map fun (after, shown) => ({ w with tree := after }, shown)
  else .ok (w, {})

theorem prepared_of_init_eq_false (w : World) (hinit : r.init = false) :
    prepared w r = .ok (w, {}) :=
  if_neg (by rw [hinit]; exact Bool.false_ne_true)

/-- The sample settings file is created where nothing was before, and no other file is touched. -/
def CreatesSample (before after : Tree) : Prop :=
  before.isEntry (Sample.path before) = false ∧
    before.write (Sample.path before) (Utf8.encode Sample.source) = .ok after

theorem createSample_eq_ok {t u : Tree} {shown : Shown} (h : createSample t = .ok (u, shown)) :
    u = t ∧ t.isEntry (Sample.path t) = true ∨ CreatesSample t u := by
  rw [createSample, Sample.create] at h
  cases hentry : t.isEntry (Sample.path t) with
  | true =>
      rw [hentry] at h
      exact .inl ⟨(Prod.mk.inj (Except.ok.inj h)).1.symm, rfl⟩
  | false =>
      rw [hentry] at h
      cases hwrite : t.write (Sample.path t) (Utf8.encode Sample.source) with
      | error error => simp [hwrite, Except.map] at h
      | ok after =>
          rw [hwrite] at h
          obtain rfl := (Prod.mk.inj (Except.ok.inj h)).1
          exact .inr ⟨hentry, hwrite⟩

theorem prepared_eq_ok (h : prepared w r = .ok (v, before)) :
    v = { w with tree := v.tree } ∧
      (v.tree = w.tree ∨ r.init = true ∧ CreatesSample w.tree v.tree) := by
  rw [prepared] at h
  split at h
  · rename_i hinit
    obtain ⟨⟨after, shown⟩, hcreate, heq⟩ := map_eq_ok_iff.1 h
    obtain ⟨rfl, -⟩ := Prod.mk.inj heq
    exact ⟨rfl, (createSample_eq_ok hcreate).imp And.left (⟨hinit, ·⟩)⟩
  · obtain ⟨rfl, -⟩ := Prod.mk.inj (Except.ok.inj h)
    exact ⟨rfl, .inl rfl⟩

theorem isNamed_of_prepared (hnamed : w.tree.IsNamed) (h : prepared w r = .ok (v, before)) :
    v.tree.IsNamed := by
  rcases (prepared_eq_ok h).2 with heq | ⟨-, -, hwrite⟩
  · rwa [heq]
  · exact Tree.isNamed_of_write_child hnamed (by decide) (by decide) hwrite

/-- The sample settings file is not created again. -/
theorem createSample_again {t u : Tree} {shown : Shown} (h : createSample t = .ok (u, shown))
    {after : Tree} (hshape : u.SameShape after) :
    ∃ shown, createSample after = .ok (after, shown) := by
  have hentry : u.isEntry (Sample.path u) = true := by
    rcases createSample_eq_ok h with ⟨rfl, hentry⟩ | ⟨-, hwrite⟩
    · exact hentry
    · obtain ⟨hground, hentry⟩ := Tree.isEntry_of_write_child hwrite
      rwa [Sample.path, hground.here]
  have hpath : Sample.path after = Sample.path u := by rw [Sample.path, Sample.path, hshape.here]
  refine ⟨.info (Sample.notice false), ?_⟩
  rw [createSample, Sample.create, hpath, hshape.isEntry, hentry]
  rfl

/-- A run that was prepared once is prepared at once in a tree of the same shape. -/
theorem prepared_again (h : prepared w r = .ok (v, before)) {u : Tree}
    (hshape : v.tree.SameShape u) :
    ∃ shown, prepared { w with tree := u } r = .ok ({ w with tree := u }, shown) := by
  rw [prepared] at h
  split at h
  · rename_i hinit
    obtain ⟨⟨after, shown⟩, hcreate, heq⟩ := map_eq_ok_iff.1 h
    obtain ⟨rfl, -⟩ := Prod.mk.inj heq
    obtain ⟨shown, hagain⟩ := createSample_again hcreate hshape
    exact ⟨shown, by rw [prepared, if_pos hinit, hagain]; rfl⟩
  · rename_i hinit
    exact ⟨{}, by rw [prepared, if_neg hinit]⟩

/-- A run that is prepared lints its targets, if there are any. -/
theorem lint_eq_lintTargets (resolver : Resolver) (hprepared : prepared w r = .ok (v, before))
    (htargets : r.targets.isEmpty = false) :
    lint resolver w r = Lint.lintTargets resolver v r before := by
  rw [lint]
  rw [prepared] at hprepared
  split at hprepared
  · rename_i hinit
    obtain ⟨⟨after, shown⟩, hcreate, heq⟩ := map_eq_ok_iff.1 hprepared
    obtain ⟨rfl, rfl⟩ := Prod.mk.inj heq
    rw [if_pos hinit, hcreate]
    simp only [lintGiven, htargets, Bool.false_eq_true, if_false]
  · rename_i hinit
    obtain ⟨rfl, rfl⟩ := Prod.mk.inj (Except.ok.inj hprepared)
    rw [if_neg hinit, lintGiven, htargets, if_neg Bool.false_ne_true]

/-- A run that has a plan carries it out. -/
theorem lint_of_prepared (resolver : Resolver) (hprepared : prepared w r = .ok (v, before))
    (hplan : Plan.make v r = .ok plan) :
    lint resolver w r = Lint.carryOut resolver v.tree r plan before := by
  obtain ⟨_, _, _, _, hmade⟩ := Plan.make_eq_ok_iff.1 hplan
  rw [lint_eq_lintTargets resolver hprepared hmade.targets_ne_nil, Lint.lintTargets, hplan]

/-- A run that repairs its files leaves the tree that the repairs leave, however it ends. -/
theorem tree_lint_fixing (resolver : Resolver) (hprepared : prepared w r = .ok (v, before))
    (hplan : Plan.make v r = .ok plan) (hfix : r.fix = true) (hdry : r.dryRun = false) :
    (lint resolver w r).tree =
      (RepairJob.runAll false v.tree (plan.reports.map fun report => ⟨report, resolver⟩)).tree := by
  rw [lint_of_prepared resolver hprepared hplan, Lint.carryOut, hfix, hdry]
  simp only [Bool.or_false, if_true]
  split
  · rfl
  · split <;> rfl

end Run

end SolidityLint
