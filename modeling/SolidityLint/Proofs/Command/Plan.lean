import SolidityLint.Command.Plan
import SolidityLint.Proofs.Pass.Outcome
import SolidityLint.Proofs.Repair.Batch
import SolidityLint.Proofs.Settings.Unusable

/-!
# What a plan is made of

A plan is made of settings, patterns and files (`make_eq_ok_iff`).  The settings and the patterns
are read from a few files of the tree (`Plan.consulted`), so in a tree of the same shape in which
these are the same they are the same too (`settingsOf_congr`, `ignoredBy_congr`), and so are the
files that are linted (`filesOf_congr`).  A run without a plan does not end with exit code 0
(`fails_of_make`).
-/

namespace SolidityLint

namespace Plan

variable {w : World} {r : LintRequest} {plan : Plan} {s : Settings} {l : Linter} {t u : Tree}
  {ps : List Path} {reports : List Report}

/-! ## The parts of a plan -/

/-- The settings, the patterns, the linter and the files with their texts that a plan is made
of. -/
structure IsMadeOf (plan : Plan) (w : World) (r : LintRequest) (s : Settings)
    (ignored : List Text) (l : Linter) (files : List (Path × Text)) : Prop where
  settings : settingsOf w r.formatter r.settingsFile = .ok s
  format : formatOf s = .ok plan.format
  patterns : ignoredBy w.tree r.ignoreFile = .ok ignored
  linter : Linter.ofSettings Rule.catalogue s = .ok l
  collected : filesOf w.tree s ignored r.targets = .ok (files.map (·.1))
  holds : ∀ f ∈ files, w.tree.Holds f.1 f.2
  reports : plan.reports = files.map fun f => l.lint f.1.text f.2

theorem linterOf_eq_ok_iff : linterOf s = .ok l ↔ Linter.ofSettings Rule.catalogue s = .ok l := by
  rw [linterOf]
  cases Linter.ofSettings Rule.catalogue s <;> simp

theorem filesOf_eq_ok_iff {ignored targets : List Text} :
    filesOf t s ignored targets = .ok ps ↔
      Target.collect t s ignored none targets = .ok ps ∧ ps ≠ [] := by
  rw [filesOf]
  cases Target.collect t s ignored none targets with
  | error error => simp
  | ok found =>
      cases found with
      | nil =>
          refine iff_of_false (by simp) ?_
          rintro ⟨heq, hne⟩
          exact hne (Except.ok.inj heq).symm
      | cons p rest =>
          simp only [Except.ok.injEq]
          constructor
          · rintro rfl
            exact ⟨rfl, List.cons_ne_nil _ _⟩
          · exact fun h => h.1

theorem reportOf_eq_ok_iff {p : Path} {report : Report} : reportOf t l p = .ok report ↔
    ∃ source, t.Holds p source ∧ l.lint p.text source = report := by
  rw [reportOf]
  cases hread : t.read p with
  | error error => simp [Tree.Holds, hread]
  | ok bytes =>
      cases hdecode : Utf8.decode bytes with
      | error error => simp [Tree.Holds, hread, hdecode]
      | ok source => simp [Tree.Holds, hread, hdecode]

/-- The reports of files, put together one by one. -/
theorem reportsOf_map_fst {files : List (Path × Text)} (h : ∀ f ∈ files, t.Holds f.1 f.2) :
    reportsOf t l (files.map (·.1)) = .ok (files.map fun f => l.lint f.1.text f.2) := by
  induction files with
  | nil => rfl
  | cons f files ih =>
      obtain ⟨hf, hrest⟩ := List.forall_mem_cons.1 h
      rw [List.map_cons, reportsOf, reportOf_eq_ok_iff.2 ⟨f.2, hf, rfl⟩, ih hrest]
      rfl

/-- The reports of files are those of the texts they hold, one for each. -/
theorem exists_files_of_reportsOf (h : reportsOf t l ps = .ok reports) :
    ∃ files : List (Path × Text), files.map (·.1) = ps ∧ (∀ f ∈ files, t.Holds f.1 f.2) ∧
      reports = files.map fun f => l.lint f.1.text f.2 := by
  induction ps generalizing reports with
  | nil => exact ⟨[], rfl, by simp, (Except.ok.inj h).symm⟩
  | cons p ps ih =>
      simp only [reportsOf, bind_eq_ok_iff, pure_eq_ok_iff] at h
      obtain ⟨report, hfirst, rest, hrest, rfl⟩ := h
      obtain ⟨source, hholds, rfl⟩ := reportOf_eq_ok_iff.1 hfirst
      obtain ⟨files, rfl, hall, rfl⟩ := ih hrest
      exact ⟨(p, source) :: files, rfl, List.forall_mem_cons.2 ⟨hholds, hall⟩, rfl⟩

/-- **What a plan is made of.** -/
theorem make_eq_ok_iff : make w r = .ok plan ↔
    ∃ s ignored l files, plan.IsMadeOf w r s ignored l files := by
  simp only [make, bind_eq_ok_iff, pure_eq_ok_iff]
  constructor
  · rintro ⟨s, hs, format, hformat, ignored, hignored, l, hl, ps, hps, reports, hreports, rfl⟩
    obtain ⟨files, rfl, hholds, hmap⟩ := exists_files_of_reportsOf hreports
    exact ⟨s, ignored, l, files, hs, hformat, hignored, linterOf_eq_ok_iff.1 hl, hps, hholds,
      hmap⟩
  · rintro ⟨s, ignored, l, files, h⟩
    exact ⟨s, h.settings, plan.format, h.format, ignored, h.patterns, l,
      linterOf_eq_ok_iff.2 h.linter, _, h.collected, _, reportsOf_map_fst h.holds,
      by rw [← h.reports]⟩

/-! ## The files that are consulted -/

/-- The path of the file that is read as the nearest one of a name, if there is one. -/
def nearestOf (t : Tree) (name : Text) : List Path :=
  match t.nearestFrom (.ofText name) none with
  | .ok (some p) => [p]
  | _ => []

/-- The paths of the files that the settings are read from. -/
def settingsFiles (t : Tree) (named : Option Path) : List Path :=
  nearestOf t Settings.projectFileName ++
    match named with
    | some p => [p]
    | none => nearestOf t Settings.fileName

/-- The paths of the files that the settings and the patterns of a run are read from. -/
def consulted (t : Tree) (r : LintRequest) : List Path :=
  settingsFiles t (r.settingsFile.map Path.ofText) ++
    [(r.ignoreFile.map Path.ofText).getD (Ignore.defaultPath t none)]

theorem nearestDocument_congr (h : t.SameShape u) (name : Text)
    (hsame : ∀ p ∈ nearestOf t name, u.read p = t.read p) :
    Settings.nearestDocument u name none = Settings.nearestDocument t name none := by
  refine Settings.nearestDocument_congr h fun p hp => hsame p ?_
  rw [nearestOf, hp]
  exact List.mem_singleton_self p

/-- The settings depend on the files they are read from and on the shape of the tree. -/
theorem settingsOf_congr {e : Environment} {input : Bytes} (h : t.SameShape u)
    {formatter settingsFile : Option Text}
    (hsame : ∀ p ∈ settingsFiles t (settingsFile.map Path.ofText), u.read p = t.read p) :
    settingsOf ⟨u, e, input⟩ formatter settingsFile =
      settingsOf ⟨t, e, input⟩ formatter settingsFile := by
  have hproject := nearestDocument_congr h Settings.projectFileName fun p hp =>
    hsame p (List.mem_append_left _ hp)
  have hlayers : ∀ overrides, Settings.layers u e none (settingsFile.map Path.ofText) overrides =
      Settings.layers t e none (settingsFile.map Path.ofText) overrides := by
    intro overrides
    cases settingsFile with
    | none =>
        have hfile := nearestDocument_congr h Settings.fileName fun p hp =>
          hsame p (List.mem_append_right _ hp)
        simp only [Settings.layers, hproject, Option.map_none, hfile]
    | some name =>
        have hread : u.read (.ofText name) = t.read (.ofText name) :=
          hsame _ (List.mem_append_right _ (List.mem_singleton_self _))
        simp only [Settings.layers, hproject, Option.map_some, Settings.namedDocument, hread]
  simp only [settingsOf, Settings.load, hlayers]

/-- The patterns depend on the file they are read from and on the shape of the tree. -/
theorem ignoredBy_congr (h : t.SameShape u) {ignoreFile : Option Text}
    (hsame : u.read ((ignoreFile.map Path.ofText).getD (Ignore.defaultPath t none)) =
      t.read ((ignoreFile.map Path.ofText).getD (Ignore.defaultPath t none))) :
    ignoredBy u ignoreFile = ignoredBy t ignoreFile := by
  have hpath : Ignore.defaultPath u none = Ignore.defaultPath t none := by
    rw [Ignore.defaultPath, Ignore.defaultPath, h.here]
  simp only [ignoredBy, Ignore.load, hpath, hsame]

theorem filesOf_congr (h : t.SameShape u) (s : Settings) (ignored targets : List Text) :
    filesOf u s ignored targets = filesOf t s ignored targets := by
  rw [filesOf, filesOf, h.collect]

end Plan

/-! ## Runs without a plan -/

namespace Stop

/-- A stop that does not end a run with exit code 0. -/
def Fails : Stop → Prop
  | failure code _ => code ≠ 0
  | crash _ => True

theorem fails_userError (message : Text) : (failure userError message).Fails :=
  Nat.one_ne_zero

theorem fails_systemError (message : Text) : (failure systemError message).Fails :=
  Nat.succ_ne_zero 1

theorem fails_of_pure {α : Type} {a : α} {stop : Stop}
    (h : (pure a : Except Stop α) = .error stop) : stop.Fails := by
  cases h

theorem fails_of_bind {α β : Type} {x : Except Stop α} {f : α → Except Stop β} {stop : Stop}
    (hx : ∀ stop, x = .error stop → stop.Fails)
    (hf : ∀ a stop, f a = .error stop → stop.Fails) (h : x >>= f = .error stop) : stop.Fails := by
  cases x with
  | error first => exact Except.error.inj h ▸ hx first rfl
  | ok a => exact hf a stop h

theorem Fails.ending_ne {stop : Stop} (h : stop.Fails) (shown : Shown) (t : Tree) :
    (stop.result shown t).ending ≠ .exit 0 := by
  cases stop with
  | failure code message =>
      intro heq
      exact h (Ending.exit.inj heq)
  | crash fault =>
      intro heq
      exact Ending.noConfusion heq

end Stop

namespace Plan

variable {w : World} {r : LintRequest} {s : Settings} {l : Linter} {t : Tree} {ps : List Path}
  {stop : Stop}

theorem fails_of_settingsOf {formatter settingsFile : Option Text}
    (h : settingsOf w formatter settingsFile = .error stop) : stop.Fails := by
  rw [settingsOf] at h
  split at h
  · simp at h
  · rw [← Except.error.inj h, stopOfLoadError.eq_def]
    split
    · exact Stop.fails_userError _
    · split
      · exact Stop.fails_userError _
      · trivial

theorem fails_of_formatOf (h : formatOf s = .error stop) : stop.Fails := by
  rw [formatOf] at h
  split at h
  · simp at h
  · exact Except.error.inj h ▸ Stop.fails_userError _

theorem fails_of_ignoredBy {ignoreFile : Option Text}
    (h : ignoredBy t ignoreFile = .error stop) : stop.Fails := by
  rw [ignoredBy] at h
  split at h
  · simp at h
  · exact Except.error.inj h ▸ Stop.fails_userError _
  all_goals exact Except.error.inj h ▸ trivial

theorem fails_of_linterOf (h : linterOf s = .error stop) : stop.Fails := by
  rw [linterOf] at h
  split at h
  · simp at h
  · exact Except.error.inj h ▸ Stop.fails_userError _

theorem fails_of_filesOf {ignored targets : List Text}
    (h : filesOf t s ignored targets = .error stop) : stop.Fails := by
  rw [filesOf] at h
  split at h
  · exact Except.error.inj h ▸ trivial
  · exact Except.error.inj h ▸ Stop.fails_userError _
  · simp at h

theorem fails_of_reportOf {p : Path} (h : reportOf t l p = .error stop) : stop.Fails := by
  rw [reportOf] at h
  split at h
  · exact Except.error.inj h ▸ Stop.fails_systemError _
  · split at h
    · exact Except.error.inj h ▸ Stop.fails_systemError _
    · simp at h

theorem fails_of_reportsOf (h : reportsOf t l ps = .error stop) : stop.Fails := by
  induction ps generalizing stop with
  | nil => simp [reportsOf] at h
  | cons p ps ih =>
      exact Stop.fails_of_bind (fun _ => fails_of_reportOf)
        (fun _ _ => Stop.fails_of_bind (fun _ => ih) fun _ _ => Stop.fails_of_pure) h

/-- A run without a plan does not end with exit code 0. -/
theorem fails_of_make (h : make w r = .error stop) : stop.Fails :=
  Stop.fails_of_bind (fun _ => fails_of_settingsOf)
    (fun _ _ => Stop.fails_of_bind (fun _ => fails_of_formatOf)
      (fun _ _ => Stop.fails_of_bind (fun _ => fails_of_ignoredBy)
        (fun _ _ => Stop.fails_of_bind (fun _ => fails_of_linterOf)
          (fun _ _ => Stop.fails_of_bind (fun _ => fails_of_filesOf)
            fun _ _ => Stop.fails_of_bind (fun _ => fails_of_reportsOf)
              fun _ _ => Stop.fails_of_pure)))) h

end Plan

end SolidityLint
