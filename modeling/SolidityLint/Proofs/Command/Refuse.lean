import SolidityLint.Proofs.Command.Again

/-!
# Runs that are refused

A run may be refused before it repairs anything: because of its targets, its settings, its
presentation, its patterns or its rules, or because one of the files that it lints is not UTF-8
(`Plan.Refused`).  Whichever it is, and whatever there is to repair in the other files, the run has
no plan (`Refused.exists_stop`), so no file is created or changed but for the sample settings file
(`lint_refused`).
-/

namespace SolidityLint

namespace Plan

/-! ## Why a run is refused -/

/-- The file that a path leads to holds bytes that no text is written as. -/
def HoldsNoText (t : Tree) (p : Path) : Prop :=
  ∃ bytes, t.read p = .ok bytes ∧ ∀ source, bytes ≠ Utf8.encode source

/-- One reason for which a run is refused; there may be others besides. -/
inductive Refused (w : World) (r : LintRequest) : Prop
  /-- No target is given. -/
  | noTarget (h : r.targets = [])
  /-- The settings cannot be loaded. -/
  | settings {stop : Stop} (h : settingsOf w r.formatter r.settingsFile = .error stop)
  /-- There is no presentation of the name that the settings give. -/
  | format {s : Settings} {stop : Stop} (hs : settingsOf w r.formatter r.settingsFile = .ok s)
      (h : formatOf s = .error stop)
  /-- The patterns cannot be read. -/
  | patterns {stop : Stop} (h : ignoredBy w.tree r.ignoreFile = .error stop)
  /-- The settings name unknown rules. -/
  | rules {s : Settings} {stop : Stop} (hs : settingsOf w r.formatter r.settingsFile = .ok s)
      (h : linterOf s = .error stop)
  /-- The targets stand for no file, or one of them cannot be looked up. -/
  | targets {s : Settings} {ignored : List Text} {stop : Stop}
      (hs : settingsOf w r.formatter r.settingsFile = .ok s)
      (hi : ignoredBy w.tree r.ignoreFile = .ok ignored)
      (h : filesOf w.tree s ignored r.targets = .error stop)
  /-- One of the files is not UTF-8. -/
  | text {s : Settings} {ignored : List Text} {ps : List Path} {p : Path}
      (hs : settingsOf w r.formatter r.settingsFile = .ok s)
      (hi : ignoredBy w.tree r.ignoreFile = .ok ignored)
      (hps : filesOf w.tree s ignored r.targets = .ok ps) (hp : p ∈ ps)
      (h : HoldsNoText w.tree p)

variable {w : World} {r : LintRequest} {plan : Plan} {s : Settings} {ignored : List Text}
  {l : Linter} {files : List (Path × Text)} {t : Tree} {p : Path} {ps : List Path} {stop : Stop}

theorem HoldsNoText.not_holds (h : HoldsNoText t p) (source : Text) : ¬t.Holds p source := by
  obtain ⟨bytes, hread, hno⟩ := h
  rw [Tree.holds_iff_read, hread, Except.ok.injEq]
  exact hno source

theorem IsMadeOf.not_refused (h : plan.IsMadeOf w r s ignored l files) : ¬Refused w r := by
  intro hrefused
  cases hrefused with
  | noTarget hnone =>
      have hsome := h.targets_ne_nil
      rw [hnone] at hsome
      cases hsome
  | settings hstop =>
      rw [h.settings] at hstop
      cases hstop
  | format hs hstop =>
      rw [h.settings] at hs
      cases hs
      rw [h.format] at hstop
      cases hstop
  | patterns hstop =>
      rw [h.patterns] at hstop
      cases hstop
  | rules hs hstop =>
      rw [h.settings] at hs
      cases hs
      rw [linterOf_eq_ok_iff.2 h.linter] at hstop
      cases hstop
  | targets hs hi hstop =>
      rw [h.settings] at hs
      rw [h.patterns] at hi
      cases hs
      cases hi
      rw [h.collected] at hstop
      cases hstop
  | text hs hi hps hp hno =>
      rw [h.settings] at hs
      rw [h.patterns] at hi
      cases hs
      cases hi
      rw [h.collected] at hps
      cases hps
      obtain ⟨f, hf, rfl⟩ := List.mem_map.1 hp
      exact hno.not_holds f.2 (h.holds f hf)

/-- A run that is refused has no plan. -/
theorem Refused.exists_stop (h : Refused w r) : ∃ stop, make w r = .error stop := by
  cases hmake : make w r with
  | error stop => exact ⟨stop, rfl⟩
  | ok plan =>
      obtain ⟨s, ignored, l, files, hmade⟩ := make_eq_ok_iff.1 hmake
      exact absurd h hmade.not_refused

/-! ## Files that cannot be read -/

/-- Why there is no text to lint in the file that a path leads to. -/
inductive Unreadable (t : Tree) (p : Path) : Text → Prop
  /-- There is no file to read. -/
  | file {e : FileError} (h : t.read p = .error e) : Unreadable t p e.message
  /-- The file is not UTF-8. -/
  | text {bytes : Bytes} {error : Utf8.DecodeError} (h : t.read p = .ok bytes)
      (hdecode : Utf8.decode bytes = .error error) : Unreadable t p error.message

theorem exists_unreadable_of_reportOf (h : reportOf t l p = .error stop) :
    ∃ reason, Unreadable t p reason ∧ stop = unreadable reason := by
  rw [reportOf] at h
  split at h
  · rename_i e hread
    exact ⟨_, .file hread, (Except.error.inj h).symm⟩
  · rename_i bytes hread
    split at h
    · rename_i error hdecode
      exact ⟨_, .text hread hdecode, (Except.error.inj h).symm⟩
    · cases h

/-- Files that are linted one after the other are given up only for one that cannot be read. -/
theorem exists_unreadable_of_reportsOf (h : reportsOf t l ps = .error stop) :
    ∃ p ∈ ps, ∃ reason, Unreadable t p reason ∧ stop = unreadable reason := by
  induction ps generalizing stop with
  | nil => cases h
  | cons p ps ih =>
      rw [reportsOf, bind_eq_error_iff] at h
      rcases h with h | ⟨report, -, h⟩
      · exact ⟨p, List.mem_cons_self .., exists_unreadable_of_reportOf h⟩
      · rcases bind_eq_error_iff.1 h with h | ⟨reports, -, h⟩
        · obtain ⟨q, hq, hreason⟩ := ih h
          exact ⟨q, List.mem_cons_of_mem _ hq, hreason⟩
        · exact absurd h pure_ne_error

/-- Files of which one holds no text are given up for one that cannot be read. -/
theorem reportsOf_of_not_holds (hp : p ∈ ps) (h : ∀ source, ¬t.Holds p source) :
    ∃ q ∈ ps, ∃ reason, Unreadable t q reason ∧ reportsOf t l ps = .error (unreadable reason) := by
  cases hreports : reportsOf t l ps with
  | error stop =>
      obtain ⟨q, hq, reason, hreason, rfl⟩ := exists_unreadable_of_reportsOf hreports
      exact ⟨q, hq, reason, hreason, rfl⟩
  | ok reports =>
      obtain ⟨files, rfl, hholds, -⟩ := exists_files_of_reportsOf hreports
      obtain ⟨f, hf, rfl⟩ := List.mem_map.1 hp
      exact absurd (hholds f hf) (h f.2)

/-- If nothing else is wrong, then a run of which one file holds no text is refused for a file that
cannot be read. -/
theorem make_of_not_holds {format : Format}
    (hs : settingsOf w r.formatter r.settingsFile = .ok s) (hformat : formatOf s = .ok format)
    (hi : ignoredBy w.tree r.ignoreFile = .ok ignored) (hl : linterOf s = .ok l)
    (hps : filesOf w.tree s ignored r.targets = .ok ps) (hp : p ∈ ps)
    (h : ∀ source, ¬w.tree.Holds p source) :
    ∃ q ∈ ps, ∃ reason, Unreadable w.tree q reason ∧ make w r = .error (unreadable reason) := by
  obtain ⟨q, hq, reason, hreason, hreports⟩ := reportsOf_of_not_holds (l := l) hp h
  refine ⟨q, hq, reason, hreason, ?_⟩
  simp only [make, hs, hformat, hi, hl, hps, hreports, bind, Except.bind]

end Plan

@[simp] theorem Stop.tree_result (stop : Stop) (shown : Shown) (t : Tree) :
    (stop.result shown t).tree = t := by
  cases stop <;> rfl

namespace Run

variable {w v : World} {r : LintRequest} {before : Shown} {stop : Stop}

/-! ## What a refused run leaves -/

/-- Every file is as it was, except that the sample settings file may have been created where there
was none. -/
def LeavesFiles (w : World) (r : LintRequest) (after : Tree) : Prop :=
  ∀ l, after.bytesAt? l = w.tree.bytesAt? l ∨
    r.init = true ∧ l = (Sample.path w.tree).resolve w.tree.here ∧ w.tree.bytesAt? l = none ∧
      after.bytesAt? l = some (Utf8.encode Sample.source)

theorem leavesFiles_of_createsSample {after : Tree} (hinit : r.init = true)
    (h : CreatesSample w.tree after) : LeavesFiles w r after := by
  obtain ⟨hentry, hwrite⟩ := h
  intro l
  rw [Tree.bytesAt?_of_write hwrite]
  by_cases hl : l = (Sample.path w.tree).resolve w.tree.here
  · obtain ⟨k, hlocate, -⟩ := Tree.write_eq_ok_iff.1 hwrite
    have hk : k = l := (Tree.locate_eq_resolve hlocate).trans hl.symm
    have hnone : w.tree.hasEntry l = false := by
      rw [← hentry, Tree.isEntry, Tree.leadsTo, hlocate, hk]
    rw [Tree.hasEntry, Tree.hasFile, Bool.or_eq_false_iff] at hnone
    exact .inr ⟨hinit, hl, by simpa using hnone.1, if_pos hl⟩
  · exact .inl (if_neg hl)

theorem leavesFiles_of_prepared (h : prepared w r = .ok (v, before)) : LeavesFiles w r v.tree := by
  rcases (prepared_eq_ok h).2 with heq | ⟨hinit, hcreates⟩
  · exact fun l => .inl (by rw [heq])
  · exact leavesFiles_of_createsSample hinit hcreates

/-- A run that cannot create the sample settings file says so. -/
theorem lint_of_not_prepared (resolver : Resolver) (h : prepared w r = .error stop) :
    ∃ message, lint resolver w r =
      (Stop.failure Stop.systemError message).result {} w.tree := by
  rw [prepared] at h
  split at h
  · rename_i hinit
    rw [map_eq_error_iff] at h
    rw [lint, if_pos hinit, h]
    rw [createSample] at h
    split at h
    · cases h
    · rename_i error _
      exact ⟨_, by rw [← Except.error.inj h]⟩
  · cases h

/-- A run without targets is refused, unless it was to create the sample settings file. -/
theorem lint_of_no_targets (resolver : Resolver) (hprepared : prepared w r = .ok (v, before))
    (htargets : r.targets.isEmpty = true) :
    lint resolver w r =
      if r.init then ⟨.exit 0, before, v.tree⟩ else Lint.noTargets.result before v.tree := by
  rw [prepared] at hprepared
  split at hprepared
  · rename_i hinit
    obtain ⟨⟨after, shown⟩, hcreate, heq⟩ := map_eq_ok_iff.1 hprepared
    obtain ⟨rfl, rfl⟩ := Prod.mk.inj heq
    rw [lint, if_pos hinit, if_pos hinit, hcreate]
    simp only [htargets, if_true]
  · rename_i hinit
    obtain ⟨rfl, rfl⟩ := Prod.mk.inj (Except.ok.inj hprepared)
    rw [lint, if_neg hinit, if_neg hinit, lintGiven, if_pos htargets]

/-- A run without a plan stops where making the plan does. -/
theorem lint_of_make_eq_error (resolver : Resolver) (hprepared : prepared w r = .ok (v, before))
    (hne : r.targets ≠ []) (hmake : Plan.make v r = .error stop) :
    lint resolver w r = stop.result before v.tree := by
  rw [lint_eq_lintTargets resolver hprepared (List.isEmpty_eq_false_iff.2 hne), Lint.lintTargets,
    hmake]

/-- A run without a plan leaves the tree in which it would have linted. -/
theorem tree_lint_of_make_eq_error (resolver : Resolver)
    (hprepared : prepared w r = .ok (v, before)) (hmake : Plan.make v r = .error stop) :
    (lint resolver w r).tree = v.tree := by
  by_cases hne : r.targets = []
  · rw [lint_of_no_targets resolver hprepared (List.isEmpty_iff.2 hne)]
    split
    · rfl
    · exact Stop.tree_result ..
  · rw [lint_of_make_eq_error resolver hprepared hne hmake]
    exact Stop.tree_result ..

/-- **A run that is refused changes nothing.**  If a run is refused before it repairs its files, for
whatever reason, then no file is created or changed, except that the sample settings file may have
been created.  If the reason is a file that is not UTF-8 and nothing else is wrong, then the run
ends with exit code 2. -/
theorem lint_refused (resolver : Resolver) (w : World) (r : LintRequest) :
    (∀ stop, prepared w r = .error stop → (lint resolver w r).tree = w.tree) ∧
    ∀ v before, prepared w r = .ok (v, before) →
      (Plan.Refused v r → LeavesFiles w r (lint resolver w r).tree) ∧
      ∀ s format ignored l ps, Plan.settingsOf v r.formatter r.settingsFile = .ok s →
        Plan.formatOf s = .ok format → Plan.ignoredBy v.tree r.ignoreFile = .ok ignored →
        Plan.linterOf s = .ok l → Plan.filesOf v.tree s ignored r.targets = .ok ps →
        ∀ p ∈ ps, Plan.HoldsNoText v.tree p → (lint resolver w r).ending = .exit 2 := by
  refine ⟨fun stop h => ?_, fun v before hprepared =>
    ⟨fun hrefused => ?_, fun s format ignored l ps hs hformat hi hl hps p hp hno => ?_⟩⟩
  · obtain ⟨message, hlint⟩ := lint_of_not_prepared resolver h
    rw [hlint]
    exact Stop.tree_result ..
  · obtain ⟨stop, hmake⟩ := hrefused.exists_stop
    rw [tree_lint_of_make_eq_error resolver hprepared hmake]
    exact leavesFiles_of_prepared hprepared
  · obtain ⟨-, -, reason, -, hmake⟩ :=
      Plan.make_of_not_holds hs hformat hi hl hps hp hno.not_holds
    have hne := Plan.targets_ne_nil_of_filesOf hps
    rw [lint_of_make_eq_error resolver hprepared hne hmake]
    rfl

/-- A current directory with a file that can be repaired and one that is no text. -/
def mixedWorld : World :=
  { tree := ⟨[(["A.sol".toList], Utf8.encode "x \n".toList), (["B.sol".toList], [0x79, 0xC3])], [],
      []⟩ }

/-- The request to repair both files. -/
def mixedRequest : LintRequest :=
  { fixRequest with targets := ["A.sol".toList, "B.sol".toList] }

/-- The blank in the first file stays, since the second one ends within a character; and it stays
when the settings file that is named is missing, though the sample settings file is created then. -/
theorem lint_refused_of_mixedWorld :
    let unnamed := mixedRequest
    let named := { mixedRequest with init := true, settingsFile := some "lint.toml".toList }
    (lint .greedy mixedWorld unnamed).ending = .exit 2 ∧
      LeavesFiles mixedWorld unnamed (lint .greedy mixedWorld unnamed).tree ∧
      LeavesFiles mixedWorld named (lint .greedy mixedWorld named).tree ∧
      (lint .greedy mixedWorld named).tree.hasFile [Settings.fileName] = true := by
  intro unnamed named
  let v : World := { mixedWorld with
    tree := mixedWorld.tree.put [Settings.fileName] (Utf8.encode Sample.source) }
  have hnone : Linter.ofSettings Rule.catalogue {} = .ok Linter.standard :=
    Linter.ofSettings_standard
  have hps : Plan.filesOf mixedWorld.tree {} [] unnamed.targets =
      .ok [.ofText "A.sol".toList, .ofText "B.sol".toList] := rfl
  have hp := List.mem_cons_of_mem (Path.ofText "A.sol".toList)
    (List.mem_singleton_self (Path.ofText "B.sol".toList))
  have hno : Plan.HoldsNoText mixedWorld.tree (.ofText "B.sol".toList) := by
    refine ⟨[0x79, 0xC3], rfl, fun source heq => ?_⟩
    rw [← Utf8.decode_eq_ok_iff] at heq
    cases heq
  have hmissing : ∃ stop, Plan.settingsOf v none (some "lint.toml".toList) = .error stop :=
    ⟨_, rfl⟩
  obtain ⟨-, hunnamed⟩ := lint_refused .greedy mixedWorld unnamed
  obtain ⟨-, hnamed⟩ := lint_refused .greedy mixedWorld named
  obtain ⟨hleaves, hcode⟩ := hunnamed mixedWorld {} rfl
  obtain ⟨hleaves', -⟩ := hnamed v (.info (Sample.notice true)) rfl
  obtain ⟨stop, hstop⟩ := hmissing
  refine ⟨hcode {} .stylish [] _ _ rfl rfl rfl (Plan.linterOf_eq_ok_iff.2 hnone) hps _ hp hno,
    hleaves (.text (s := {}) rfl rfl hps hp hno), hleaves' (.settings hstop), rfl⟩

end Run

end SolidityLint
