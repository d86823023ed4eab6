import SolidityLint.Proofs.Command.Refuse
import SolidityLint.Proofs.Command.Verdict
import SolidityLint.Proofs.Files.Choice
import SolidityLint.Proofs.Settings.Escape

/-!
# Runs that break down

A run that has got its settings and is not verbose ends with exit code 0, 1 or 2, and what it cannot
read it reports.  There are exceptions, which are all there are (`Run.ends_or_breaks`): it breaks
down on an ignore file or a standard input that is not UTF-8, on an ignore file whose path holds a
null character, and on a target with a fault.
-/

namespace SolidityLint

/-! ## Stops -/

namespace Stop

/-- Is a stop one that the command does not report? -/
def IsCrash : Stop → Prop
  | failure _ _ => False
  | crash _ => True

/-- Is a stop reported with an exit code other than those for errors? -/
def IsStray : Stop → Prop
  | failure code _ => code ≠ userError ∧ code ≠ systemError
  | crash _ => False

theorem not_isCrash_userError (message : Text) : ¬(failure userError message).IsCrash :=
  id

theorem not_isStray_userError (message : Text) : ¬(failure userError message).IsStray :=
  fun h => h.1 rfl

theorem not_isCrash_unreadable (reason : Text) : ¬(Plan.unreadable reason).IsCrash :=
  id

theorem not_isStray_unreadable (reason : Text) : ¬(Plan.unreadable reason).IsStray :=
  fun h => h.2 rfl

theorem not_isStray_crash (fault : Crash) : ¬(crash fault).IsStray :=
  id

end Stop

/-! ## The patterns -/

namespace Plan

variable {w : World} {r : LintRequest} {s : Settings} {t : Tree} {l : Linter} {ps : List Path}
  {ignoreFile : Option Text} {ignored targets : List Text} {P : Stop → Prop} {bytes : Bytes}
  {e : FileError}

/-- The file that the patterns of a run are read from. -/
def ignorePath (t : Tree) (ignoreFile : Option Text) : Path :=
  (ignoreFile.map Path.ofText).getD (Ignore.defaultPath t none)

/-- The stop of a run that cannot read its ignore file. -/
def noPatterns (p : Path) : Stop :=
  .failure Stop.userError (p.text ++ " is not a valid path.".toList)

theorem ignoredBy_of_read (h : t.read (ignorePath t ignoreFile) = .ok bytes) :
    ignoredBy t ignoreFile = match Utf8.decode bytes with
      | .ok source => .ok (Ignore.patternsOf source)
      | .error error => .error (.crash (.notUtf8 error)) := by
  rw [ignorePath] at h
  rw [ignoredBy, Ignore.load, h]
  cases hdecode : Utf8.decode bytes <;> simp [hdecode]

theorem ignoredBy_of_read_eq_error (h : t.read (ignorePath t ignoreFile) = .error e) :
    ignoredBy t ignoreFile = match e.fault with
      | .missing =>
          if ignoreFile.isSome then .error (noPatterns (ignorePath t ignoreFile)) else .ok []
      | .nullCharacter => .error (.crash (.path e))
      | _ => .error (noPatterns (ignorePath t ignoreFile)) := by
  rw [ignorePath] at h
  rw [ignoredBy, Ignore.load, h, noPatterns, ignorePath]
  cases hfault : e.fault with
  | missing => cases ignoreFile <;> simp [hfault]
  | _ => simp [hfault]

/-- Reading the patterns breaks down on bytes that are no text and on a null character. -/
theorem fails_ignoredBy_iff : Fails (ignoredBy t ignoreFile) Stop.IsCrash ↔
    HoldsNoText t (ignorePath t ignoreFile) ∨ (ignorePath t ignoreFile).hasNull = true := by
  cases hread : t.read (ignorePath t ignoreFile) with
  | ok bytes =>
      have hnull : (ignorePath t ignoreFile).hasNull = false := by
        obtain ⟨l, hlocate, -⟩ := Tree.read_eq_ok_iff.1 hread
        exact (Tree.locate_eq_ok_iff.1 hlocate).1
      have hbytes : HoldsNoText t (ignorePath t ignoreFile) ↔
          ∃ error, Utf8.decode bytes = .error error := by
        rw [Utf8.exists_decode_eq_error_iff, HoldsNoText, hread]
        simp
      rw [ignoredBy_of_read hread, hbytes, hnull]
      cases Utf8.decode bytes <;> simp [Stop.IsCrash]
  | error e =>
      rw [ignoredBy_of_read_eq_error hread, HoldsNoText, hread,
        ← Tree.fault_eq_nullCharacter_iff hread]
      cases hfault : e.fault with
      | missing => cases ignoreFile <;> simp [noPatterns, Stop.IsCrash]
      | _ => simp [noPatterns, Stop.IsCrash]

/-- A run that cannot read its ignore file is refused, unless it may do without. -/
theorem ignoredBy_eq_noPatterns (h : t.read (ignorePath t ignoreFile) = .error e)
    (hnull : e.fault ≠ .nullCharacter) (hneeded : ignoreFile ≠ none ∨ e.fault ≠ .missing) :
    ignoredBy t ignoreFile = .error (noPatterns (ignorePath t ignoreFile)) := by
  rw [ignoredBy_of_read_eq_error h]
  cases hfault : e.fault with
  | nullCharacter => exact absurd hfault hnull
  | missing =>
      have hnamed := hneeded.resolve_right (not_not_intro hfault)
      exact if_pos (Option.isSome_iff_ne_none.2 hnamed)
  | _ => rfl

/-! ## The other steps -/

theorem not_fails_formatOf (hP : ∀ message, ¬P (.failure Stop.userError message)) :
    ¬Fails (formatOf s) P := by
  rw [formatOf]
  split
  · exact fails_ok _
  · exact fails_error.not.2 (hP _)

theorem not_fails_linterOf (hP : ∀ message, ¬P (.failure Stop.userError message)) :
    ¬Fails (linterOf s) P := by
  rw [linterOf]
  split
  · exact fails_ok _
  · exact fails_error.not.2 (hP _)

theorem not_fails_ignoredBy (hP : ∀ message, ¬P (.failure Stop.userError message))
    (hcrash : ∀ fault, ¬P (.crash fault)) : ¬Fails (ignoredBy t ignoreFile) P := by
  rw [ignoredBy]
  split
  · exact fails_ok _
  · exact fails_error.not.2 (hP _)
  all_goals exact fails_error.not.2 (hcrash _)

theorem not_fails_filesOf (hP : ∀ message, ¬P (.failure Stop.userError message))
    (hcrash : ∀ fault, ¬P (.crash fault)) : ¬Fails (filesOf t s ignored targets) P := by
  rw [filesOf]
  split
  · exact fails_error.not.2 (hcrash _)
  · exact fails_error.not.2 (hP _)
  · exact fails_ok _

/-- Collecting the files breaks down exactly if a target has a fault. -/
theorem fails_filesOf_iff (ht : t.IsSound) :
    Fails (filesOf t s ignored targets) Stop.IsCrash ↔
      ∃ target ∈ targets, ∃ e, Target.Faults t (.ofText target) e := by
  rw [filesOf]
  cases hcollect : Target.collect t s ignored none targets with
  | error e =>
      obtain ⟨target, htarget, hfault⟩ := Target.faults_of_collect hcollect
      exact iff_of_true (fails_error.2 trivial) ⟨target, htarget, e, hfault⟩
  | ok ps =>
      have hnone := Target.not_faults_of_collect ht hcollect
      refine iff_of_false ?_ ?_
      · cases ps <;> simp [Stop.IsCrash]
      · rintro ⟨target, htarget, e, hfault⟩
        exact hnone target htarget e hfault

theorem not_fails_reportsOf (hP : ∀ reason, ¬P (unreadable reason)) :
    ¬Fails (reportsOf t l ps) P := by
  rintro ⟨stop, hstop, h⟩
  obtain ⟨-, -, reason, -, rfl⟩ := exists_unreadable_of_reportsOf hstop
  exact hP reason h

/-! ## Plans -/

/-- What a run with settings breaks down on. -/
inductive BreaksDown (w : World) (r : LintRequest) (s : Settings) : Prop
  /-- The ignore file is not UTF-8. -/
  | ignoreText (h : HoldsNoText w.tree (ignorePath w.tree r.ignoreFile))
  /-- The path of the ignore file holds a null character. -/
  | ignorePath (h : (ignorePath w.tree r.ignoreFile).hasNull = true)
  /-- A target has a fault, and nothing is wrong before the targets are looked up. -/
  | target {patterns : List Text} {l : Linter} {target : Text} {e : FileError}
      (hi : ignoredBy w.tree r.ignoreFile = .ok patterns) (hl : linterOf s = .ok l)
      (htarget : target ∈ r.targets) (h : Target.Faults w.tree (.ofText target) e)

/-- A run with settings that gets no plan breaks down exactly if there is something it breaks down
on, and it has a presentation. -/
theorem fails_make_iff (ht : w.tree.IsSound)
    (hs : settingsOf w r.formatter r.settingsFile = .ok s) :
    Fails (make w r) Stop.IsCrash ↔ (∃ format, formatOf s = .ok format) ∧ BreaksDown w r s := by
  have hformat : ¬Fails (formatOf s) Stop.IsCrash := not_fails_formatOf Stop.not_isCrash_userError
  have hlinter : ¬Fails (linterOf s) Stop.IsCrash := not_fails_linterOf Stop.not_isCrash_userError
  have hreports (l : Linter) (ps : List Path) : ¬Fails (reportsOf w.tree l ps) Stop.IsCrash :=
    not_fails_reportsOf Stop.not_isCrash_unreadable
  simp only [make, hs, Table.ok_bind, fails_bind_iff, hformat, hlinter, hreports, fails_pure,
    fails_ignoredBy_iff, fails_filesOf_iff ht, false_or, or_false, and_false, exists_false]
  constructor
  · rintro ⟨format, hformat, (htext | hnull) | ⟨patterns, hi, l, hl, target, htarget, e, hfault⟩⟩
    · exact ⟨⟨format, hformat⟩, .ignoreText htext⟩
    · exact ⟨⟨format, hformat⟩, .ignorePath hnull⟩
    · exact ⟨⟨format, hformat⟩, .target hi hl htarget hfault⟩
  · rintro ⟨⟨format, hformat⟩, htext | hnull | ⟨hi, hl, htarget, hfault⟩⟩
    · exact ⟨format, hformat, .inl (.inl htext)⟩
    · exact ⟨format, hformat, .inl (.inr hnull)⟩
    · exact ⟨format, hformat, .inr ⟨_, hi, _, hl, _, htarget, _, hfault⟩⟩

theorem not_fails_make (hs : settingsOf w r.formatter r.settingsFile = .ok s) :
    ¬Fails (make w r) Stop.IsStray := by
  rw [make, hs, Table.ok_bind]
  refine not_fails_bind (not_fails_formatOf Stop.not_isStray_userError) fun format => ?_
  refine not_fails_bind (not_fails_ignoredBy Stop.not_isStray_userError Stop.not_isStray_crash)
    fun ignored => ?_
  refine not_fails_bind (not_fails_linterOf Stop.not_isStray_userError) fun l => ?_
  refine not_fails_bind (not_fails_filesOf Stop.not_isStray_userError Stop.not_isStray_crash)
    fun files => ?_
  exact not_fails_bind (not_fails_reportsOf Stop.not_isStray_unreadable) fun _ => fails_pure _

end Plan

/-! ## Runs -/

namespace Lint

theorem verdict_le (maxWarnings : Option Nat) (rs : List Report) :
    (verdict maxWarnings rs).1 ≤ 2 := by
  rcases verdict_cases maxWarnings rs with ⟨-, hcode⟩ | ⟨-, hcode⟩ <;> omega

theorem exists_ending_carryOut {r : LintRequest} (hverbose : r.verbose = false)
    (resolver : Resolver) (t : Tree) (plan : Plan) (shown : Shown) :
    ∃ code ≤ 2, (carryOut resolver t r plan shown).ending = .exit code := by
  have hfinish (rs : List Report) (told : Shown) (u : Tree) :
      ∃ code ≤ 2, (finish r plan.format rs told u).ending = .exit code :=
    ⟨_, verdict_le _ _, rfl⟩
  rw [carryOut]
  cases r.fix || r.dryRun with
  | false => exact hfinish ..
  | true =>
      simp only [if_true]
      cases (RepairJob.runAll r.dryRun t
        (plan.reports.map fun report => ⟨report, resolver⟩)).outcomes with
      | error error => exact ⟨Stop.systemError, le_rfl, rfl⟩
      | ok outcomes =>
          simp only [hverbose, fault_shownOutcomes]
          exact hfinish ..

end Lint

namespace Run

variable {w v : World} {r : LintRequest} {s : Settings} {before : Shown} {α : Type}

theorem isSound_of_prepared (ht : w.tree.IsSound) (h : prepared w r = .ok (v, before)) :
    v.tree.IsSound := by
  rcases (prepared_eq_ok h).2 with heq | ⟨-, hnew, hwrite⟩
  · rwa [heq]
  · exact ht.of_write_child (by decide) (by decide) (by decide) hnew hwrite

/-- Does a run end with one of the exit codes, unless it breaks down, for a certain reason? -/
def EndsUnless (reason : Prop) (result : RunResult) : Prop :=
  reason ∧ (∃ fault, result.ending = .crash fault) ∨
    ¬reason ∧ ∃ code ≤ 2, result.ending = .exit code

/-- A run that takes steps, any of which may stop it, and then ends with an exit code. -/
theorem endsUnless_of_steps {reason : Prop} {steps : Except Stop α} {result : RunResult}
    (hcrash : Fails steps Stop.IsCrash ↔ reason) (hstray : ¬Fails steps Stop.IsStray)
    (hstop : ∀ stop, steps = .error stop → ∃ shown t, result = stop.result shown t)
    (hdone : ∀ a, steps = .ok a → ∃ code ≤ 2, result.ending = .exit code) :
    EndsUnless reason result := by
  rw [EndsUnless, ← hcrash]
  cases steps with
  | ok a => exact .inr ⟨fails_ok a, hdone a rfl⟩
  | error stop =>
      obtain ⟨shown, t, rfl⟩ := hstop stop rfl
      rw [fails_error] at hstray ⊢
      cases stop with
      | crash fault => exact .inl ⟨trivial, fault, rfl⟩
      | failure code message =>
          refine .inr ⟨id, code, ?_, rfl⟩
          rw [Stop.IsStray, Stop.userError, Stop.systemError] at hstray
          omega

/-- What a run that lints files breaks down on, once it has its settings. -/
def BreaksDown (v : World) (r : LintRequest) (s : Settings) : Prop :=
  r.targets ≠ [] ∧ (∃ format, Plan.formatOf s = .ok format) ∧ Plan.BreaksDown v r s

theorem endsUnless_lint (resolver : Resolver) (hverbose : r.verbose = false) (ht : w.tree.IsSound)
    (hprepared : prepared w r = .ok (v, before))
    (hs : Plan.settingsOf v r.formatter r.settingsFile = .ok s) :
    EndsUnless (BreaksDown v r s) (lint resolver w r) := by
  cases htargets : r.targets.isEmpty with
  | true =>
      refine .inr ⟨fun h => h.1 (List.isEmpty_iff.1 htargets), ?_⟩
      rw [lint_of_no_targets resolver hprepared htargets]
      split
      · exact ⟨0, Nat.zero_le 2, rfl⟩
      · exact ⟨Stop.userError, by decide, rfl⟩
  | false =>
      have hne := List.isEmpty_eq_false_iff.1 htargets
      have hlint := lint_eq_lintTargets resolver hprepared htargets
      refine endsUnless_of_steps ?_ (Plan.not_fails_make hs) (fun stop hstop => ?_)
        fun plan hplan => ?_
      · rw [Plan.fails_make_iff (isSound_of_prepared ht hprepared) hs, BreaksDown]
        exact (and_iff_right hne).symm
      · exact ⟨before, v.tree, by rw [hlint, Lint.lintTargets, hstop]⟩
      · rw [hlint, Lint.lintTargets, hplan]
        exact Lint.exists_ending_carryOut hverbose resolver v.tree plan before

/-- What a run that lints the standard input breaks down on, once it has its settings. -/
def InputBreaksDown (w : World) (s : Settings) : Prop :=
  (∃ format, Plan.formatOf s = .ok format) ∧ (∃ l, Plan.linterOf s = .ok l) ∧
    ∀ source, w.input ≠ Utf8.encode source

theorem endsUnless_stdin {r : StdinRequest}
    (hs : Plan.settingsOf w r.formatter r.settingsFile = .ok s) :
    EndsUnless (InputBreaksDown w s) (stdin w r) := by
  refine endsUnless_of_steps (?_ : Fails (stdinPlan w r) _ ↔ _) ?_ (fun stop hstop => ?_)
    fun plan hplan => ?_
  · have hformat : ¬Fails (Plan.formatOf s) Stop.IsCrash :=
      Plan.not_fails_formatOf Stop.not_isCrash_userError
    have hlinter : ¬Fails (Plan.linterOf s) Stop.IsCrash :=
      Plan.not_fails_linterOf Stop.not_isCrash_userError
    rw [InputBreaksDown, ← Utf8.exists_decode_eq_error_iff]
    simp only [stdinPlan, hs, Table.ok_bind, fails_bind_iff, hformat, hlinter, false_or]
    cases Utf8.decode w.input with
    | ok source => simp
    | error error => simp [Stop.IsCrash]
  · rw [stdinPlan, hs, Table.ok_bind]
    refine not_fails_bind (Plan.not_fails_formatOf Stop.not_isStray_userError) fun format => ?_
    refine not_fails_bind (Plan.not_fails_linterOf Stop.not_isStray_userError) fun l => ?_
    split
    · exact fails_throw.not.2 (Stop.not_isStray_crash _)
    · exact fails_pure _
  · exact ⟨{}, w.tree, by rw [stdin, hstop]⟩
  · rw [stdin, hplan]
    exact ⟨_, Lint.verdict_le none plan.reports, rfl⟩

/-! ## What is reported -/

/-- The files that a run with settings cannot read are reported. -/
structure Reports (resolver : Resolver) (w v : World) (r : LintRequest) (before : Shown)
    (s : Settings) : Prop where
  /-- An ignore file that cannot be read, unless the run may do without it. -/
  ignoreFile : ∀ e, r.targets ≠ [] → (∃ format, Plan.formatOf s = .ok format) →
    v.tree.read (Plan.ignorePath v.tree r.ignoreFile) = .error e → e.fault ≠ .nullCharacter →
    (r.ignoreFile ≠ none ∨ e.fault ≠ .missing) →
    lint resolver w r =
      (Plan.noPatterns (Plan.ignorePath v.tree r.ignoreFile)).result before v.tree
  /-- A file that holds no text to lint. -/
  sourceFile : ∀ format ignored l ps, Plan.formatOf s = .ok format →
    Plan.ignoredBy v.tree r.ignoreFile = .ok ignored → Plan.linterOf s = .ok l →
    Plan.filesOf v.tree s ignored r.targets = .ok ps →
    ∀ p ∈ ps, (∀ source, ¬v.tree.Holds p source) →
    ∃ q ∈ ps, ∃ reason, Plan.Unreadable v.tree q reason ∧
      lint resolver w r = (Plan.unreadable reason).result before v.tree

theorem reports_lint (resolver : Resolver) (hprepared : prepared w r = .ok (v, before))
    (hs : Plan.settingsOf v r.formatter r.settingsFile = .ok s) :
    Reports resolver w v r before s where
  ignoreFile e hne hformat hread hnull hneeded := by
    obtain ⟨format, hformat⟩ := hformat
    refine lint_of_make_eq_error resolver hprepared hne ?_
    simp only [Plan.make, hs, hformat, Plan.ignoredBy_eq_noPatterns hread hnull hneeded, bind,
      Except.bind]
  sourceFile format ignored l ps hformat hi hl hps p hp hno := by
    obtain ⟨q, hq, reason, hreason, hmake⟩ := Plan.make_of_not_holds hs hformat hi hl hps hp hno
    have hne := Plan.targets_ne_nil_of_filesOf hps
    exact ⟨q, hq, reason, hreason, lint_of_make_eq_error resolver hprepared hne hmake⟩

/-- **A run ends with an exit code, but for the faults that it breaks down on.**  Once it has its
settings, a run that is not verbose breaks down exactly if its ignore file or its standard input is
not UTF-8, the path of its ignore file holds a null character, or a target has a fault.  All other
files that it cannot read it reports. -/
theorem ends_or_breaks (resolver : Resolver) (w : World) :
    (∀ (r : LintRequest) (v : World) (before : Shown) (s : Settings),
      r.verbose = false → w.tree.IsSound → prepared w r = .ok (v, before) →
      Plan.settingsOf v r.formatter r.settingsFile = .ok s →
      EndsUnless (BreaksDown v r s) (lint resolver w r) ∧ Reports resolver w v r before s) ∧
    (∀ (r : LintRequest) (stop : Stop), prepared w r = .error stop →
      ∃ message, lint resolver w r =
        (Stop.failure Stop.systemError message).result {} w.tree) ∧
    ∀ (r : StdinRequest) (s : Settings),
      Plan.settingsOf w r.formatter r.settingsFile = .ok s →
      EndsUnless (InputBreaksDown w s) (stdin w r) :=
  ⟨fun _ _ _ _ hverbose ht hprepared hs =>
      ⟨endsUnless_lint resolver hverbose ht hprepared hs, reports_lint resolver hprepared hs⟩,
    fun _ _ => lint_of_not_prepared resolver, fun _ _ => endsUnless_stdin⟩

/-- A current directory with a source file, the bytes of the ignore file, and the same bytes on the
standard input. -/
def ignoringWorld (bytes : Bytes) : World where
  tree := ⟨[(["A.sol".toList], Utf8.encode "x\n".toList), ([Ignore.fileName], bytes)], [], []⟩
  input := bytes

/-- The request to lint that file. -/
def plainRequest : LintRequest :=
  { fixRequest with fix := false }

/-- One byte that is no text breaks down both commands; an ignore file without a byte does not. -/
theorem ends_or_breaks_of_byte :
    (∃ fault, (lint .greedy (ignoringWorld [0xFF]) plainRequest).ending = .crash fault) ∧
      (∃ fault, (stdin (ignoringWorld [0xFF]) ⟨none, none, none, false⟩).ending = .crash fault) ∧
      ∃ code ≤ 2, (lint .greedy (ignoringWorld []) plainRequest).ending = .exit code := by
  have hbytes : ∀ source, ([0xFF] : Bytes) ≠ Utf8.encode source :=
    Utf8.exists_decode_eq_error_iff.1 ⟨_, rfl⟩
  have hlinter : Plan.linterOf {} = .ok Linter.standard :=
    Plan.linterOf_eq_ok_iff.2 Linter.ofSettings_standard
  have hsound : (ignoringWorld []).tree.IsSound := by decide +kernel
  obtain ⟨hlint, -, hstdin⟩ := ends_or_breaks .greedy (ignoringWorld [0xFF])
  obtain ⟨hlint', -⟩ := ends_or_breaks .greedy (ignoringWorld [])
  obtain ⟨hends, -⟩ := hlint plainRequest _ {} {} rfl (by decide +kernel) rfl rfl
  obtain ⟨hends', -⟩ := hlint' plainRequest _ {} {} rfl hsound rfl rfl
  refine ⟨?_, ?_, ?_⟩
  · rcases hends with ⟨-, hfault⟩ | ⟨hno, -⟩
    · exact hfault
    · exact absurd ⟨List.cons_ne_nil _ _, ⟨.stylish, rfl⟩, .ignoreText ⟨_, rfl, hbytes⟩⟩ hno
  · rcases hstdin ⟨none, none, none, false⟩ {} rfl with ⟨-, hfault⟩ | ⟨hno, -⟩
    · exact hfault
    · exact absurd ⟨⟨.stylish, rfl⟩, ⟨_, hlinter⟩, hbytes⟩ hno
  · rcases hends' with ⟨⟨-, -, hbreaks⟩, -⟩ | ⟨-, hcode⟩
    · have hread : (ignoringWorld []).tree.read
          (Plan.ignorePath (ignoringWorld []).tree plainRequest.ignoreFile) = .ok [] := rfl
      have hcollect : Target.collect (ignoringWorld []).tree {} [] none plainRequest.targets =
          .ok [.ofText "A.sol".toList] := rfl
      cases hbreaks with
      | ignoreText h =>
          obtain ⟨bytes, hbytes, hno⟩ := h
          rw [hread] at hbytes
          exact absurd (Except.ok.inj hbytes).symm (hno [])
      | ignorePath h => exact absurd h (by decide +kernel)
      | target _ _ htarget h =>
          exact absurd h (Target.not_faults_of_collect hsound hcollect _ htarget _)
    · exact hcode

/-- Not every run that has its settings ends with an exit code, with either of the commands. -/
theorem exists_crash_of_byte :
    (¬∀ (w : World) (r : LintRequest), w.tree.IsSound → r.verbose = false →
      (∃ s, Plan.settingsOf w r.formatter r.settingsFile = .ok s) →
      ∃ code ≤ 2, (lint .greedy w r).ending = .exit code) ∧
    ¬∀ (w : World) (r : StdinRequest),
      (∃ s, Plan.settingsOf w r.formatter r.settingsFile = .ok s) →
      ∃ code ≤ 2, (stdin w r).ending = .exit code := by
  constructor
  · intro h
    obtain ⟨code, -, hcode⟩ :=
      h (ignoringWorld [0xFF]) plainRequest (by decide +kernel) rfl ⟨{}, rfl⟩
    have hcrash : Plan.make (ignoringWorld [0xFF]) plainRequest = .error (.crash (.notUtf8 _)) :=
      rfl
    rw [lint_of_make_eq_error .greedy rfl (List.cons_ne_nil _ _) hcrash] at hcode
    cases hcode
  · intro h
    obtain ⟨code, -, hcode⟩ := h (ignoringWorld [0xFF]) ⟨none, none, none, false⟩ ⟨{}, rfl⟩
    have hlinter : Plan.linterOf {} = .ok Linter.standard :=
      Plan.linterOf_eq_ok_iff.2 Linter.ofSettings_standard
    obtain ⟨error, hdecode⟩ : ∃ error, Utf8.decode (ignoringWorld [0xFF]).input = .error error :=
      ⟨_, rfl⟩
    have hcrash : stdinPlan (ignoringWorld [0xFF]) ⟨none, none, none, false⟩ =
        .error (.crash (.notUtf8 error)) := by
      have hs : Plan.settingsOf (ignoringWorld [0xFF]) none none = .ok {} := rfl
      have hformat : Plan.formatOf {} = .ok .stylish := rfl
      rw [stdinPlan, hs, Table.ok_bind, hformat, Table.ok_bind, hlinter, Table.ok_bind, hdecode]
      rfl
    rw [stdin, hcrash] at hcode
    cases hcode

end Run

end SolidityLint
