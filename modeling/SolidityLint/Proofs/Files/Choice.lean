import SolidityLint.Proofs.Files.Picked
import SolidityLint.Proofs.Files.Yields

/-!
# Which files are collected

The files of a list of targets are those that some target yields under a path that is not
excluded, each of them once (`Target.Collects`).  A file is collected for the first target that
offers it, under the least path by which this target does (`Target.IsFirst`), and the files are in
the order of these targets and paths.  Collecting files fails only by a fault of a target
(`Target.collects_or_faults`).
-/

namespace SolidityLint

namespace Target

/-- Do the settings or the `ignored` patterns exclude a path?  The patterns are read from the
current directory. -/
def leavesOut (t : Tree) (s : Settings) (ignored : List Text) (p : Path) : Bool :=
  Path.isExcluded t.here (.ofLocation t.here) (s.excluded ++ ignored) p

/-- Do the settings or the `ignored` patterns exclude a path?  The patterns are read from the base
directory. -/
def leavesOutFrom (t : Tree) (s : Settings) (ignored : List Text) (base : Option Path)
    (p : Path) : Bool :=
  Path.isExcluded t.here (base.getD (.ofLocation t.here)) (s.excluded ++ ignored) p

/-- A target yields a path that is not excluded. -/
def Offers (t : Tree) (s : Settings) (ignored : List Text) (target p : Path) : Prop :=
  Yields t s.extensions target p ∧ leavesOut t s ignored p = false

/-- The first target that offers the file of the path `p` is the `n`-th one, and `p` is the least
path by which it does. -/
structure IsFirst (t : Tree) (s : Settings) (ignored : List Text) (targets : List Path) (n : Nat)
    (p : Path) : Prop where
  /-- The target offers the path. -/
  offered : ∃ target, targets[n]? = some target ∧ Offers t s ignored target p
  /-- It offers the file by no lesser path. -/
  least : ∀ target, targets[n]? = some target → ∀ q, Offers t s ignored target q →
    q.resolve t.here = p.resolve t.here → Path.le p q = true
  /-- No target before it offers the file. -/
  earliest : ∀ m < n, ∀ target, targets[m]? = some target → ∀ q, Offers t s ignored target q →
    q.resolve t.here ≠ p.resolve t.here

/-- The files that are collected for a list of targets. -/
structure Collects (t : Tree) (s : Settings) (ignored targets : List Text) (ps : List Path) :
    Prop where
  /-- Every path leads to a file. -/
  located : ∀ p ∈ ps, t.locate p = .ok (p.resolve t.here) ∧ t.hasFile (p.resolve t.here) = true
  /-- The files are different. -/
  apart : ps.Pairwise fun p q => p.resolve t.here ≠ q.resolve t.here
  /-- Every file is offered by a target under this path. -/
  sound : ∀ p ∈ ps, ∃ target ∈ targets, Offers t s ignored (.ofText target) p
  /-- Every file that a target offers is there. -/
  complete : ∀ target ∈ targets, ∀ q, Offers t s ignored (.ofText target) q →
    ∃ p ∈ ps, p.resolve t.here = q.resolve t.here
  /-- Every file is there for the first target that offers it, under its least path. -/
  first : ∀ p ∈ ps, ∃ n, IsFirst t s ignored (targets.map .ofText) n p
  /-- The files are in the order of these targets, and of their paths within a target. -/
  ordered : ps.Pairwise fun p q => ∃ m n, IsFirst t s ignored (targets.map .ofText) m p ∧
    IsFirst t s ignored (targets.map .ofText) n q ∧ (m < n ∨ m = n ∧ Path.le p q = true)
  /-- The files are collected again for their own paths. -/
  again : collect t s ignored none (ps.map Path.text) = .ok ps

variable {t : Tree} {s : Settings} {ignored : List Text} {targets ps all : List Path}
  {extensions : List Text} {target p q : Path} {seen : List Location} {n : Nat} {e : FileError}

/-! ## The files of all targets -/

theorem filesOfAll_cons_eq_ok_iff : filesOfAll t extensions (target :: targets) = .ok all ↔
    ∃ found rest, files t extensions target = .ok found ∧
      filesOfAll t extensions targets = .ok rest ∧ found ++ rest = all := by
  simp only [filesOfAll, bind_eq_ok_iff, pure_eq_ok_iff]
  constructor
  · rintro ⟨found, hfound, rest, hrest, rfl⟩
    exact ⟨found, rest, hfound, hrest, rfl⟩
  · rintro ⟨found, rest, hfound, hrest, rfl⟩
    exact ⟨found, hfound, rest, hrest, rfl⟩

/-- The files of a list of targets are what the targets yield. -/
theorem mem_filesOfAll (ht : t.IsSound) (h : filesOfAll t extensions targets = .ok all) :
    (∀ target ∈ targets, ∀ e, ¬Faults t target e) ∧
      ∀ q, q ∈ all ↔ ∃ target ∈ targets, Yields t extensions target q := by
  induction targets generalizing all with
  | nil => exact ⟨by simp, fun q => by simp [← Except.ok.inj h]⟩
  | cons target targets ih =>
      obtain ⟨found, rest, hfound, hrest, rfl⟩ := filesOfAll_cons_eq_ok_iff.1 h
      have hanswers := answers_of_files ht hfound
      obtain ⟨hnoFault, hmem⟩ := ih hrest
      refine ⟨List.forall_mem_cons.2 ⟨hanswers.noFault, hnoFault⟩, fun q => ?_⟩
      simp only [List.mem_append, hanswers.mem_iff, hmem, List.mem_cons, exists_eq_or_imp]

theorem faults_of_filesOfAll (h : filesOfAll t extensions targets = .error e) :
    ∃ target ∈ targets, Faults t target e := by
  induction targets with
  | nil => simp [filesOfAll] at h
  | cons target targets ih =>
      rw [filesOfAll, bind_eq_error_iff] at h
      rcases h with hfound | ⟨found, -, h⟩
      · exact ⟨target, List.mem_cons_self .., faults_of_files hfound⟩
      · rcases bind_eq_error_iff.1 h with hrest | ⟨rest, -, h⟩
        · obtain ⟨other, hother, hfault⟩ := ih hrest
          exact ⟨other, List.mem_cons_of_mem _ hother, hfault⟩
        · exact absurd h pure_ne_error

/-- Files stand for themselves. -/
theorem filesOfAll_eq_self (h : ∀ p ∈ ps, t.isFile p = true) :
    filesOfAll t extensions ps = .ok ps := by
  induction ps with
  | nil => rfl
  | cons p ps ih =>
      obtain ⟨hp, hps⟩ := List.forall_mem_cons.1 h
      obtain ⟨l, hl, -⟩ := Tree.isFile_iff.1 hp
      have hcheck : t.checkFile p = .ok true :=
        Tree.checkFile_eq_ok_iff.2 ⟨by simp [hl], hp⟩
      refine filesOfAll_cons_eq_ok_iff.2 ⟨[p], ps, ?_, ih hps, rfl⟩
      rw [files, hcheck]
      rfl

/-- What a target without faults yields is a file. -/
theorem isFile_of_yields (ht : t.IsSound) (hnoFault : ∀ e, ¬Faults t target e)
    (h : Yields t extensions target q) : t.isFile q = true := by
  cases h with
  | file hfile => exact hfile
  | @below d way htarget hdirectory hfile =>
      have hentry := Tree.hasEntry_of_hasFile hfile
      have hne : way ≠ [] := fun hnil => by
        simp [hnil, ht.not_hasFile hdirectory] at hfile
      refine Tree.isFile_iff.2 ⟨_, (Tree.locate_below ht htarget hentry).resolve_right ?_, hfile⟩
      exact fun hlong => hnoFault _ (.tooLong (.entry htarget hdirectory hne hentry) hlong)
  | matched _ _ hfile => exact hfile

/-! ## The first target that offers a file -/

theorem IsFirst.succ (h : IsFirst t s ignored targets n p)
    (hnone : ∀ q, Offers t s ignored target q → q.resolve t.here ≠ p.resolve t.here) :
    IsFirst t s ignored (target :: targets) (n + 1) p where
  offered := h.offered
  least := h.least
  earliest m hm other hother := by
    cases m with
    | zero =>
        obtain rfl := Option.some.inj hother
        exact hnone
    | succ m => exact h.earliest m (Nat.lt_of_succ_lt_succ hm) other hother

/-- What is picked from the files of one target is offered by it, under the least path. -/
theorem isFirst_zero (hanswers : Answers t s.extensions target ps)
    (hp : p ∈ pick t.here (leavesOut t s ignored) seen ps) :
    IsFirst t s ignored (target :: targets) 0 p where
  offered := ⟨target, rfl, (hanswers.mem_iff p).1 (mem_of_mem_pick hp).1,
    not_excluded_of_mem_pick hp⟩
  least other hother q hq heq := by
    obtain rfl := Option.some.inj hother
    exact le_of_mem_pick Path.le_refl hanswers.sorted hp ((hanswers.mem_iff q).2 hq.1) hq.2 heq
  earliest m hm := absurd hm (Nat.not_lt_zero m)

/-- The run over the targets: what is picked is picked for the first target that offers it, and
in this order. -/
theorem isFirst_and_ordered (ht : t.IsSound) (h : filesOfAll t s.extensions targets = .ok all) :
    (∀ p ∈ pick t.here (leavesOut t s ignored) seen all, ∃ n, IsFirst t s ignored targets n p) ∧
    (pick t.here (leavesOut t s ignored) seen all).Pairwise fun p q => ∃ m n,
      IsFirst t s ignored targets m p ∧ IsFirst t s ignored targets n q ∧
        (m < n ∨ m = n ∧ Path.le p q = true) := by
  -- the locations seen before count as taken, so the induction is for any of them
  induction targets generalizing seen all with
  | nil =>
      rw [← Except.ok.inj h]
      exact ⟨by simp [pick], .nil⟩
  | cons target targets ih =>
      obtain ⟨found, rest, hfound, hrest, rfl⟩ := filesOfAll_cons_eq_ok_iff.1 h
      have hanswers := answers_of_files ht hfound
      obtain ⟨after, happend, hafter⟩ :=
        @exists_pick_append t.here (leavesOut t s ignored) seen found rest
      obtain ⟨hfirst, hordered⟩ := @ih rest after hrest
      -- what the first target offers is seen after it
      have hnone : ∀ p ∈ pick t.here (leavesOut t s ignored) after rest, ∀ q,
          Offers t s ignored target q → q.resolve t.here ≠ p.resolve t.here := by
        intro p hp q hq heq
        refine (mem_of_mem_pick hp).2 ((hafter _).2 (heq ▸ ?_))
        exact exists_mem_pick ((hanswers.mem_iff q).2 hq.1) hq.2
      rw [happend]
      constructor
      · intro p hp
        rcases List.mem_append.1 hp with hp | hp
        · exact ⟨0, isFirst_zero hanswers hp⟩
        · obtain ⟨n, hn⟩ := hfirst p hp
          exact ⟨n + 1, hn.succ (hnone p hp)⟩
      · refine List.pairwise_append.2 ⟨?_, ?_, ?_⟩
        · refine (hanswers.sorted.sublist sublist_pick).imp_of_mem fun hp hq hle => ?_
          exact ⟨0, 0, isFirst_zero hanswers hp, isFirst_zero hanswers hq, .inr ⟨rfl, hle⟩⟩
        · refine hordered.imp_of_mem fun hp hq h => ?_
          obtain ⟨m, n, hm, hn, horder⟩ := h
          refine ⟨m + 1, n + 1, hm.succ (hnone _ hp), hn.succ (hnone _ hq), ?_⟩
          exact horder.imp Nat.succ_lt_succ fun h => ⟨congrArg Nat.succ h.1, h.2⟩
        · intro p hp q hq
          obtain ⟨n, hn⟩ := hfirst q hq
          exact ⟨0, n + 1, isFirst_zero hanswers hp, hn.succ (hnone q hq), .inl n.succ_pos⟩

/-! ## Collecting from a base directory -/

section CollectFrom

variable {base : Option Path} {ignored targets : List Text}

/-- What is collected is picked from what the targets yield, and none of them has a fault. -/
theorem exists_of_collectFrom (ht : t.IsSound) (h : collect t s ignored base targets = .ok ps) :
    (∀ target ∈ targets.map (pathOf base), ∀ fault, ¬Faults t target fault) ∧
      ∃ all, pick t.here (leavesOutFrom t s ignored base) [] all = ps ∧
        ∀ q, q ∈ all ↔ ∃ target ∈ targets.map (pathOf base), Yields t s.extensions target q := by
  rw [collect, map_eq_ok_iff] at h
  obtain ⟨all, hall, hpick⟩ := h
  obtain ⟨hnoFault, hmem⟩ := mem_filesOfAll ht hall
  exact ⟨hnoFault, all, hpick, hmem⟩

theorem yielded_of_mem_collectFrom (ht : t.IsSound)
    (h : collect t s ignored base targets = .ok ps) (hp : p ∈ ps) : t.isFile p = true ∧
      leavesOutFrom t s ignored base p = false ∧
      ∃ target ∈ targets.map (pathOf base), Yields t s.extensions target p := by
  obtain ⟨hnoFault, all, rfl, hmem⟩ := exists_of_collectFrom ht h
  obtain ⟨target, htarget, hyields⟩ := (hmem p).1 (sublist_pick.subset hp)
  exact ⟨isFile_of_yields ht (hnoFault target htarget) hyields, not_excluded_of_mem_pick hp,
    target, htarget, hyields⟩

theorem exists_mem_collectFrom (ht : t.IsSound) (h : collect t s ignored base targets = .ok ps)
    (htarget : target ∈ targets.map (pathOf base)) (hq : Yields t s.extensions target q)
    (hkept : leavesOutFrom t s ignored base q = false) :
    ∃ p ∈ ps, p.resolve t.here = q.resolve t.here := by
  obtain ⟨-, all, rfl, hmem⟩ := exists_of_collectFrom ht h
  exact (exists_mem_pick ((hmem q).2 ⟨target, htarget, hq⟩) hkept).resolve_left List.not_mem_nil

end CollectFrom

/-! ## Collecting files -/

section Collect

variable {targets : List Text}

theorem not_faults_of_collect (ht : t.IsSound) (h : collect t s ignored none targets = .ok ps) :
    ∀ target ∈ targets, ∀ e, ¬Faults t (.ofText target) e := fun _ htarget =>
  (exists_of_collectFrom ht h).1 _ (List.mem_map_of_mem htarget)

theorem offered_of_mem_collect (ht : t.IsSound) (h : collect t s ignored none targets = .ok ps)
    (hp : p ∈ ps) : ∃ target ∈ targets, Offers t s ignored (.ofText target) p := by
  obtain ⟨-, hkept, target, htarget, hyields⟩ := yielded_of_mem_collectFrom ht h hp
  obtain ⟨text, htext, rfl⟩ := List.mem_map.1 htarget
  exact ⟨text, htext, hyields, hkept⟩

theorem isFile_of_mem_collect (ht : t.IsSound) (h : collect t s ignored none targets = .ok ps)
    (hp : p ∈ ps) : t.isFile p = true :=
  (yielded_of_mem_collectFrom ht h hp).1

theorem exists_mem_collect (ht : t.IsSound) (h : collect t s ignored none targets = .ok ps)
    {target : Text} (htarget : target ∈ targets) (hq : Offers t s ignored (.ofText target) q) :
    ∃ p ∈ ps, p.resolve t.here = q.resolve t.here :=
  exists_mem_collectFrom ht h (List.mem_map_of_mem htarget) hq.1 hq.2

/-- The files that are collected are collected again for their own paths. -/
theorem collect_again (ht : t.IsSound) (h : collect t s ignored none targets = .ok ps) :
    collect t s ignored none (ps.map Path.text) = .ok ps := by
  have hread : (ps.map Path.text).map Path.ofText = ps := by
    rw [List.map_map]
    exact (List.map_congr_left fun p hp =>
      Path.ofText_text (isNamed_of_mem_collect ht.named h hp)).trans (List.map_id ps)
  have hkept : ∀ p ∈ ps, leavesOut t s ignored p = false := by
    intro p hp
    obtain ⟨-, -, -, hkept⟩ := offered_of_mem_collect ht h hp
    exact hkept
  refine collect_eq_ok_iff.2 ⟨ps, ?_, pick_eq_self (pairwise_resolve_collect h) hkept (by simp)⟩
  rw [hread]
  exact filesOfAll_eq_self fun p hp => isFile_of_mem_collect ht h hp

theorem collects_of_collect (ht : t.IsSound) (h : collect t s ignored none targets = .ok ps) :
    Collects t s ignored targets ps := by
  obtain ⟨all, hall, hpick⟩ := collect_eq_ok_iff.1 h
  obtain ⟨hfirst, hordered⟩ := @isFirst_and_ordered t s ignored _ all [] ht hall
  exact
    { located := fun p hp => by
        obtain ⟨l, hl, hfile⟩ := Tree.isFile_iff.1 (isFile_of_mem_collect ht h hp)
        obtain rfl := Tree.locate_eq_resolve hl
        exact ⟨hl, hfile⟩
      apart := pairwise_resolve_collect h
      sound := fun p hp => offered_of_mem_collect ht h hp
      complete := fun target htarget q hq => exists_mem_collect ht h htarget hq
      first := fun p hp => hfirst p (hpick ▸ hp)
      ordered := hpick ▸ hordered
      again := collect_again ht h }

theorem faults_of_collect (h : collect t s ignored none targets = .error e) :
    ∃ target ∈ targets, Faults t (.ofText target) e := by
  rw [collect, map_eq_error_iff] at h
  obtain ⟨target, htarget, hfault⟩ := faults_of_filesOfAll h
  obtain ⟨text, htext, rfl⟩ := List.mem_map.1 htarget
  exact ⟨text, htext, hfault⟩

end Collect

/-- **The files of targets are collected soundly, completely and once each**, in the order of the
first targets that offer them, unless one of the targets has a fault. -/
theorem collects_or_faults (ht : t.IsSound) (s : Settings) (ignored targets : List Text) :
    match collect t s ignored none targets with
    | .ok ps => (∀ target ∈ targets, ∀ e, ¬Faults t (.ofText target) e) ∧
        Collects t s ignored targets ps
    | .error e => ∃ target ∈ targets, Faults t (.ofText target) e := by
  cases h : collect t s ignored none targets with
  | ok ps => exact ⟨not_faults_of_collect ht h, collects_of_collect ht h⟩
  | error e => exact faults_of_collect h

/-- A project with a directory that is left out and a file with another suffix. -/
def projectTree : Tree where
  files := ["src/A.sol", "src/build/B.sol", "src/lib/notes.md"].map fun name =>
    ((Path.ofText name.toList).parts, [])
  directories := []
  here := []

/-- A file by a detour, the directory that it lies in, and the file with another suffix. -/
def projectTargets : List Text :=
  ["src/build/../A.sol", "src", "src/lib/notes.md"].map String.toList

theorem collects_or_faults_of_projectTree : projectTree.IsSound ∧
    Collects projectTree {} [] projectTargets
      [.ofText "src/build/../A.sol".toList, .ofText "src/lib/notes.md".toList] := by
  have hsound : projectTree.IsSound := by decide +kernel
  have hbelow : filesOfDirectory projectTree [".sol".toList] (.ofText "src".toList) =
      .ok [.ofText "src/A.sol".toList] :=
    congrArg Except.ok (List.mergeSort_singleton _)
  have hall : filesOfAll projectTree [".sol".toList] (projectTargets.map Path.ofText) =
      .ok [.ofText "src/build/../A.sol".toList, .ofText "src/A.sol".toList,
        .ofText "src/lib/notes.md".toList] :=
    filesOfAll_cons_eq_ok_iff.2 ⟨[_], [_, _], rfl,
      filesOfAll_cons_eq_ok_iff.2 ⟨[_], [_], hbelow, rfl, rfl⟩, rfl⟩
  have hcollect : collect projectTree {} [] none projectTargets =
      .ok [.ofText "src/build/../A.sol".toList, .ofText "src/lib/notes.md".toList] :=
    collect_eq_ok_iff.2 ⟨_, hall, rfl⟩
  have h := collects_or_faults hsound {} [] projectTargets
  rw [hcollect] at h
  exact ⟨hsound, h.2⟩

end Target

end SolidityLint
