import SolidityLint.Proofs.Files.Matched
import SolidityLint.Proofs.Files.Order

/-!
# What a target yields

A target yields files by what it is: a file yields itself, a directory the files below it, and
any other path the files that it stands for (`Target.Yields`).  In a tree such as a file system
holds no target is two of these, so one rule applies to each (`Target.yields_iff_of_isFile`,
`Target.yields_iff_of_hasDirectory`, `Target.yields_iff_of_not_isEntry`).

* `Target.answers_of_files`: the files of a target are what it yields, in the order of their paths,
  and looking for them met no fault.
* `Target.faults_of_files`: it fails only if a path on the way is too long, or if there is a null
  character before the first wildcard of the target (`Target.Faults`).
-/

namespace SolidityLint

namespace Tree

variable {t : Tree} {p : Path} {test : Location → Bool}

theorem leadsTo_iff : t.leadsTo p test = true ↔ ∃ l, t.locate p = .ok l ∧ test l = true := by
  rw [leadsTo]
  cases t.locate p <;> simp

theorem isFile_iff : t.isFile p = true ↔ ∃ l, t.locate p = .ok l ∧ t.hasFile l = true :=
  leadsTo_iff

theorem isDirectory_iff :
    t.isDirectory p = true ↔ ∃ l, t.locate p = .ok l ∧ t.hasDirectory l = true :=
  leadsTo_iff

/-- A path that leads somewhere leads to a file, a directory or nothing. -/
theorem isEntry_eq (t : Tree) (p : Path) : t.isEntry p = (t.isFile p || t.isDirectory p) := by
  rw [isEntry, isFile, isDirectory, leadsTo, leadsTo, leadsTo]
  cases t.locate p <;> rfl

end Tree

namespace Path

variable {p : Path}

/-- A path leads nowhere if there is a null character before its first wildcard. -/
theorem hasNull_of_stem (h : p.stem.hasNull = true) : p.hasNull = true := by
  obtain ⟨part, hpart, hnull⟩ := List.any_eq_true.1 h
  exact List.any_eq_true.2 ⟨part, (List.takeWhile_prefix _).mem hpart, hnull⟩

end Path

namespace Target

/-- A target yields the path of a file. -/
inductive Yields (t : Tree) (extensions : List Text) (target : Path) : Path → Prop where
  /-- The target is the file. -/
  | file (hfile : t.isFile target = true) : Yields t extensions target target
  /-- The target is a directory, and the file lies below it, in no directory that is left out,
  and has one of the suffixes. -/
  | below {d : Location} {way : List Text} (htarget : t.locate target = .ok d)
      (hdirectory : t.hasDirectory d = true) (hfile : t.hasFile (d ++ way) = true)
      (hsuffix : Path.suffix ⟨target.start, target.parts ++ way⟩ ∈ extensions)
      (hkept : ∀ name ∈ way.dropLast, name ∉ ignoredDirectories) :
      Yields t extensions target ⟨target.start, target.parts ++ way⟩
  /-- The target is neither, and stands for the file, which has one of the suffixes. -/
  | matched {q : Path} (hpattern : t.isEntry target = false) (hstands : t.StandsFor target q)
      (hfile : t.isFile q = true) (hsuffix : q.suffix ∈ extensions) : Yields t extensions target q

/-- The paths that are looked up to find what a target yields. -/
inductive Examines (t : Tree) (target : Path) : Path → Prop where
  /-- The target itself. -/
  | self : Examines t target target
  /-- Every entry below a target that is a directory. -/
  | entry {d : Location} {way : List Text} (htarget : t.locate target = .ok d)
      (hdirectory : t.hasDirectory d = true) (hne : way ≠ [])
      (hentry : t.hasEntry (d ++ way) = true) :
      Examines t target ⟨target.start, target.parts ++ way⟩
  /-- Every path that a target stands for if it is no entry. -/
  | matched {q : Path} (hpattern : t.isEntry target = false) (hstands : t.StandsFor target q) :
      Examines t target q

/-- Looking for what a target yields fails. -/
inductive Faults (t : Tree) (target : Path) : FileError → Prop where
  /-- A path that is looked up is too long. -/
  | tooLong {q : Path} (hexamined : Examines t target q) (hlong : t.locate q = .error .tooLong) :
      Faults t target ⟨.tooLong, q⟩
  /-- There is a null character before the first wildcard. -/
  | nullCharacter (hwild : target.wild ≠ []) (hnull : target.stem.hasNull = true) :
      Faults t target ⟨.nullCharacter, target.stem⟩

/-- The paths that are found for a target are what it yields, in their order. -/
structure Answers (t : Tree) (extensions : List Text) (target : Path) (found : List Path) :
    Prop where
  /-- Nothing on the way was a fault. -/
  noFault : ∀ e, ¬Faults t target e
  /-- What is found is what the target yields. -/
  mem_iff : ∀ q, q ∈ found ↔ Yields t extensions target q
  /-- It is found in the order of paths. -/
  sorted : found.Pairwise fun p q => Path.le p q = true

variable {t : Tree} {extensions : List Text} {p q : Path} {ps found : List Path} {d : Location}
  {e : FileError}

/-! ## The files among some paths -/

theorem filesAmong_eq_error (h : filesAmong t extensions ps = .error e) :
    ∃ p ∈ ps, t.locate p = .error .tooLong ∧ e = ⟨.tooLong, p⟩ := by
  induction ps with
  | nil => simp [filesAmong] at h
  | cons p ps ih =>
      rw [filesAmong, bind_eq_error_iff, Tree.checkFile_eq_error_iff] at h
      rcases h with ⟨hp, he⟩ | ⟨isFile, -, h⟩
      · exact ⟨p, List.mem_cons_self .., hp, he⟩
      · rcases bind_eq_error_iff.1 h with h | ⟨rest, -, h⟩
        · obtain ⟨q, hq, hlong, he⟩ := ih h
          exact ⟨q, List.mem_cons_of_mem _ hq, hlong, he⟩
        · exact absurd h pure_ne_error

/-! ## A target that is a file -/

/-- A target that is there has no faults but those of the entries below it. -/
theorem not_faults (hp : t.locate p = .ok d) (hentry : t.hasEntry d = true)
    (hbelow : ∀ way, t.hasDirectory d = true → way ≠ [] → t.hasEntry (d ++ way) = true →
      t.locate ⟨p.start, p.parts ++ way⟩ ≠ .error .tooLong) : ¬Faults t p e := by
  have hthere : t.isEntry p = true := Tree.leadsTo_iff.2 ⟨d, hp, hentry⟩
  rintro (⟨hexamined, hlong⟩ | ⟨-, hnull⟩)
  · cases hexamined with
    | self => simp [hp] at hlong
    | entry htarget hdirectory hne hentry =>
        obtain rfl := Except.ok.inj (hp.symm.trans htarget)
        exact hbelow _ hdirectory hne hentry hlong
    | matched hpattern => simp [hpattern] at hthere
  · have hp := (Tree.locate_eq_ok_iff.1 hp).1
    simp [Path.hasNull_of_stem hnull] at hp

/-- A file yields itself only. -/
theorem yields_iff_of_isFile (ht : t.IsSound) (h : t.isFile p = true) :
    Yields t extensions p q ↔ q = p := by
  obtain ⟨l, hp, hfile⟩ := Tree.isFile_iff.1 h
  constructor
  · intro hyields
    cases hyields with
    | file => rfl
    | below htarget hdirectory =>
        obtain rfl := Except.ok.inj (hp.symm.trans htarget)
        simp [ht.not_hasDirectory hfile] at hdirectory
    | matched hpattern => simp [Tree.isEntry_eq, h] at hpattern
  · rintro rfl
    exact .file h

theorem answers_of_isFile (ht : t.IsSound) (h : t.isFile p = true) :
    Answers t extensions p [p] := by
  obtain ⟨l, hp, hfile⟩ := Tree.isFile_iff.1 h
  constructor
  case noFault =>
    intro e
    apply not_faults hp (Tree.hasEntry_of_hasFile hfile)
    intro way hdirectory
    simp [ht.not_hasDirectory hfile] at hdirectory
  case mem_iff =>
    intro q
    rw [List.mem_singleton, yields_iff_of_isFile ht h]
  case sorted => exact List.pairwise_singleton ..

/-! ## The files below a directory -/

/-- A directory yields the files below it. -/
theorem yields_iff_of_hasDirectory (ht : t.IsSound) (hp : t.locate p = .ok d)
    (hdirectory : t.hasDirectory d = true) : Yields t extensions p q ↔
      ∃ way, t.hasFile (d ++ way) = true ∧ q.suffix ∈ extensions ∧
        (∀ name ∈ way.dropLast, name ∉ ignoredDirectories) ∧ ⟨p.start, p.parts ++ way⟩ = q := by
  constructor
  · intro hyields
    cases hyields with
    | file hfile =>
        obtain ⟨l, hl, hfile⟩ := Tree.isFile_iff.1 hfile
        obtain rfl := Except.ok.inj (hp.symm.trans hl)
        simp [ht.not_hasFile hdirectory] at hfile
    | @below _ way htarget _ hfile hsuffix hkept =>
        obtain rfl := Except.ok.inj (hp.symm.trans htarget)
        exact ⟨way, hfile, hsuffix, hkept, rfl⟩
    | matched hpattern =>
        rw [Tree.isEntry_eq, Tree.isDirectory_iff.2 ⟨d, hp, hdirectory⟩] at hpattern
        simp at hpattern
  · rintro ⟨way, hfile, hsuffix, hkept, rfl⟩
    exact .below hp hdirectory hfile hsuffix hkept

theorem mem_entries_iff : q ∈ (t.waysBelow d).map (fun way => (⟨p.start, p.parts ++ way⟩ : Path)) ↔
    ∃ way, way ≠ [] ∧ t.hasEntry (d ++ way) = true ∧ ⟨p.start, p.parts ++ way⟩ = q := by
  simp only [List.mem_map, Tree.mem_waysBelow_iff, and_assoc]

theorem crossesIgnored_eq_false_iff {way : List Text} : crossesIgnored way = false ↔
    ∀ name ∈ way.dropLast, name ∉ ignoredDirectories := by
  simp only [crossesIgnored, List.any_eq_false, List.contains_iff_mem]

theorem answers_of_filesOfDirectory (ht : t.IsSound) (hp : t.locate p = .ok d)
    (hdirectory : t.hasDirectory d = true) (h : filesOfDirectory t extensions p = .ok found) :
    Answers t extensions p found := by
  simp only [filesOfDirectory, hp] at h
  obtain ⟨qs, hqs, rfl⟩ := map_eq_ok_iff.1 h
  obtain ⟨hshort, hmem⟩ := filesAmong_eq_ok hqs
  have hlocate : ∀ way, way ≠ [] → t.hasEntry (d ++ way) = true →
      t.locate ⟨p.start, p.parts ++ way⟩ = .ok (d ++ way) := by
    intro way hne hentry
    have hlong := hshort _ (mem_entries_iff.2 ⟨way, hne, hentry, rfl⟩)
    exact (Tree.locate_below ht hp hentry).resolve_right hlong
  constructor
  case noFault =>
    intro e
    apply not_faults hp
    · rw [Tree.hasEntry, hdirectory, Bool.or_true]
    · intro way _ hne hentry
      simp [hlocate way hne hentry]
  case mem_iff =>
    intro q
    rw [yields_iff_of_hasDirectory ht hp hdirectory, Path.mem_sort, List.mem_filter, hmem,
      mem_entries_iff, Bool.not_eq_true']
    constructor
    · rintro ⟨⟨⟨way, hne, hentry, rfl⟩, hfile, hsuffix⟩, hkept⟩
      obtain ⟨l, hl, hfile⟩ := Tree.isFile_iff.1 hfile
      obtain rfl := Except.ok.inj ((hlocate way hne hentry).symm.trans hl)
      rw [List.drop_left, crossesIgnored_eq_false_iff] at hkept
      exact ⟨way, hfile, hsuffix, hkept, rfl⟩
    · rintro ⟨way, hfile, hsuffix, hkept, rfl⟩
      have hentry := Tree.hasEntry_of_hasFile hfile
      have hne : way ≠ [] := by
        rintro rfl
        simp [ht.not_hasFile hdirectory] at hfile
      refine ⟨⟨⟨way, hne, hentry, rfl⟩, ?_, hsuffix⟩, ?_⟩
      · exact Tree.isFile_iff.2 ⟨_, hlocate way hne hentry, hfile⟩
      · rwa [List.drop_left, crossesIgnored_eq_false_iff]
  case sorted => exact Path.pairwise_sort _

theorem faults_of_filesOfDirectory (hp : t.locate p = .ok d) (hdirectory : t.hasDirectory d = true)
    (h : filesOfDirectory t extensions p = .error e) : Faults t p e := by
  simp only [filesOfDirectory, hp, map_eq_error_iff] at h
  obtain ⟨q, hq, hlong, rfl⟩ := filesAmong_eq_error h
  obtain ⟨way, hne, hentry, rfl⟩ := mem_entries_iff.1 hq
  exact .tooLong (.entry hp hdirectory hne hentry) hlong

/-! ## The files that a path stands for -/

/-- A target that is no entry yields the files that it stands for. -/
theorem yields_iff_of_not_isEntry (hpattern : t.isEntry p = false) :
    Yields t extensions p q ↔ t.StandsFor p q ∧ t.isFile q = true ∧ q.suffix ∈ extensions := by
  constructor
  · intro hyields
    cases hyields with
    | file hfile => simp [Tree.isEntry_eq, hfile] at hpattern
    | below htarget hdirectory =>
        rw [Tree.isEntry_eq, Tree.isDirectory_iff.2 ⟨_, htarget, hdirectory⟩] at hpattern
        simp at hpattern
    | matched _ hstands hfile hsuffix => exact ⟨hstands, hfile, hsuffix⟩
  · rintro ⟨hstands, hfile, hsuffix⟩
    exact .matched hpattern hstands hfile hsuffix

theorem answers_of_filesOfGlob (hp : t.locate p ≠ .error .tooLong) (hpattern : t.isEntry p = false)
    (h : filesOfGlob t extensions p = .ok found) : Answers t extensions p found := by
  simp only [filesOfGlob, bind_eq_ok_iff, pure_eq_ok_iff] at h
  obtain ⟨qs, hglob, among, hamong, rfl⟩ := h
  obtain ⟨hnull, hstands⟩ := Tree.mem_of_glob hglob
  obtain ⟨hshort, hmem⟩ := filesAmong_eq_ok hamong
  constructor
  case noFault =>
    rintro e (⟨hexamined, hlong⟩ | ⟨hwild, hnull'⟩)
    · cases hexamined with
      | self => exact hp hlong
      | entry htarget hdirectory =>
          rw [Tree.isEntry_eq, Tree.isDirectory_iff.2 ⟨_, htarget, hdirectory⟩] at hpattern
          simp at hpattern
      | matched _ hq => exact hshort _ ((hstands _).2 hq) hlong
    · exact hnull ⟨hwild, hnull'⟩
  case mem_iff =>
    intro q
    rw [Path.mem_sort, hmem, hstands, yields_iff_of_not_isEntry hpattern]
  case sorted => exact Path.pairwise_sort _

theorem faults_of_filesOfGlob (hpattern : t.isEntry p = false)
    (h : filesOfGlob t extensions p = .error e) : Faults t p e := by
  rw [filesOfGlob, bind_eq_error_iff] at h
  rcases h with hglob | ⟨qs, hglob, h⟩
  · obtain ⟨⟨hwild, hnull⟩, rfl⟩ := Tree.glob_eq_error hglob
    exact .nullCharacter hwild hnull
  · rcases bind_eq_error_iff.1 h with hamong | ⟨among, -, h⟩
    · obtain ⟨q, hq, hlong, rfl⟩ := filesAmong_eq_error hamong
      exact .tooLong (.matched hpattern (((Tree.mem_of_glob hglob).2 q).1 hq)) hlong
    · exact absurd h pure_ne_error

/-! ## The files of a target -/

/-- **The files of a target are what it yields**, in the order of their paths. -/
theorem answers_of_files (ht : t.IsSound) (h : files t extensions p = .ok found) :
    Answers t extensions p found := by
  rw [files, bind_eq_ok_iff] at h
  obtain ⟨isFile, hcheck, h⟩ := h
  obtain ⟨hshort, rfl⟩ := Tree.checkFile_eq_ok_iff.1 hcheck
  split at h
  · rename_i hfile
    exact pure_eq_ok_iff.1 h ▸ answers_of_isFile ht hfile
  rename_i hfile
  split at h
  · rename_i hdirectory
    obtain ⟨d, hp, hdirectory⟩ := Tree.isDirectory_iff.1 hdirectory
    exact answers_of_filesOfDirectory ht hp hdirectory h
  · rename_i hdirectory
    refine answers_of_filesOfGlob hshort ?_ h
    rw [Tree.isEntry_eq, Bool.eq_false_iff.2 hfile, Bool.eq_false_iff.2 hdirectory, Bool.false_or]

/-- Looking for the files of a target fails only by a fault of the target. -/
theorem faults_of_files (h : files t extensions p = .error e) : Faults t p e := by
  rw [files, bind_eq_error_iff, Tree.checkFile_eq_error_iff] at h
  rcases h with ⟨hlong, rfl⟩ | ⟨isFile, hcheck, h⟩
  · exact .tooLong .self hlong
  obtain ⟨-, rfl⟩ := Tree.checkFile_eq_ok_iff.1 hcheck
  split at h
  · exact absurd h pure_ne_error
  rename_i hfile
  split at h
  · rename_i hdirectory
    obtain ⟨d, hp, hdirectory⟩ := Tree.isDirectory_iff.1 hdirectory
    exact faults_of_filesOfDirectory hp hdirectory h
  · rename_i hdirectory
    refine faults_of_filesOfGlob ?_ h
    rw [Tree.isEntry_eq, Bool.eq_false_iff.2 hfile, Bool.eq_false_iff.2 hdirectory, Bool.false_or]

end Target

end SolidityLint
