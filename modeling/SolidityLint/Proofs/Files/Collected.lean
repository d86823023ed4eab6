import SolidityLint.Files.Target
import SolidityLint.Proofs.Files.Path
import SolidityLint.Proofs.Steps

/-!
# Collected files

The files that targets stand for are looked up, read and written by their paths.

* `locate_eq_resolve`: a path leads to the location that it denotes, if it leads anywhere.
* `isNamed_of_mem_collect`: the paths of collected files consist of names, so they survive being
  written as texts.
* `pairwise_resolve_collect`: no two of them denote the same location.
-/

namespace SolidityLint

/-! ## Locations -/

namespace Tree

variable {t : Tree} {p : Path} {l m : Location}

/-- A step on the way starts in a directory, where no file lies, and its name is not too long. -/
theorem walk_cons_eq_ok_iff {part : Text} {parts : List Text} :
    t.walk l (part :: parts) = .ok m ↔ t.hasDirectory l = true ∧ t.hasFile l = false ∧
      exceeds maxPartBytes part = false ∧ t.walk (Path.step l part) parts = .ok m := by
  rw [walk]
  cases t.hasDirectory l <;> cases t.hasFile l <;> cases exceeds maxPartBytes part <;> simp

theorem locate_eq_ok_iff : t.locate p = .ok l ↔
    p.hasNull = false ∧ exceeds maxPathBytes p.text = false ∧
      t.walk (if p.isAbsolute then [] else t.here) p.parts = .ok l := by
  rw [locate]
  cases p.hasNull <;> cases exceeds maxPathBytes p.text <;> simp

theorem walk_ne_nullCharacter {parts : List Text} : t.walk l parts ≠ .error .nullCharacter := by
  induction parts generalizing l with
  | nil => simp [walk]
  | cons part parts ih =>
      rw [walk]
      split
      · simp
      · split
        · simp
        · split
          · simp
          · exact ih

theorem locate_eq_nullCharacter_iff :
    t.locate p = .error .nullCharacter ↔ p.hasNull = true := by
  rw [locate]
  cases p.hasNull with
  | true => simp
  | false => cases exceeds maxPathBytes p.text <;> simp [walk_ne_nullCharacter]

/-- Why a path cannot be read tells whether it holds a null character. -/
theorem fault_eq_nullCharacter_iff {e : FileError} (h : t.read p = .error e) :
    e.fault = .nullCharacter ↔ p.hasNull = true := by
  rw [read] at h
  rw [← t.locate_eq_nullCharacter_iff]
  cases hlocate : t.locate p with
  | error fault =>
      rw [hlocate] at h
      obtain rfl := Except.error.inj h
      simp
  | ok l =>
      simp only [hlocate] at h
      split at h
      · cases h
      · obtain rfl := Except.error.inj h
        cases t.hasDirectory l <;> simp

theorem walk_eq_foldl {parts : List Text} (h : t.walk l parts = .ok m) :
    m = parts.foldl Path.step l := by
  induction parts generalizing l with
  | nil => exact (Except.ok.inj h).symm
  | cons part parts ih =>
      obtain ⟨-, -, -, hrest⟩ := walk_cons_eq_ok_iff.1 h
      exact ih hrest

/-- A path leads to the location that it denotes, if it leads anywhere. -/
theorem locate_eq_resolve (h : t.locate p = .ok l) : l = p.resolve t.here := by
  obtain ⟨-, -, hwalk⟩ := locate_eq_ok_iff.1 h
  exact walk_eq_foldl hwalk

theorem checkFile_eq_ok_iff {found : Bool} :
    t.checkFile p = .ok found ↔ t.locate p ≠ .error .tooLong ∧ t.isFile p = found := by
  rw [checkFile, isFile, leadsTo]
  cases t.locate p with
  | ok l => simp
  | error fault => cases fault <;> simp

theorem checkFile_eq_error_iff {e : FileError} :
    t.checkFile p = .error e ↔ t.locate p = .error .tooLong ∧ e = ⟨.tooLong, p⟩ := by
  rw [checkFile]
  cases t.locate p with
  | ok l => simp
  | error fault => cases fault <;> simp [eq_comm]

/-! ## Names -/

/-- A tree whose entries have names, as those of a file system do: no name is empty, a single dot
or holds a slash. -/
def IsNamed (t : Tree) : Prop :=
  ∀ l ∈ t.listed, ∀ name ∈ l, Path.IsName name

variable {parts : List Text} {ps : List Path} {q : Path}

theorem isName_of_mem_entryNames (ht : t.IsNamed) {d : Location} {name : Text}
    (h : name ∈ t.entryNames d) : Path.IsName name := by
  rw [entryNames, List.mem_eraseDups] at h
  obtain ⟨l, hl, hname⟩ := List.mem_filterMap.1 h
  split at hname
  · exact ht l hl name (List.mem_of_getElem? hname)
  · simp at hname

theorem isName_of_mem_waysBelow (ht : t.IsNamed) {d : Location} {way : List Text}
    (h : way ∈ t.waysBelow d) : ∀ name ∈ way, Path.IsName name := by
  rw [waysBelow, List.mem_eraseDups] at h
  obtain ⟨l, hl, hway⟩ := List.mem_flatMap.1 h
  obtain ⟨n, -, rfl⟩ := List.mem_map.1 hway
  intro name hname
  have hmem := List.mem_of_mem_take hname
  split at hmem
  · exact ht l hl name (List.mem_of_mem_drop hmem)
  · simp at hmem

theorem isNamed_of_mem_globPart (ht : t.IsNamed) {isLast : Bool} {part : Text}
    (hpart : Path.IsName part) (hp : p.IsNamed) (h : q ∈ t.globPart isLast part p) :
    q.IsNamed := by
  rw [globPart] at h
  split at h
  · split at h
    · exact List.mem_singleton.1 h ▸ hp
    · rcases List.mem_cons.1 h with rfl | h
      · exact hp
      · obtain ⟨way, hway, rfl⟩ := List.mem_map.1 (List.mem_filter.1 h).1
        exact hp.append (isName_of_mem_waysBelow ht (List.mem_filter.1 hway).1)
  split at h
  · split at h
    · simp at h
    · obtain ⟨name, hname, rfl⟩ := List.mem_map.1 (List.mem_filter.1 h).1
      exact hp.child (isName_of_mem_entryNames ht (List.mem_filter.1 hname).1)
  · exact List.mem_singleton.1 (List.mem_filter.1 h).1 ▸ hp.child hpart

theorem isNamed_of_mem_globParts (ht : t.IsNamed) (hparts : ∀ part ∈ parts, Path.IsName part)
    (hps : ∀ p ∈ ps, p.IsNamed) (h : q ∈ t.globParts parts ps) : q.IsNamed := by
  induction parts generalizing ps with
  | nil => exact hps q h
  | cons part parts ih =>
      refine ih (fun x hx => hparts x (List.mem_cons_of_mem _ hx)) (fun x hx => ?_) h
      obtain ⟨p, hp, hx⟩ := List.mem_flatMap.1 hx
      exact isNamed_of_mem_globPart ht (hparts part (List.mem_cons_self ..)) (hps p hp) hx

theorem isNamed_of_mem_glob (ht : t.IsNamed) (hp : p.IsNamed) (h : t.glob p = .ok ps)
    (hq : q ∈ ps) : q.IsNamed := by
  have hplain : Path.IsNamed ⟨p.start, p.parts.takeWhile fun part => !Wildcard.isMagic part⟩ :=
    fun part hpart => hp part ((List.takeWhile_prefix _).mem hpart)
  have hmagic : ∀ part ∈ p.parts.dropWhile fun part => !Wildcard.isMagic part,
      Path.IsName part := fun part hpart => hp part ((List.dropWhile_suffix _).mem hpart)
  simp only [glob] at h
  split at h
  · rw [← Except.ok.inj h] at hq
    exact List.mem_singleton.1 hq ▸ hplain
  split at h
  · simp at h
  · rw [← Except.ok.inj h] at hq
    exact isNamed_of_mem_globParts ht hmagic
      (fun x hx => List.mem_singleton.1 hx ▸ hplain) hq

end Tree

namespace Target

variable {t : Tree} {s : Settings} {extensions ignored targets : List Text} {p q : Path}
  {ps found : List Path}

/-- Some paths are gone through if none of them is too long; the files among them are found. -/
theorem filesAmong_eq_ok (h : filesAmong t extensions ps = .ok found) :
    (∀ p ∈ ps, t.locate p ≠ .error .tooLong) ∧
      ∀ q, q ∈ found ↔ q ∈ ps ∧ t.isFile q = true ∧ q.suffix ∈ extensions := by
  induction ps generalizing found with
  | nil => exact ⟨by simp, fun q => by simp [← Except.ok.inj h]⟩
  | cons p ps ih =>
      simp only [filesAmong, bind_eq_ok_iff, pure_eq_ok_iff, Tree.checkFile_eq_ok_iff] at h
      obtain ⟨isFile, ⟨hp, rfl⟩, rest, hrest, rfl⟩ := h
      obtain ⟨hshort, hmem⟩ := ih hrest
      refine ⟨List.forall_mem_cons.2 ⟨hp, hshort⟩, fun q => ?_⟩
      have hkept : (t.isFile p && hasSuffix extensions p) = true ↔
          t.isFile p = true ∧ p.suffix ∈ extensions := by
        rw [Bool.and_eq_true, hasSuffix, List.contains_iff_mem]
      split
      · rename_i hfile
        rw [List.mem_cons, List.mem_cons, hmem]
        constructor
        · rintro (rfl | ⟨hq, hrest⟩)
          · exact ⟨.inl rfl, hkept.1 hfile⟩
          · exact ⟨.inr hq, hrest⟩
        · rintro ⟨rfl | hq, hrest⟩
          · exact .inl rfl
          · exact .inr ⟨hq, hrest⟩
      · rename_i hfile
        rw [List.mem_cons, hmem]
        refine and_congr_left fun hq => (or_iff_right ?_).symm
        rintro rfl
        exact hfile (hkept.2 hq)

theorem isNamed_of_mem_filesOfDirectory (ht : t.IsNamed) (hp : p.IsNamed)
    (h : filesOfDirectory t extensions p = .ok found) (hq : q ∈ found) : q.IsNamed := by
  rw [filesOfDirectory] at h
  split at h
  · exact absurd (Except.ok.inj h ▸ hq) List.not_mem_nil
  · obtain ⟨qs, hqs, rfl⟩ := map_eq_ok_iff.1 h
    rw [Path.sort, List.mem_mergeSort] at hq
    obtain ⟨way, hway, rfl⟩ :=
      List.mem_map.1 (((filesAmong_eq_ok hqs).2 q).1 (List.mem_filter.1 hq).1).1
    exact hp.append (Tree.isName_of_mem_waysBelow ht hway)

theorem isNamed_of_mem_files (ht : t.IsNamed) (hp : p.IsNamed)
    (h : files t extensions p = .ok found) (hq : q ∈ found) : q.IsNamed := by
  rw [files, bind_eq_ok_iff] at h
  obtain ⟨isFile, -, h⟩ := h
  split at h
  · rw [← pure_eq_ok_iff.1 h] at hq
    exact List.mem_singleton.1 hq ▸ hp
  split at h
  · exact isNamed_of_mem_filesOfDirectory ht hp h hq
  · simp only [filesOfGlob, bind_eq_ok_iff, pure_eq_ok_iff] at h
    obtain ⟨qs, hglob, among, hamong, rfl⟩ := h
    rw [Path.sort, List.mem_mergeSort] at hq
    exact Tree.isNamed_of_mem_glob ht hp hglob (((filesAmong_eq_ok hamong).2 q).1 hq).1

theorem isNamed_of_mem_filesOfAll (ht : t.IsNamed) (hps : ∀ p ∈ ps, p.IsNamed)
    (h : filesOfAll t extensions ps = .ok found) (hq : q ∈ found) : q.IsNamed := by
  induction ps generalizing found with
  | nil =>
      rw [← Except.ok.inj h] at hq
      simp at hq
  | cons p ps ih =>
      simp only [filesOfAll, bind_eq_ok_iff, pure_eq_ok_iff] at h
      obtain ⟨first, hfirst, rest, hrest, rfl⟩ := h
      rcases List.mem_append.1 hq with hq | hq
      · exact isNamed_of_mem_files ht (hps p (List.mem_cons_self ..)) hfirst hq
      · exact ih (fun x hx => hps x (List.mem_cons_of_mem _ hx)) hrest hq

/-! ## Picking -/

theorem mem_of_mem_pick {here : Location} {isExcluded : Path → Bool} {seen : List Location}
    (h : q ∈ pick here isExcluded seen ps) : q ∈ ps ∧ q.resolve here ∉ seen := by
  induction ps generalizing seen with
  | nil => simp [pick] at h
  | cons p ps ih =>
      rw [pick] at h
      split at h
      · exact ⟨List.mem_cons_of_mem _ (ih h).1, (ih h).2⟩
      · rename_i hnew
        rcases List.mem_cons.1 h with rfl | h
        · refine ⟨List.mem_cons_self .., fun hseen => hnew ?_⟩
          rw [List.contains_iff_mem.2 hseen, Bool.true_or]
        · exact ⟨List.mem_cons_of_mem _ (ih h).1, fun hseen =>
            (ih h).2 (List.mem_cons_of_mem _ hseen)⟩

theorem pairwise_pick {here : Location} {isExcluded : Path → Bool} {seen : List Location}
    (ps : List Path) :
    (pick here isExcluded seen ps).Pairwise fun p q => p.resolve here ≠ q.resolve here := by
  induction ps generalizing seen with
  | nil => exact .nil
  | cons p ps ih =>
      rw [pick]
      split
      · exact ih
      · refine List.Pairwise.cons (fun q hq heq => ?_) ih
        exact (mem_of_mem_pick hq).2 (heq ▸ List.mem_cons_self ..)

theorem collect_eq_ok_iff : collect t s ignored none targets = .ok ps ↔
    ∃ all, filesOfAll t s.extensions (targets.map Path.ofText) = .ok all ∧
      pick t.here (Path.isExcluded t.here (.ofLocation t.here) (s.excluded ++ ignored)) [] all =
        ps := by
  have hpaths : targets.map (pathOf none) = targets.map Path.ofText := rfl
  rw [collect, hpaths, map_eq_ok_iff]
  rfl

/-- The paths of collected files consist of names. -/
theorem isNamed_of_mem_collect (ht : t.IsNamed)
    (h : collect t s ignored none targets = .ok ps) (hp : p ∈ ps) : p.IsNamed := by
  obtain ⟨all, hall, rfl⟩ := collect_eq_ok_iff.1 h
  refine isNamed_of_mem_filesOfAll ht (fun q hq => ?_) hall (mem_of_mem_pick hp).1
  obtain ⟨target, -, rfl⟩ := List.mem_map.1 hq
  exact Path.isNamed_ofText target

/-- No two collected files denote the same location. -/
theorem pairwise_resolve_collect (h : collect t s ignored none targets = .ok ps) :
    ps.Pairwise fun p q => p.resolve t.here ≠ q.resolve t.here := by
  obtain ⟨all, -, rfl⟩ := collect_eq_ok_iff.1 h
  exact pairwise_pick all

end Target

end SolidityLint
