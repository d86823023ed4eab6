import SolidityLint.Proofs.Files.Below

/-!
# What a path with wildcards stands for

The rules for wildcards are stated part by part, by what is in the tree and not by how it is
searched (`Tree.LeadsBy`).  A path with wildcards stands for the paths that its parts lead to one
after the other, from what comes before the first wildcard on (`Tree.StandsFor`).  These are the
paths that are found (`Tree.mem_of_glob`), and a path with wildcards cannot be used only if there
is a null character before its first wildcard (`Tree.glob_eq_error`).
-/

namespace SolidityLint

namespace Path

/-- What comes before the first wildcard of a path. -/
def stem (pattern : Path) : Path :=
  ⟨pattern.start, pattern.parts.takeWhile fun part => !Wildcard.isMagic part⟩

/-- The parts of a path from its first wildcard on. -/
def wild (pattern : Path) : List Text :=
  pattern.parts.dropWhile fun part => !Wildcard.isMagic part

end Path

namespace Tree

/-- One part of a path with wildcards leads from a path to another.  If it is not the last part,
wildcards lead to directories only. -/
inductive LeadsBy (t : Tree) (isLast : Bool) : Text → Path → Path → Prop where
  /-- A part without wildcards leads to the entry that has its name. -/
  | plain {part : Text} {p : Path} (hpart : Wildcard.isMagic part = false)
      (hentry : t.isEntry (p.child part) = true) : LeadsBy t isLast part p (p.child part)
  /-- A part with wildcards leads to the entries whose names match it, to a name with a dot in
  front only if it has one itself. -/
  | name {part name : Text} {p : Path} {d : Location} (hpart : Wildcard.isMagic part = true)
      (hdepth : part ≠ anyDepth) (hp : t.locate p = .ok d)
      (hentry : t.hasEntry (d ++ [name]) = true)
      (hmatches : Wildcard.Matches (Wildcard.ofText part) name)
      (hhidden : isHidden name = true → isHidden part = true)
      (hon : isLast = true ∨ t.isDirectory (p.child name) = true) :
      LeadsBy t isLast part p (p.child name)
  /-- Two stars may stand for no directory at all. -/
  | stay (p : Path) : LeadsBy t isLast anyDepth p p
  /-- They lead to every entry below, along names without a dot in front. -/
  | descend {p : Path} {d : Location} {way : List Text} (hp : t.locate p = .ok d) (hne : way ≠ [])
      (hentry : t.hasEntry (d ++ way) = true) (hhidden : ∀ name ∈ way, isHidden name = false)
      (hon : isLast = true ∨ t.isDirectory ⟨p.start, p.parts ++ way⟩ = true) :
      LeadsBy t isLast anyDepth p ⟨p.start, p.parts ++ way⟩

/-- The remaining parts of a path with wildcards lead from a path to another. -/
def Leads (t : Tree) : List Text → Path → Path → Prop
  | [], p, q => q = p
  | part :: parts, p, q => ∃ next, t.LeadsBy parts.isEmpty part p next ∧ Leads t parts next q

/-- A path, with or without wildcards, stands for another one. -/
def StandsFor (t : Tree) (pattern q : Path) : Prop :=
  t.Leads pattern.wild pattern.stem q

variable {t : Tree} {isLast : Bool} {part : Text} {parts : List Text} {p q pattern : Path}
  {ps qs : List Path} {d : Location}

/-! ## One part -/

theorem mem_visibleBelow_iff {way : List Text} : way ∈ t.visibleBelow d ↔
    way ≠ [] ∧ t.hasEntry (d ++ way) = true ∧ ∀ name ∈ way, isHidden name = false := by
  rw [visibleBelow, List.mem_filter, mem_waysBelow_iff, and_assoc, Bool.not_eq_true',
    List.any_eq_false]
  simp only [Bool.not_eq_true]

theorem leadsBy_of_mem_globPart (h : q ∈ t.globPart isLast part p) :
    t.LeadsBy isLast part p q := by
  rw [globPart] at h
  split at h
  · rename_i hdepth
    subst hdepth
    split at h
    · obtain rfl := List.mem_singleton.1 h
      exact .stay q
    · rename_i d hp
      rcases List.mem_cons.1 h with rfl | h
      · exact .stay q
      · obtain ⟨hmem, hon⟩ := List.mem_filter.1 h
        obtain ⟨way, hway, rfl⟩ := List.mem_map.1 hmem
        obtain ⟨hne, hentry, hhidden⟩ := mem_visibleBelow_iff.1 hway
        exact .descend hp hne hentry hhidden (Bool.or_eq_true_iff.1 hon)
  rename_i hdepth
  split at h
  · rename_i hpart
    split at h
    · exact absurd h List.not_mem_nil
    · rename_i d hp
      obtain ⟨hmem, hon⟩ := List.mem_filter.1 h
      obtain ⟨name, hname, rfl⟩ := List.mem_map.1 hmem
      obtain ⟨hentry, hfits⟩ := List.mem_filter.1 hname
      obtain ⟨hhidden, hmatches⟩ := Bool.and_eq_true_iff.1 hfits
      refine .name hpart hdepth hp (mem_entryNames_iff.1 hentry)
        ((Wildcard.accepts_iff ..).1 hmatches) (fun hdot => ?_) (Bool.or_eq_true_iff.1 hon)
      simpa [hdot] using hhidden
  · rename_i hpart
    obtain ⟨hmem, hentry⟩ := List.mem_filter.1 h
    obtain rfl := List.mem_singleton.1 hmem
    exact .plain (Bool.eq_false_iff.2 hpart) hentry

theorem mem_globPart_of_leadsBy (h : t.LeadsBy isLast part p q) :
    q ∈ t.globPart isLast part p := by
  cases h with
  | plain hpart hentry =>
      have hdepth : part ≠ anyDepth := fun heq => by
        rw [heq] at hpart
        exact absurd hpart (by decide)
      rw [globPart, if_neg hdepth, if_neg (Bool.eq_false_iff.1 hpart)]
      exact List.mem_filter.2 ⟨List.mem_singleton_self _, hentry⟩
  | @name _ name _ d hpart hdepth hp hentry hmatches hhidden hon =>
      rw [globPart, if_neg hdepth, if_pos hpart, hp]
      refine List.mem_filter.2 ⟨List.mem_map.2 ⟨name, List.mem_filter.2
        ⟨mem_entryNames_iff.2 hentry, ?_⟩, rfl⟩, Bool.or_eq_true_iff.2 hon⟩
      rw [Wildcard.textMatches, (Wildcard.accepts_iff ..).2 hmatches, Bool.and_true]
      cases hdot : isHidden name with
      | false => exact Bool.or_true _
      | true => rw [hhidden hdot, Bool.true_or]
  | stay =>
      rw [globPart, if_pos rfl]
      split
      · exact List.mem_singleton_self _
      · exact List.mem_cons_self ..
  | @descend _ d way hp hne hentry hhidden hon =>
      rw [globPart, if_pos rfl, hp]
      exact List.mem_cons_of_mem _ (List.mem_filter.2
        ⟨List.mem_map.2 ⟨way, mem_visibleBelow_iff.2 ⟨hne, hentry, hhidden⟩, rfl⟩,
          Bool.or_eq_true_iff.2 hon⟩)

theorem mem_globPart_iff : q ∈ t.globPart isLast part p ↔ t.LeadsBy isLast part p q :=
  ⟨leadsBy_of_mem_globPart, mem_globPart_of_leadsBy⟩

/-! ## All parts -/

theorem mem_globParts_iff : q ∈ t.globParts parts ps ↔ ∃ p ∈ ps, t.Leads parts p q := by
  induction parts generalizing ps with
  | nil => simp [globParts, Leads]
  | cons part parts ih =>
      rw [globParts, ih]
      constructor
      · rintro ⟨next, hnext, hrest⟩
        obtain ⟨p, hp, hnext⟩ := List.mem_flatMap.1 hnext
        exact ⟨p, hp, next, mem_globPart_iff.1 hnext, hrest⟩
      · rintro ⟨p, hp, next, hnext, hrest⟩
        exact ⟨next, List.mem_flatMap.2 ⟨p, hp, mem_globPart_iff.2 hnext⟩, hrest⟩

theorem glob_eq (t : Tree) (pattern : Path) : t.glob pattern =
    if pattern.wild ≠ [] ∧ pattern.stem.hasNull = true then
      .error ⟨.nullCharacter, pattern.stem⟩
    else .ok (t.globParts pattern.wild [pattern.stem]) := by
  simp only [glob]
  split
  · rename_i hwild
    have hwild : pattern.wild = [] := hwild
    rw [if_neg fun h => h.1 hwild, hwild]
    rfl
  · rename_i hwild
    have hwild : pattern.wild ≠ [] := hwild
    simp only [hwild, ne_eq, not_false_iff, true_and]
    rfl

/-- **A path with wildcards is searched for what it stands for.** -/
theorem mem_of_glob (h : t.glob pattern = .ok qs) :
    ¬(pattern.wild ≠ [] ∧ pattern.stem.hasNull = true) ∧
      ∀ q, q ∈ qs ↔ t.StandsFor pattern q := by
  rw [glob_eq] at h
  split at h
  · simp at h
  · rename_i hnull
    refine ⟨hnull, fun q => ?_⟩
    rw [← Except.ok.inj h, mem_globParts_iff]
    simp only [List.mem_singleton, exists_eq_left]
    exact Iff.rfl

/-- The only fault of a path with wildcards. -/
theorem glob_eq_error {e : FileError} (h : t.glob pattern = .error e) :
    (pattern.wild ≠ [] ∧ pattern.stem.hasNull = true) ∧ e = ⟨.nullCharacter, pattern.stem⟩ := by
  rw [glob_eq] at h
  split at h
  · rename_i hnull
    exact ⟨hnull, (Except.error.inj h).symm⟩
  · simp at h

end Tree

end SolidityLint
