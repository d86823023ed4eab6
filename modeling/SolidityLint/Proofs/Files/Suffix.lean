import SolidityLint.Proofs.Files.Choice

/-!
# Files and their suffixes

The suffix of a name is what follows its last dot, with this dot (`Path.suffixOf_append_iff`).  So a
file below a directory is collected for a suffix that holds no other dot, whatever comes before it
in the name.  A suffix that holds a second dot is allowed by the settings but is no name's suffix:
files whose names end in it are collected only for the part from the last dot on, or as targets of
their own (`Target.collect_suffix`).

* `Tree.name_eq_of_isFile`: a path of a file ends in the name of the file.
* `Target.suffix_mem_of_yields`: what a target yields is the target or has one of the suffixes.
* `Target.IsCandidate.collected_iff`: which files below a directory are collected.
-/

namespace SolidityLint

namespace Path

variable {stem rest : Text}

/-! ## The suffix of a name -/

theorem suffixOf_append (hstem : stem ≠ []) (hrest : rest ≠ []) (hdot : '.' ∉ rest) :
    suffixOf (stem ++ '.' :: rest) = '.' :: rest := by
  have hreverse : (stem ++ '.' :: rest).reverse = rest.reverse ++ '.' :: stem.reverse := by simp
  have hkept : ∀ c ∈ rest.reverse, decide (c ≠ '.') = true := fun c hc =>
    decide_eq_true fun heq => hdot (heq ▸ List.mem_reverse.1 hc)
  rw [suffixOf, hreverse, List.takeWhile_append_of_pos hkept, List.dropWhile_append_of_pos hkept,
    List.takeWhile_cons_of_neg (by simp), List.dropWhile_cons_of_neg (by simp), List.append_nil,
    List.reverse_reverse, List.reverse_cons, List.reverse_reverse]
  cases rest with
  | nil => exact absurd rfl hrest
  | cons c cs =>
      cases stem with
      | nil => exact absurd rfl hstem
      | cons d ds => cases ds <;> rfl

/-- After its first character a suffix holds no dot. -/
theorem dot_notMem_suffixOf (name : Text) : '.' ∉ (suffixOf name).tail := by
  rw [suffixOf]
  split
  · next c cs _ _ _ hafter _ =>
    intro hmem
    rw [List.tail_cons, ← hafter, List.mem_reverse] at hmem
    have hdot := List.all_eq_true.1 List.all_takeWhile _ hmem
    exact of_decide_eq_true hdot rfl
  · exact List.not_mem_nil

/-- **A name has the suffix that it ends in, if this has no other dot than its first.** -/
theorem suffixOf_append_iff (hstem : stem ≠ []) (hrest : rest ≠ []) :
    suffixOf (stem ++ '.' :: rest) = '.' :: rest ↔ '.' ∉ rest := by
  constructor
  · intro h
    have hdot := dot_notMem_suffixOf (stem ++ '.' :: rest)
    rwa [h, List.tail_cons] at hdot
  · exact suffixOf_append hstem hrest

end Path

namespace Tree

variable {t : Tree} {p : Path} {l : Location}

/-! ## The name of a file -/

/-- The path of a file ends in the name of the file. -/
theorem name_eq_of_isFile (ht : t.IsSound) (hne : p.parts ≠ []) (h : t.isFile p = true) :
    (p.resolve t.here).getLast? = some p.name := by
  obtain ⟨l, hl, hfile⟩ := isFile_iff.1 h
  obtain rfl := locate_eq_resolve hl
  obtain ⟨-, -, hwalk⟩ := locate_eq_ok_iff.1 hl
  rw [Path.parts_eq_concat hne] at hwalk
  obtain ⟨d, hdirectory, hstep⟩ := exists_of_walk_concat hwalk
  rw [hstep] at hfile ⊢
  rw [Path.step] at hfile ⊢
  split at hfile
  · have habove := hasDirectory_of_isPrefix hdirectory (List.dropLast_prefix d)
    rw [ht.not_hasFile habove] at hfile
    cases hfile
  · rename_i hdown
    rw [if_neg hdown, List.getLast?_concat]

end Tree

namespace Target

variable {t : Tree} {s : Settings} {extensions ignored targets : List Text} {base : Option Path}
  {target p q : Path} {ps : List Path} {way : List Text} {stem e name : Text} {l : Location}

/-! ## The suffix of what is collected -/

theorem suffix_concat (start : Start) (parts : List Text) (name : Text) :
    Path.suffix ⟨start, parts ++ [name]⟩ = Path.suffixOf name := by
  rw [Path.suffix, Path.name, List.getLastD_eq_getLast?, List.getLast?_concat, Option.getD_some]

/-- What a target yields is the target itself, or its name has one of the suffixes. -/
theorem suffix_mem_of_yields (ht : t.IsSound) (hs : s.Valid) (hfile : t.isFile p = true)
    (hl : p.resolve t.here = l ++ [name]) (h : Yields t s.extensions target p) :
    p = target ∨ Path.suffixOf name ∈ s.extensions := by
  have hname (hsuffix : p.suffix ∈ s.extensions) : Path.suffixOf name ∈ s.extensions := by
    have hne : p.parts ≠ [] := by
      intro hnil
      obtain ⟨rest, hrest⟩ := hs.extensions_dot _ hsuffix
      rw [Path.suffix, Path.name, hnil] at hrest
      cases hrest
    have hlast := Tree.name_eq_of_isFile ht hne hfile
    rw [hl, List.getLast?_concat, Option.some.injEq] at hlast
    rwa [Path.suffix, ← hlast] at hsuffix
  cases h with
  | file => exact .inl rfl
  | below _ _ _ hsuffix => exact .inr (hname hsuffix)
  | matched _ _ _ hsuffix => exact .inr (hname hsuffix)

/-- A file of a given name lies below a target that is a directory, in no directory that is left
out, and its path is not excluded. -/
structure IsCandidate (t : Tree) (s : Settings) (ignored : List Text) (base : Option Path)
    (target : Path) (way : List Text) (name : Text) : Prop where
  /-- The target is a directory. -/
  isDirectory : t.isDirectory target = true
  /-- The file lies below it. -/
  hasFile : t.hasFile (target.resolve t.here ++ (way ++ [name])) = true
  /-- No directory on the way is left out. -/
  kept : ∀ part ∈ way, part ∉ ignoredDirectories
  /-- The path is not excluded. -/
  included : leavesOutFrom t s ignored base ⟨target.start, target.parts ++ (way ++ [name])⟩ = false

namespace IsCandidate

/-- A candidate whose name has one of the suffixes is yielded by its target. -/
theorem yields (h : IsCandidate t s ignored base target way name)
    (hsuffix : Path.suffixOf name ∈ s.extensions) :
    Yields t s.extensions target ⟨target.start, target.parts ++ (way ++ [name])⟩ := by
  obtain ⟨d, hd, hdirectory⟩ := Tree.isDirectory_iff.1 h.isDirectory
  have hfile := h.hasFile
  rw [← Tree.locate_eq_resolve hd] at hfile
  refine .below hd hdirectory hfile ?_ ?_
  · rwa [← List.append_assoc, suffix_concat]
  · rw [List.dropLast_concat]
    exact h.kept

/-- The path of a candidate denotes its location, unless its target has a fault. -/
theorem resolve_eq (ht : t.IsSound) (h : IsCandidate t s ignored base target way name)
    (hnoFault : ∀ fault, ¬Faults t target fault) :
    Path.resolve t.here ⟨target.start, target.parts ++ (way ++ [name])⟩ =
      target.resolve t.here ++ (way ++ [name]) := by
  obtain ⟨d, hd, hdirectory⟩ := Tree.isDirectory_iff.1 h.isDirectory
  have hfile := h.hasFile
  rw [← Tree.locate_eq_resolve hd] at hfile ⊢
  have hentry := Tree.hasEntry_of_hasFile hfile
  refine (Tree.locate_eq_resolve ((Tree.locate_below ht hd hentry).resolve_right ?_)).symm
  exact fun hlong => hnoFault _ (.tooLong (.entry hd hdirectory (by simp) hentry) hlong)

/-- A candidate is collected if its name has one of the suffixes, or if it is a target itself. -/
theorem collected_iff (ht : t.IsSound) (hs : s.Valid)
    (hcollect : collect t s ignored base targets = .ok ps)
    (htarget : target ∈ targets.map (pathOf base))
    (h : IsCandidate t s ignored base target way name) :
    (∃ p ∈ ps, p.resolve t.here = target.resolve t.here ++ (way ++ [name])) ↔
      Path.suffixOf name ∈ s.extensions ∨ ∃ other ∈ targets.map (pathOf base),
        t.isFile other = true ∧ leavesOutFrom t s ignored base other = false ∧
        other.resolve t.here = target.resolve t.here ++ (way ++ [name]) := by
  constructor
  · rintro ⟨p, hp, hl⟩
    obtain ⟨hfile, hkept, other, hother, hyields⟩ := yielded_of_mem_collectFrom ht hcollect hp
    have hl' := hl
    rw [← List.append_assoc] at hl'
    rcases suffix_mem_of_yields ht hs hfile hl' hyields with rfl | hsuffix
    · exact .inr ⟨p, hother, hfile, hkept, hl⟩
    · exact .inl hsuffix
  · rintro (hsuffix | ⟨other, hother, hfile, hkept, hl⟩)
    · rw [← h.resolve_eq ht ((exists_of_collectFrom ht hcollect).1 target htarget)]
      exact exists_mem_collectFrom ht hcollect htarget (h.yields hsuffix) h.included
    · rw [← hl]
      exact exists_mem_collectFrom ht hcollect hother (.file hfile) hkept

end IsCandidate

/-- **A configured suffix is collected if it holds no second dot.**  A file below a directory whose
name ends in a configured suffix is collected if the suffix has no other dot than its first;
otherwise it is if the part of its name from the last dot on is configured, too, or if the file is
a target itself.  Only faults of targets keep anything from being collected. -/
theorem collect_suffix (ht : t.IsSound) (hs : s.Valid) (ignored : List Text)
    (htarget : target ∈ targets.map (pathOf base)) (hstem : stem ≠ []) (he : e ∈ s.extensions)
    (hlength : 2 ≤ e.length) (h : IsCandidate t s ignored base target way (stem ++ e)) :
    (Path.suffixOf (stem ++ e) = e ↔ '.' ∉ e.tail) ∧
    match collect t s ignored base targets with
    | .error fault => ∃ other ∈ targets.map (pathOf base), Faults t other fault
    | .ok ps =>
        let collected := ∃ p ∈ ps, p.resolve t.here = target.resolve t.here ++ (way ++ [stem ++ e])
        ('.' ∉ e.tail → collected) ∧
        (collected ↔ Path.suffixOf (stem ++ e) ∈ s.extensions ∨
          ∃ other ∈ targets.map (pathOf base), t.isFile other = true ∧
            leavesOutFrom t s ignored base other = false ∧
            other.resolve t.here = target.resolve t.here ++ (way ++ [stem ++ e])) := by
  have hsuffix : Path.suffixOf (stem ++ e) = e ↔ '.' ∉ e.tail := by
    obtain ⟨rest, rfl⟩ := hs.extensions_dot e he
    have hrest : rest ≠ [] := by
      rintro rfl
      exact absurd hlength (by decide)
    exact Path.suffixOf_append_iff hstem hrest
  refine ⟨hsuffix, ?_⟩
  cases hcollect : collect t s ignored base targets with
  | error fault =>
      rw [collect, map_eq_error_iff] at hcollect
      exact faults_of_filesOfAll hcollect
  | ok ps =>
      have hcollected := h.collected_iff ht hs hcollect htarget
      refine ⟨fun hdot => hcollected.2 (.inl ?_), hcollected⟩
      rwa [hsuffix.2 hdot]

/-! ## A file whose name has two dots -/

/-- A project with a file whose name has two dots. -/
def testTree : Tree where
  files := [(["src".toList, "A.t.sol".toList], [])]
  directories := []
  here := []

/-- Settings with given suffixes. -/
def suffixSettings (extensions : List String) : Settings :=
  { extensions := extensions.map String.toList }

theorem isSound_testTree : testTree.IsSound := by decide +kernel

theorem valid_suffixSettings {extensions : List String} (hne : extensions ≠ [])
    (h : ∀ e ∈ extensions, ∃ rest, e.toList = '.' :: rest) : (suffixSettings extensions).Valid where
  excluded_ne_nil := nofun
  extensions_ne_nil := fun hnil => hne (List.map_eq_nil_iff.1 hnil)
  extensions_dot := List.forall_mem_map.2 h
  one_le_lineLength := Nat.le_add_left 1 119
  formatter_ne_nil := List.cons_ne_nil _ _

theorem isCandidate_testTree (extensions : List String) : IsCandidate testTree
    (suffixSettings extensions) [] none (.ofText "src".toList) [] "A.t.sol".toList where
  isDirectory := by decide +kernel
  hasFile := by decide +kernel
  kept := List.forall_mem_nil _
  included := rfl

theorem collect_testTree : collect testTree (suffixSettings [".t.sol"]) [] none ["src".toList] =
    .ok [] := by
  have hbelow : filesOfDirectory testTree [".t.sol".toList] (.ofText "src".toList) = .ok [] :=
    congrArg Except.ok List.mergeSort_nil
  exact collect_eq_ok_iff.2 ⟨[], filesOfAll_cons_eq_ok_iff.2 ⟨[], [], hbelow, rfl, rfl⟩, rfl⟩

theorem collect_testTree_last : collect testTree (suffixSettings [".sol", ".t.sol"]) [] none
    ["src".toList] = .ok [.ofText "src/A.t.sol".toList] := by
  have hbelow : filesOfDirectory testTree [".sol".toList, ".t.sol".toList] (.ofText "src".toList) =
      .ok [.ofText "src/A.t.sol".toList] :=
    congrArg Except.ok (List.mergeSort_singleton _)
  exact collect_eq_ok_iff.2 ⟨[_], filesOfAll_cons_eq_ok_iff.2 ⟨[_], [], hbelow, rfl, rfl⟩, rfl⟩

/-- For both of its dots the file is not collected, for the last one it is. -/
theorem collect_suffix_of_testTree :
    let collects (extensions : List String) : Prop :=
      match collect testTree (suffixSettings extensions) [] none ["src".toList] with
      | .error _ => False
      | .ok ps => ∃ p ∈ ps, p.resolve [] = ["src".toList, "A.t.sol".toList]
    ¬collects [".t.sol"] ∧ collects [".sol", ".t.sol"] := by
  intro collects
  have htarget : Path.ofText "src".toList ∈ ["src".toList].map (pathOf none) :=
    List.mem_singleton_self _
  have hcandidate (extensions : List String) : IsCandidate testTree (suffixSettings extensions) []
      none (.ofText "src".toList) [] ("A".toList ++ ".t.sol".toList) := isCandidate_testTree _
  have hboth := collect_suffix isSound_testTree
    (valid_suffixSettings (List.cons_ne_nil ".t.sol" []) (by simp)) [] htarget (by decide)
    (by decide) (by decide) (hcandidate [".t.sol"])
  have hlast := collect_suffix isSound_testTree
    (valid_suffixSettings (List.cons_ne_nil ".sol" [".t.sol"]) (by simp)) [] htarget (by decide)
    (by decide) (by decide) (hcandidate [".sol", ".t.sol"])
  rw [collect_testTree] at hboth
  rw [collect_testTree_last] at hlast
  refine ⟨?_, ?_⟩
  · simp only [collects, collect_testTree]
    refine fun h => ?_
    rcases hboth.2.2.1 h with hsuffix | ⟨other, hother, hfile, -⟩
    · exact absurd hsuffix (by decide)
    · obtain rfl := List.mem_singleton.1 hother
      exact absurd hfile (by decide +kernel)
  · simp only [collects, collect_testTree_last]
    exact hlast.2.2.2 (.inl (by decide))

/-- The settings are valid and the file is a candidate, but it is not collected. -/
theorem collect_testTree_eq_nil :
    testTree.IsSound ∧ (suffixSettings [".t.sol"]).Valid ∧
      ".t.sol".toList ∈ (suffixSettings [".t.sol"]).extensions ∧ 2 ≤ ".t.sol".toList.length ∧
      IsCandidate testTree (suffixSettings [".t.sol"]) [] none (.ofText "src".toList) []
        ("A".toList ++ ".t.sol".toList) ∧
      collect testTree (suffixSettings [".t.sol"]) [] none ["src".toList] = .ok [] :=
  ⟨isSound_testTree, valid_suffixSettings (List.cons_ne_nil _ _) (by simp), by decide, by decide,
    isCandidate_testTree _, collect_testTree⟩

end Target

end SolidityLint
