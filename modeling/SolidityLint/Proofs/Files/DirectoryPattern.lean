import SolidityLint.Proofs.Files.Literal

/-!
# Patterns for directories

A directory can be excluded in two spellings.  With two stars as its last part a pattern stands for
what lies below the directories that it matches.  A slash at its end stands for nothing: what lies
below a directory is then excluded because the path goes on there literally.  So the two spellings
differ where the directory is matched by wildcards, and the pattern does not match the rest of the
path as well (`Path.isExcluded_directory`).

* `Exclusion.excludes_belowMark` and `Exclusion.excludes_slash`: what each spelling excludes.
* `Exclusion.exists_textMatches_withoutSlashes`: slashes at the end only add to what is matched.
-/

namespace SolidityLint

/-! ## Exclusion by the two spellings -/

namespace Exclusion

variable {d seen name : Text}

/-- With a slash at its end a pattern excludes what it matches without slashes, and what lies below
the directory that it names literally. -/
theorem excludes_slash : excludes seen name (d ++ ['/']) = true ↔
    Wildcard.textMatches (withoutSlashes d) seen = true ∨
    Wildcard.textMatches (withoutSlashes d) name = true ∨
    directoryOf (withoutSlashes d) ++ ['/'] <+: seen := by
  have hslash : withoutSlashes (d ++ ['/']) = withoutSlashes d := Text.trimEnd_append (by simp)
  rw [excludes, hslash]
  simp only [Bool.or_eq_true, Text.startsWith_iff, or_assoc]

/-- A pattern is what is left of it without slashes, and then slashes. -/
theorem exists_eq_withoutSlashes_append (d : Text) :
    ∃ slashes : Text, d = withoutSlashes d ++ slashes ∧ ∀ c ∈ slashes, c = '/' := by
  obtain ⟨slashes, hd, hslashes⟩ := Text.exists_eq_trimEnd_append (· == '/') d
  exact ⟨slashes, hd, fun c hc => eq_of_beq (hslashes c hc)⟩

theorem directoryOf_append_isPrefix (d : Text) : directoryOf d ++ ['/'] <+: d ++ ['/'] := by
  by_cases hends : d.endsWith belowMark = true
  · obtain ⟨dir, rfl⟩ := List.isSuffixOf_iff_suffix.1 hends
    rw [directoryOf_append_belowMark, List.append_assoc]
    exact (List.prefix_append_right_inj dir).2 (by decide)
  · have hself : directoryOf d = d := if_neg hends
    exact hself.symm ▸ List.prefix_rfl

/-- What goes on literally behind a pattern lies below the directory that the pattern names. -/
theorem directoryOf_isPrefix (h : d ++ ['/'] <+: seen) :
    directoryOf (withoutSlashes d) ++ ['/'] <+: seen := by
  obtain ⟨slashes, hd, hslashes⟩ := exists_eq_withoutSlashes_append d
  have hslash : ['/'] <+: slashes ++ ['/'] := by
    cases slashes with
    | nil => exact List.prefix_rfl
    | cons c slashes =>
        rw [hslashes c (List.mem_cons_self ..)]
        exact ⟨slashes ++ ['/'], rfl⟩
  have hself : withoutSlashes d ++ ['/'] <+: d ++ ['/'] := by
    conv_rhs => rw [hd, List.append_assoc]
    exact (List.prefix_append_right_inj _).2 hslash
  exact (directoryOf_append_isPrefix _).trans (hself.trans h)

/-- What a pattern matches starts with what it matches without slashes. -/
theorem exists_textMatches_withoutSlashes {dir : Text} (h : Wildcard.textMatches d dir = true) :
    ∃ front back, dir = front ++ back ∧
      Wildcard.textMatches (withoutSlashes d) front = true := by
  obtain ⟨slashes, hd, hslashes⟩ := exists_eq_withoutSlashes_append d
  have hclose : ']' ∉ slashes := fun hmem => absurd (hslashes _ hmem) (by decide)
  rw [Wildcard.textMatches, Wildcard.accepts_iff, hd, Wildcard.ofText_append_of_notMem hclose,
    Wildcard.matches_append] at h
  obtain ⟨front, back, heq, hfront, -⟩ := h
  exact ⟨front, back, heq, (Wildcard.accepts_iff ..).2 hfront⟩

theorem textMatches_of_star {dir : Text} (hlast : (withoutSlashes d).getLast? = some '*')
    (hdir : Wildcard.textMatches d dir = true) (t : Text) :
    Wildcard.textMatches (withoutSlashes d) (dir ++ t) = true := by
  obtain ⟨front, back, rfl, hfront⟩ := exists_textMatches_withoutSlashes hdir
  obtain ⟨e, he⟩ := List.getLast?_eq_some_iff.1 hlast
  rw [he] at hfront ⊢
  rw [List.append_assoc]
  exact Wildcard.textMatches_star_append hfront _

theorem not_textMatches_of_star_notMem {dir : Text} (hstar : '*' ∉ d)
    (hdir : Wildcard.textMatches d dir = true) (rest : Text) :
    ¬Wildcard.textMatches (withoutSlashes d) (dir ++ '/' :: rest) = true := by
  obtain ⟨front, back, rfl, hfront⟩ := exists_textMatches_withoutSlashes hdir
  have hstar' : '*' ∉ withoutSlashes d := fun hmem => hstar (Text.mem_of_mem_trimEnd hmem)
  intro hwhole
  have hlength := (Wildcard.length_of_textMatches hstar' hwhole).trans
    (Wildcard.length_of_textMatches hstar' hfront).symm
  simp only [List.length_append, List.length_cons] at hlength
  omega

end Exclusion

namespace Path

variable {here : Location} {base p : Path}

/-- **The two spellings of a directory differ where it is matched by wildcards.**  With two stars as
its last part a pattern excludes what lies below each directory that it matches; with a slash at its
end, what it matches as a whole and what lies below the directory of just this name.  So the slash
excludes no less where the pattern has no wildcards or ends in a star; and where it has no star,
what lies below a directory that it matches is excluded by its bare name or literally, if at all. -/
theorem isExcluded_directory (here : Location) (base : Path) (hp : p.IsNamed) (d : Text) :
    let seen := seenFrom here base p
    let excluded (pattern : Text) : Bool := isExcluded here base [pattern] p
    let d' := Exclusion.withoutSlashes d
    (excluded (d ++ "/**".toList) = true ↔
      ∃ dir rest, seen = dir ++ '/' :: rest ∧ (Wildcard.textMatches d dir = true ∨ dir = d)) ∧
    (excluded (d ++ "/".toList) = true ↔ Wildcard.textMatches d' seen = true ∨
      Wildcard.textMatches d' p.name = true ∨ Exclusion.directoryOf d' ++ ['/'] <+: seen) ∧
    (Wildcard.isMagic d = false ∨ d'.getLast? = some '*' →
      excluded (d ++ "/**".toList) = true → excluded (d ++ "/".toList) = true) ∧
    ∀ dir rest, '*' ∉ d → Wildcard.textMatches d dir = true → seen = dir ++ '/' :: rest →
      excluded (d ++ "/**".toList) = true ∧ (excluded (d ++ "/".toList) = true ↔
        Wildcard.textMatches d' p.name = true ∨ d' ++ ['/'] <+: seen) := by
  intro seen excluded d'
  have hone (pattern : Text) : excluded pattern = Exclusion.excludes seen p.name pattern := by
    simp [excluded, isExcluded, seen]
  have hbelow : excluded (d ++ "/**".toList) = true ↔
      ∃ dir rest, seen = dir ++ '/' :: rest ∧ (Wildcard.textMatches d dir = true ∨ dir = d) := by
    rw [hone]
    exact Exclusion.excludes_belowMark hp.name
  have hslash : excluded (d ++ "/".toList) = true ↔ Wildcard.textMatches d' seen = true ∨
      Wildcard.textMatches d' p.name = true ∨ Exclusion.directoryOf d' ++ ['/'] <+: seen := by
    rw [hone]
    exact Exclusion.excludes_slash
  have hliteral {rest : Text} (hseen : seen = d ++ '/' :: rest) :
      excluded (d ++ "/".toList) = true :=
    have hbehind := Exclusion.prefix_iff_exists.2 ⟨rest, hseen⟩
    hslash.2 (.inr (.inr (Exclusion.directoryOf_isPrefix hbehind)))
  refine ⟨hbelow, hslash, fun hd hexcluded => ?_, fun dir rest hstar hdir hseen => ⟨?_, ?_⟩⟩
  · obtain ⟨dir, rest, hseen, hdir | rfl⟩ := hbelow.1 hexcluded
    · rcases hd with hmagic | hlast
      · obtain rfl := (Wildcard.textMatches_plain hmagic).1 hdir
        exact hliteral hseen
      · exact hslash.2 (.inl (hseen ▸ Exclusion.textMatches_of_star hlast hdir _))
    · exact hliteral hseen
  · exact hbelow.2 ⟨dir, rest, hseen, .inl hdir⟩
  · have hstar' : '*' ∉ d' := fun hmem => hstar (Text.mem_of_mem_trimEnd hmem)
    have hwhole := Exclusion.not_textMatches_of_star_notMem hstar hdir rest
    rw [← hseen] at hwhole
    rw [hslash, or_iff_right hwhole, Exclusion.directoryOf_of_star_notMem hstar']

/-- A directory that is matched by a wildcard, with both spellings, and the same for one that is
matched up to its end by a star. -/
theorem isExcluded_directory_of_mocks :
    let excluded (pattern file : String) : Bool :=
      isExcluded ["w".toList] ⟨.here, []⟩ [pattern.toList] (ofText file.toList)
    excluded "m?cks/**" "mocks/deep/A.sol" = true ∧
      excluded "m?cks/" "mocks/deep/A.sol" = false ∧
      excluded "mock*/**" "mocks/deep/A.sol" = true ∧
      excluded "mock*/" "mocks/deep/A.sol" = true := by
  intro excluded
  have hdirectory (d : String) := isExcluded_directory ["w".toList] ⟨.here, []⟩
    (isNamed_ofText "mocks/deep/A.sol".toList) d.toList
  obtain ⟨hbelow, hslash, -, -⟩ := hdirectory "m?cks"
  obtain ⟨hbelow', -, himp, -⟩ := hdirectory "mock*"
  have hboth := hbelow'.2 ⟨"mocks".toList, "deep/A.sol".toList, by decide, .inl (by decide +kernel)⟩
  refine ⟨hbelow.2 ⟨"mocks".toList, "deep/A.sol".toList, by decide, .inl (by decide +kernel)⟩,
    Bool.eq_false_iff.2 fun h => ?_, hboth, himp (.inr (by decide)) hboth⟩
  exact absurd (hslash.1 h) (by decide +kernel)

/-- A file below a directory that is matched by a wildcard. -/
theorem isExcluded_slash_of_below_false : ¬∀ (here : Location) (base : Path) (file d : Text),
    isExcluded here base [d ++ "/**".toList] (ofText file) = true →
      isExcluded here base [d ++ "/".toList] (ofText file) = true := by
  intro h
  have hslash := h ["w".toList] ⟨.here, []⟩ "mocks/A.sol".toList "m?cks".toList (by decide +kernel)
  exact absurd hslash (by decide +kernel)

end Path

end SolidityLint
