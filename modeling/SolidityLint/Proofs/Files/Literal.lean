import SolidityLint.Proofs.Files.Path
import SolidityLint.Proofs.Files.Wildcard
import SolidityLint.Proofs.Text.Trim

/-!
# Patterns without wildcards

A pattern without wildcards matches nothing but itself (`Wildcard.textMatches_plain`).  So as an
exclusion it stands for a file or a directory, with two stars as its last part for what lies below
it, and respects the limits of the parts of a path (`Path.isExcluded_plain`): a neighbour whose name
merely begins in the same way is not excluded.
-/

namespace SolidityLint

namespace Text

theorem startsWith_iff {s t : Text} : s.startsWith t = true ↔ t <+: s :=
  List.isPrefixOf_iff_prefix

/-- The last piece stands behind the last separator. -/
theorem join_concat (sep : Text) (parts : List Text) (name : Text) :
    join sep (parts ++ [name]) = name ∨
      ∃ front, join sep (parts ++ [name]) = front ++ sep ++ name := by
  induction parts with
  | nil => exact .inl rfl
  | cons part parts ih =>
      have hjoin : join sep (part :: parts ++ [name]) =
          part ++ sep ++ join sep (parts ++ [name]) := by
        cases parts <;> rfl
      refine .inr ?_
      rcases ih with h | ⟨front, h⟩
      · exact ⟨part, by rw [hjoin, h]⟩
      · exact ⟨part ++ sep ++ front, by rw [hjoin, h]; simp only [List.append_assoc]⟩

end Text

namespace Wildcard

variable {d s : Text}

/-! ## Matching literally -/

/-- A text without wildcards stands for itself. -/
theorem ofText_eq_map (h : isMagic d = false) : ofText d = d.map literal := by
  induction d with
  | nil => rw [ofText, List.map_nil]
  | cons c cs ih =>
      simp only [isMagic, List.any_cons, Bool.or_eq_false_iff, beq_eq_false_iff_ne] at h
      obtain ⟨⟨⟨hstar, hany⟩, hclass⟩, hcs⟩ := h
      rw [ofText, ih hcs, List.map_cons]
      · exact hstar
      · exact hany
      · exact hclass

theorem matches_map_literal : Matches (d.map literal) s ↔ s = d := by
  induction d generalizing s with
  | nil => rw [List.map_nil, ← accepts_iff, accepts_nil_iff]
  | cons c cs ih =>
      constructor
      · intro h
        cases h with
        | one hc hrest => rw [eq_of_beq hc, ih.1 hrest]
      · rintro rfl
        exact .one (beq_self_eq_true c) (ih.2 rfl)

/-- **A pattern without wildcards matches itself alone.** -/
theorem textMatches_plain (h : isMagic d = false) : textMatches d s = true ↔ s = d := by
  rw [textMatches, accepts_iff, ofText_eq_map h, matches_map_literal]

end Wildcard

/-! ## Exclusion by one pattern -/

namespace Exclusion

variable {d seen name : Text}

/-- A text starts with a directory when it goes on behind a slash. -/
theorem prefix_iff_exists : d ++ ['/'] <+: seen ↔ ∃ rest, seen = d ++ '/' :: rest :=
  ⟨fun ⟨rest, h⟩ => ⟨rest, by rw [← h, List.append_assoc]; rfl⟩,
    fun ⟨rest, h⟩ => ⟨rest, by rw [h, List.append_assoc]; rfl⟩⟩

theorem withoutSlashes_append (hslash : d.getLast? ≠ some '/') (n : Nat) :
    withoutSlashes (d ++ List.replicate n '/') = d := by
  rw [withoutSlashes, Text.trimEnd_append fun c hc => by simp [List.eq_of_mem_replicate hc],
    Text.trimEnd_eq_self_iff]
  intro c hc
  exact beq_eq_false_iff_ne.2 fun heq => hslash (heq ▸ hc)

theorem withoutSlashes_append_belowMark (d : Text) :
    withoutSlashes (d ++ belowMark) = d ++ belowMark := by
  have hslash : (d ++ belowMark).getLast? ≠ some '/' := by simp [belowMark]
  simpa using withoutSlashes_append hslash 0

theorem directoryOf_append_belowMark (d : Text) : directoryOf (d ++ belowMark) = d := by
  have hends : Text.endsWith (d ++ belowMark) belowMark = true :=
    List.isSuffixOf_iff_suffix.2 (List.suffix_append _ _)
  rw [directoryOf, if_pos hends, List.length_append, Nat.add_sub_cancel, List.take_left]

theorem directoryOf_of_star_notMem (h : '*' ∉ d) : directoryOf d = d :=
  if_neg fun hends => h ((List.isSuffixOf_iff_suffix.1 hends).mem (by decide))

theorem directoryOf_of_not_isMagic (h : Wildcard.isMagic d = false) : directoryOf d = d := by
  refine directoryOf_of_star_notMem fun hstar => ?_
  have hmagic : Wildcard.isMagic d = true := List.any_eq_true.2 ⟨'*', hstar, rfl⟩
  rw [h] at hmagic
  cases hmagic

/-- A pattern without wildcards excludes the file that it names, by its path or by its bare name,
and what lies below it. -/
theorem excludes_plain (hmagic : Wildcard.isMagic d = false) (hslash : d.getLast? ≠ some '/')
    (n : Nat) : excludes seen name (d ++ List.replicate n '/') = true ↔
      seen = d ∨ name = d ∨ d ++ ['/'] <+: seen := by
  rw [excludes, withoutSlashes_append hslash]
  simp only [Bool.or_eq_true, Wildcard.textMatches_plain hmagic,
    directoryOf_of_not_isMagic hmagic, Text.startsWith_iff, or_assoc]

/-- With two stars as its last part a pattern excludes what lies below a directory that it matches
or whose path it is. -/
theorem excludes_belowMark (hname : '/' ∉ name) : excludes seen name (d ++ belowMark) = true ↔
    ∃ dir rest, seen = dir ++ '/' :: rest ∧ (Wildcard.textMatches d dir = true ∨ dir = d) := by
  have hbare : ¬∃ dir rest, name = dir ++ '/' :: rest ∧ Wildcard.textMatches d dir = true := by
    rintro ⟨dir, rest, rfl, -⟩
    exact hname (by simp)
  rw [excludes, withoutSlashes_append_belowMark, directoryOf_append_belowMark]
  simp only [Bool.or_eq_true, Wildcard.textMatches_belowMark, hbare, or_false, Text.startsWith_iff,
    prefix_iff_exists]
  constructor
  · rintro (⟨dir, rest, hseen, hdir⟩ | ⟨rest, hseen⟩)
    · exact ⟨dir, rest, hseen, .inl hdir⟩
    · exact ⟨d, rest, hseen, .inr rfl⟩
  · rintro ⟨dir, rest, hseen, hdir | rfl⟩
    · exact .inl ⟨dir, rest, hseen, hdir⟩
    · exact .inr ⟨rest, hseen⟩

/-- With two stars behind it a pattern without wildcards excludes what lies below it. -/
theorem excludes_below (hmagic : Wildcard.isMagic d = false) (hname : '/' ∉ name) :
    excludes seen name (d ++ belowMark) = true ↔ d ++ ['/'] <+: seen := by
  simp only [excludes_belowMark hname, Wildcard.textMatches_plain hmagic, or_self,
    prefix_iff_exists]
  constructor
  · rintro ⟨dir, rest, rfl, rfl⟩
    exact ⟨rest, rfl⟩
  · rintro ⟨rest, rfl⟩
    exact ⟨d, rest, rfl, rfl⟩

end Exclusion

namespace Path

variable {here : Location} {base p : Path} {d : Text}

/-! ## The path that is seen, and the bare name -/

theorem IsNamed.name (h : p.IsNamed) : '/' ∉ p.name := by
  rw [Path.name, List.getLastD_eq_getLast?]
  cases hlast : p.parts.getLast? with
  | none => simp
  | some part => exact (h part (List.mem_of_getLast? hlast)).2

/-- A path is written with its name behind the last slash. -/
theorem text_concat (start : Start) (parts : List Text) (name : Text) :
    (⟨start, parts ++ [name]⟩ : Path).text = name ∨
      ∃ front, (⟨start, parts ++ [name]⟩ : Path).text = front ++ '/' :: name := by
  have htext : (⟨start, parts ++ [name]⟩ : Path).text =
      start.text ++ Text.join ['/'] (parts ++ [name]) := by
    cases start <;> cases parts <;> rfl
  rw [htext]
  rcases Text.join_concat ['/'] parts name with h | ⟨front, h⟩
  · rw [h]
    cases start with
    | here => exact .inl rfl
    | root => exact .inr ⟨[], rfl⟩
    | doubleRoot => exact .inr ⟨['/'], rfl⟩
  · exact .inr ⟨start.text ++ front, by rw [h]; simp⟩

/-- A path is seen as a single dot, or with its name behind the last slash. -/
theorem seenFrom_cases (here : Location) (base : Path) (hparts : p.parts ≠ [])
    (hup : p.name ≠ up) :
    seenFrom here base p = ['.'] ∨ seenFrom here base p = p.name ∨
      ∃ front, seenFrom here base p = front ++ '/' :: p.name := by
  have hlast := parts_eq_concat hparts
  have htext := text_concat p.start p.parts.dropLast p.name
  rw [← hlast] at htext
  rw [seenFrom]
  split
  · exact .inr htext
  split
  · -- what is left of the location still ends in the name
    rename_i hprefix
    have hresolve : ∃ above, p.resolve here = above ++ [p.name] := by
      rw [resolve, hlast, List.foldl_append, List.foldl_cons, List.foldl_nil, step, if_neg hup]
      exact ⟨_, rfl⟩
    obtain ⟨above, habove⟩ := hresolve
    have hlength := (List.isPrefixOf_iff_prefix.1 hprefix).length_le
    rw [habove] at hlength ⊢
    rw [List.length_append, List.length_singleton] at hlength
    by_cases hall : (base.resolve here).length ≤ above.length
    · rw [List.drop_append_of_le_length hall]
      exact .inr (text_concat _ _ _)
    · rw [List.drop_eq_nil_of_le (by simp; omega)]
      exact .inl rfl
  · exact .inr htext

/-- A name that goes on is another name. -/
theorem name_ne_of_seenFrom_eq (hp : p.IsNamed) (hup : p.name ≠ up) (hne : d ≠ []) {more : Text}
    (hmore : more ≠ []) (hslash : '/' ∉ more) (hseen : seenFrom here base p = d ++ more) :
    p.name ≠ d := by
  rintro rfl
  have hparts : p.parts ≠ [] := fun hnil => hne (by rw [Path.name, hnil]; rfl)
  have hnone : '/' ∉ seenFrom here base p := by
    rw [hseen, List.mem_append, not_or]
    exact ⟨hp.name, hslash⟩
  have hlength := congrArg List.length hseen
  rw [List.length_append] at hlength
  have hname := List.length_pos_iff.2 hne
  have hmore := List.length_pos_iff.2 hmore
  rcases seenFrom_cases here base hparts hup with h | h | ⟨front, h⟩
  · rw [h, List.length_singleton] at hlength
    omega
  · rw [h] at hlength
    omega
  · exact hnone (by rw [h]; simp)

theorem isExcluded_iff {patterns : List Text} : isExcluded here base patterns p = true ↔
    ∃ pattern ∈ patterns, isExcluded here base [pattern] p = true := by
  simp [isExcluded]

/-- **A pattern without wildcards respects the limits of the parts of a path.**  With or without
slashes at its end it excludes the file that it names, by its path or by its bare name, and what
lies below it; with two stars behind it, what lies below it.  Of several patterns each counts for
itself.  What merely goes on in the same part is not excluded, unless by its bare name, and a file
that goes on in its last part has another bare name. -/
theorem isExcluded_plain (here : Location) (base : Path) (hp : p.IsNamed) (hne : d ≠ [])
    (hmagic : Wildcard.isMagic d = false) (hslash : d.getLast? ≠ some '/') :
    let seen := seenFrom here base p
    let excluded (pattern : Text) : Bool := isExcluded here base [pattern] p
    (∀ n, excluded (d ++ List.replicate n '/') = true ↔
      seen = d ∨ p.name = d ∨ d ++ ['/'] <+: seen) ∧
    (excluded (d ++ "/**".toList) = true ↔ d ++ ['/'] <+: seen) ∧
    (∀ patterns, isExcluded here base patterns p = true ↔
      ∃ pattern ∈ patterns, excluded pattern = true) ∧
    ∀ more, more ≠ [] → more.head? ≠ some '/' → seen = d ++ more →
      (∀ n, excluded (d ++ List.replicate n '/') = true ↔ p.name = d) ∧
      excluded (d ++ "/**".toList) = false ∧
      ('/' ∉ more → p.name ≠ up → p.name ≠ d) := by
  intro seen excluded
  have hone (pattern : Text) :
      excluded pattern = Exclusion.excludes seen p.name pattern := by
    simp [excluded, isExcluded, seen]
  have hplain (n : Nat) : excluded (d ++ List.replicate n '/') = true ↔
      seen = d ∨ p.name = d ∨ d ++ ['/'] <+: seen := by
    rw [hone, Exclusion.excludes_plain hmagic hslash]
  have hbelow : excluded (d ++ "/**".toList) = true ↔ d ++ ['/'] <+: seen := by
    rw [hone]
    exact Exclusion.excludes_below hmagic hp.name
  refine ⟨hplain, hbelow, fun patterns => isExcluded_iff, fun more hmore hhead hseen => ?_⟩
  have hself : seen ≠ d := by
    rw [hseen]
    simpa using hmore
  have hinside : ¬d ++ ['/'] <+: seen := by
    rw [hseen, List.prefix_append_right_inj]
    rintro ⟨rest, rfl⟩
    exact hhead rfl
  refine ⟨fun n => ?_, ?_, fun hnone hup => name_ne_of_seenFrom_eq hp hup hne hmore hnone hseen⟩
  · rw [hplain, or_iff_right hself, or_iff_left hinside]
  · rw [← Bool.not_eq_true, hbelow]
    exact hinside

/-- A pattern for a directory, a file below that directory, one in a directory whose name goes on,
and one whose own name does. -/
theorem isExcluded_of_mocks :
    let excluded (pattern file : String) : Bool :=
      isExcluded ["w".toList] ⟨.here, []⟩ [pattern.toList] (ofText file.toList)
    excluded "src/mocks//" "src/mocks/deep/A.sol" = true ∧
      excluded "src/mocks/**" "src/mocks/deep/A.sol" = true ∧
      excluded "src/mocks/**" "../w/src/mocks2/A.sol" = false ∧
      excluded "src/mocks" "/w/src/mocks.sol" = false := by
  intro excluded
  have hplain (file : String) := isExcluded_plain (d := "src/mocks".toList) ["w".toList] ⟨.here, []⟩
    (isNamed_ofText file.toList) (by decide) (by decide) (by decide)
  obtain ⟨hslashes, hbelow, -, -⟩ := hplain "src/mocks/deep/A.sol"
  obtain ⟨-, -, -, hbeside⟩ := hplain "../w/src/mocks2/A.sol"
  obtain ⟨-, -, -, hlonger⟩ := hplain "/w/src/mocks.sol"
  obtain ⟨hslashes', -, hname⟩ := hlonger ".sol".toList (by decide) (by decide) (by decide)
  refine ⟨(hslashes 2).2 (by decide), hbelow.2 (by decide),
    (hbeside "2/A.sol".toList (by decide) (by decide) (by decide)).2.1, ?_⟩
  exact Bool.eq_false_iff.2 fun h => hname (by decide) (by decide) ((hslashes' 0).1 h)

end Path

end SolidityLint
