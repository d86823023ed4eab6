import SolidityLint.Linter
import SolidityLint.Proofs.Text.Pieces
import SolidityLint.Proofs.Text.Trim

/-!
# What a pass does to one line

A pass lints a text and repairs it once.  This file says which repairs run under given settings
(`Repairs`) and what they make of a line that is not removed: the spaces and tabs at the end of
its content go, and the tabs of its indentation become spaces (`Repairs.tidy`).

* `quietContent_tidyContent`: a tidied content is not reported again.
* `tidy_append_feed`, `tidy_of_notMem`: tidying a piece tidies its body.
* `quietContent_tidyBody_tidyBody`: tidying twice is enough, even where white space hid a carriage
  return in front of the line feed.
* `quietContent_tidyBody`: once is enough where no carriage return stands inside a line.
-/

namespace SolidityLint

/-- The repairs that run, and the number of blank lines that may follow each other. -/
structure Repairs where
  /-- Are spaces and tabs removed at the end of a line? -/
  trailingSpace : Bool
  /-- Are tabs in the indentation turned into spaces? -/
  tabIndent : Bool
  /-- Are long runs of blank lines cut? -/
  blankRun : Bool
  /-- Is a line feed put at the end of the text? -/
  finalNewline : Bool
  /-- The number of blank lines that may follow each other. -/
  blankLines : Nat
  deriving DecidableEq, Repr

/-- Does a rule run under given settings? -/
def Rule.isOn (r : Rule) (s : Settings) : Bool :=
  (r.levelIn s).severity?.isSome

/-- The repairs that run under given settings. -/
def Settings.repairs (s : Settings) : Repairs where
  trailingSpace := Rule.trailingSpace.isOn s
  tabIndent := Rule.tabIndent.isOn s
  blankRun := Rule.blankRun.isOn s
  finalNewline := Rule.finalNewline.isOn s
  blankLines := s.limits.blankLines

namespace Text

/-- A content with spaces for the tabs of its indentation. -/
def expandIndent (content : Text) : Text :=
  Rule.spacesForTabs (Rule.indentOf content) ++ content.dropWhile isSpaceOrTab

/-! ## Indentations -/

theorem mem_spacesForTabs {c : Char} {indent : Text} (h : c ∈ Rule.spacesForTabs indent) :
    c = ' ' ∨ c ∈ indent ∧ c ≠ '\t' := by
  obtain ⟨d, hd, hc⟩ := List.mem_flatMap.1 h
  split at hc
  · exact .inl (List.eq_of_mem_replicate hc)
  · rename_i hne
    rw [List.mem_singleton.1 hc]
    exact .inr ⟨hd, hne⟩

theorem spacesForTabs_eq_self {indent : Text} (h : '\t' ∉ indent) :
    Rule.spacesForTabs indent = indent := by
  induction indent with
  | nil => rfl
  | cons c cs ih =>
      simp only [List.mem_cons, not_or] at h
      rw [Rule.spacesForTabs, List.flatMap_cons, if_neg (Ne.symm h.1)]
      exact congrArg (c :: ·) (ih h.2)

theorem isSpaceOrTab_of_mem_indentOf {c : Char} {content : Text}
    (h : c ∈ Rule.indentOf content) : isSpaceOrTab c = true :=
  List.mem_takeWhile_imp h

theorem isSpaceOrTab_of_mem_spacesForTabs {c : Char} {content : Text}
    (h : c ∈ Rule.spacesForTabs (Rule.indentOf content)) : isSpaceOrTab c = true := by
  rcases mem_spacesForTabs h with rfl | ⟨hc, -⟩
  · rfl
  · exact isSpaceOrTab_of_mem_indentOf hc

theorem indentOf_append_dropWhile (content : Text) :
    Rule.indentOf content ++ content.dropWhile isSpaceOrTab = content :=
  List.takeWhile_append_dropWhile

theorem dropWhile_eq_drop_indentOf (content : Text) :
    content.dropWhile isSpaceOrTab = content.drop (Rule.indentOf content).length := by
  have h : (Rule.indentOf content ++ content.dropWhile isSpaceOrTab).drop
      (Rule.indentOf content).length = content.dropWhile isSpaceOrTab := List.drop_left
  rw [indentOf_append_dropWhile] at h
  exact h.symm

/-- The new indentation is as long as the run of spaces it consists of. -/
theorem indentOf_expandIndent (content : Text) :
    Rule.indentOf (expandIndent content) = Rule.spacesForTabs (Rule.indentOf content) := by
  rw [expandIndent, Rule.indentOf, List.takeWhile_append_of_pos
    fun c hc => isSpaceOrTab_of_mem_spacesForTabs hc]
  cases h : content.dropWhile isSpaceOrTab with
  | nil => simp
  | cons c cs =>
      have hhead := List.head?_dropWhile_not isSpaceOrTab content
      rw [h] at hhead
      simp only [List.head?_cons] at hhead
      rw [List.takeWhile_cons, if_neg (by simp [hhead]), List.append_nil]

theorem tab_notMem_indentOf_expandIndent (content : Text) :
    '\t' ∉ Rule.indentOf (expandIndent content) := by
  rw [indentOf_expandIndent]
  intro h
  rcases mem_spacesForTabs h with h | ⟨-, h⟩
  · exact absurd h (by decide)
  · exact h rfl

theorem expandIndent_eq_self {content : Text} (h : '\t' ∉ Rule.indentOf content) :
    expandIndent content = content := by
  rw [expandIndent, spacesForTabs_eq_self h, indentOf_append_dropWhile]

theorem withoutTrailingSpace_isPrefix (content : Text) :
    Rule.withoutTrailingSpace content <+: content :=
  List.rdropWhile_prefix ..

/-- Trimming does not reach the indentation of a content that has other characters. -/
theorem indentOf_withoutTrailingSpace {content : Text}
    (h : Rule.withoutTrailingSpace content ≠ []) :
    Rule.indentOf (Rule.withoutTrailingSpace content) = Rule.indentOf content := by
  obtain ⟨trail, heq, -⟩ := exists_eq_trimEnd_append isSpaceOrTab content
  change content = Rule.withoutTrailingSpace content ++ trail at heq
  have htrim : Rule.withoutTrailingSpace (Rule.withoutTrailingSpace content) =
      Rule.withoutTrailingSpace content := trimEnd_trimEnd ..
  generalize Rule.withoutTrailingSpace content = kept at *
  rw [heq, Rule.indentOf, Rule.indentOf, List.takeWhile_append, if_neg]
  intro hlen
  have hall : kept.takeWhile isSpaceOrTab = kept :=
    (List.takeWhile_prefix isSpaceOrTab).eq_of_length hlen
  have hlast := trimEnd_eq_self_iff.1 htrim _ (List.getLast?_eq_some_getLast h)
  rw [List.takeWhile_eq_self_iff.1 hall _ (List.getLast_mem h)] at hlast
  exact Bool.noConfusion hlast

theorem expandIndent_eq_nil_iff {content : Text} : expandIndent content = [] ↔ content = [] := by
  constructor
  · intro h
    obtain ⟨hspaces, hrest⟩ := List.append_eq_nil_iff.1 h
    have hindent : Rule.indentOf content = [] := by
      refine List.eq_nil_iff_forall_not_mem.2 fun c hc => ?_
      have hc' := List.flatMap_eq_nil_iff.1 hspaces c hc
      split at hc' <;> simp [Rule.tabWidth] at hc'
    rw [← indentOf_append_dropWhile content, hindent, hrest]
    rfl
  · rintro rfl
    rfl

/-- A new indentation does not change the last character, unless that is white space. -/
theorem getLast?_expandIndent {content : Text} {c : Char} (hc : isSpaceOrTab c = false) :
    (expandIndent content).getLast? = some c ↔ content.getLast? = some c := by
  cases hrest : content.dropWhile isSpaceOrTab with
  | cons d ds =>
      conv_rhs => rw [← indentOf_append_dropWhile content]
      rw [expandIndent, hrest, List.getLast?_append_cons, List.getLast?_append_cons]
  | nil =>
      -- there are no characters but white space
      rw [expandIndent, hrest, List.append_nil]
      constructor
      · intro hlast
        rw [isSpaceOrTab_of_mem_spacesForTabs (List.mem_of_getLast? hlast)] at hc
        exact Bool.noConfusion hc
      · intro hlast
        rw [List.dropWhile_eq_nil_iff.1 hrest c (List.mem_of_getLast? hlast)] at hc
        exact Bool.noConfusion hc

theorem withoutTrailingSpace_eq_self_iff {s : Text} : Rule.withoutTrailingSpace s = s ↔
    s = [] ∨ ∃ c, s.getLast? = some c ∧ isSpaceOrTab c = false := by
  rw [Rule.withoutTrailingSpace, trimEnd_eq_self_iff]
  cases hlast : s.getLast? with
  | none => simp [List.getLast?_eq_none_iff.1 hlast]
  | some c =>
      have hne : s ≠ [] := by
        rintro rfl
        simp at hlast
      simp [hne]

/-- With a new indentation a content can be trimmed if it could be with the old one. -/
theorem withoutTrailingSpace_expandIndent_iff {content : Text} :
    Rule.withoutTrailingSpace (expandIndent content) = expandIndent content ↔
      Rule.withoutTrailingSpace content = content := by
  rw [withoutTrailingSpace_eq_self_iff, withoutTrailingSpace_eq_self_iff, expandIndent_eq_nil_iff]
  refine or_congr_right (exists_congr fun c => ?_)
  rw [and_congr_left_iff]
  exact fun hc => getLast?_expandIndent hc

end Text

/-! ## Tidying the content of a line -/

namespace Repairs

variable (r : Repairs)

/-- The content of a line after the repairs. -/
def tidyContent (content : Text) : Text :=
  let kept := if r.trailingSpace then Rule.withoutTrailingSpace content else content
  if r.tabIndent then Text.expandIndent kept else kept

/-- A content that the repairs leave alone. -/
def QuietContent (content : Text) : Prop :=
  (r.trailingSpace = true → Rule.withoutTrailingSpace content = content) ∧
    (r.tabIndent = true → '\t' ∉ Rule.indentOf content)

variable {r}

theorem tidyContent_of_quiet {content : Text} (h : r.QuietContent content) :
    r.tidyContent content = content := by
  obtain ⟨htrail, htabs⟩ := h
  simp only [tidyContent]
  have hkept : (if r.trailingSpace then Rule.withoutTrailingSpace content else content) =
      content := by
    split
    · rename_i hon
      exact htrail hon
    · rfl
  rw [hkept]
  split
  · rename_i hon
    exact Text.expandIndent_eq_self (htabs hon)
  · rfl

/-- A tidied content is not reported again. -/
theorem quietContent_tidyContent (content : Text) : r.QuietContent (r.tidyContent content) := by
  constructor
  · intro hon
    have htrim : Rule.withoutTrailingSpace (Rule.withoutTrailingSpace content) =
        Rule.withoutTrailingSpace content := Text.trimEnd_trimEnd ..
    simp only [tidyContent, if_pos hon]
    split
    · exact Text.withoutTrailingSpace_expandIndent_iff.2 htrim
    · exact htrim
  · intro hon
    simp only [tidyContent, if_pos hon]
    exact Text.tab_notMem_indentOf_expandIndent _

/-- Tidying brings no characters into a content but spaces. -/
theorem mem_tidyContent {c : Char} {content : Text} (h : c ∈ r.tidyContent content) :
    c ∈ content ∨ c = ' ' := by
  have hkept : ∀ d, d ∈ (if r.trailingSpace then Rule.withoutTrailingSpace content else content) →
      d ∈ content := by
    intro d hd
    split at hd
    · exact Text.mem_of_mem_trimEnd hd
    · exact hd
  simp only [tidyContent] at h
  split at h
  · rcases List.mem_append.1 h with h | h
    · rcases Text.mem_spacesForTabs h with h | ⟨h, -⟩
      · exact .inr h
      · exact .inl (hkept c ((List.takeWhile_prefix _).mem h))
    · exact .inl (hkept c ((List.dropWhile_suffix _).mem h))
  · exact .inl (hkept c h)

theorem notMem_tidyContent {c : Char} (hc : c ≠ ' ') {content : Text} (h : c ∉ content) :
    c ∉ r.tidyContent content :=
  fun hmem => (mem_tidyContent hmem).elim h hc

/-! ## Tidying a piece -/

variable (r) in
/-- A line without line feed after the repairs of its content. -/
def tidyBody (body : Text) : Text :=
  r.tidyContent (Text.dropLastIf '\r' body) ++ Text.lastIf '\r' body

variable (r) in
/-- A piece after the repairs of its content. -/
def tidy (piece : Text) : Text :=
  r.tidyContent (Text.withoutEnd piece) ++ Text.lineEnd piece

variable (r) in
/-- A piece that the repairs of its content leave alone. -/
def Quiet (piece : Text) : Prop :=
  r.QuietContent (Text.withoutEnd piece)

variable {body piece : Text}

@[simp]
theorem tidy_append_feed : r.tidy (body ++ ['\n']) = r.tidyBody body ++ ['\n'] := by
  rw [tidy, Text.withoutEnd_append_feed, Text.lineEnd_append_feed, tidyBody, List.append_assoc]

theorem tidy_of_notMem (hfeed : '\n' ∉ body) : r.tidy body = r.tidyBody body := by
  rw [tidy, Text.withoutEnd_of_notMem hfeed, Text.lineEnd_of_notMem hfeed, tidyBody]

theorem tidy_of_quiet (h : r.Quiet piece) : r.tidy piece = piece := by
  rw [tidy, tidyContent_of_quiet h, Text.withoutEnd_append_lineEnd]

theorem tidyBody_nil : r.tidyBody [] = [] := by
  simp [tidyBody, tidyContent, Text.dropLastIf, Text.lastIf, Rule.withoutTrailingSpace,
    Text.trimEnd, Text.expandIndent, Rule.indentOf, Rule.spacesForTabs]

theorem feed_notMem_tidyBody (hfeed : '\n' ∉ body) : '\n' ∉ r.tidyBody body := by
  intro h
  rcases List.mem_append.1 h with h | h
  · exact notMem_tidyContent (by decide)
      (fun hmem => hfeed ((Text.dropLastIf_isPrefix _ _).mem hmem)) h
  · exact absurd (Text.eq_of_mem_lastIf h) (by decide)

theorem tidyBody_append_carriage (content : Text) :
    r.tidyBody (content ++ ['\r']) = r.tidyContent content ++ ['\r'] := by
  rw [tidyBody, Text.dropLastIf_append_singleton, Text.lastIf_append_singleton]

theorem tidyBody_of_ne (h : body.getLast? ≠ some '\r') : r.tidyBody body = r.tidyContent body := by
  rw [tidyBody, Text.dropLastIf_of_ne h, Text.lastIf_of_ne h, List.append_nil]

/-- A body is quiet after it has been tidied if it ends in a carriage return, or does not do so
even after it has been tidied. -/
theorem quietContent_of_tidyBody (h : body.getLast? = some '\r' ∨
    (r.tidyBody body).getLast? ≠ some '\r') :
    r.QuietContent (Text.dropLastIf '\r' (r.tidyBody body)) := by
  rcases Text.eq_append_or_getLast?_ne '\r' body with ⟨content, rfl⟩ | hne
  · rw [tidyBody_append_carriage, Text.dropLastIf_append_singleton]
    exact quietContent_tidyContent content
  · have hlast := h.resolve_left hne
    rw [Text.dropLastIf_of_ne hlast, tidyBody_of_ne hne]
    exact quietContent_tidyContent body

/-- Tidying twice is enough. -/
theorem quietContent_tidyBody_tidyBody (body : Text) :
    r.QuietContent (Text.dropLastIf '\r' (r.tidyBody (r.tidyBody body))) := by
  refine quietContent_of_tidyBody ?_
  by_cases hlast : (r.tidyBody body).getLast? = some '\r'
  · exact .inl hlast
  · -- no carriage return has come to the end, so the body is quiet already
    right
    have hquiet : r.QuietContent (Text.dropLastIf '\r' (r.tidyBody body)) :=
      quietContent_of_tidyBody (.inr hlast)
    rw [Text.dropLastIf_of_ne hlast] at hquiet
    rwa [tidyBody_of_ne hlast, tidyContent_of_quiet hquiet]

/-- Tidying once is enough where no carriage return stands inside the line. -/
theorem quietContent_tidyBody (h : '\r' ∉ Text.dropLastIf '\r' body) :
    r.QuietContent (Text.dropLastIf '\r' (r.tidyBody body)) := by
  refine quietContent_of_tidyBody ?_
  by_cases hlast : body.getLast? = some '\r'
  · exact .inl hlast
  · rw [Text.dropLastIf_of_ne hlast] at h
    rw [tidyBody_of_ne hlast]
    exact .inr (Text.getLast?_ne_of_notMem (notMem_tidyContent (by decide) h))

/-! ## What tidying leaves alone -/

theorem strip_expandIndent (content : Text) :
    Text.strip (Text.expandIndent content) = Text.strip content := by
  have hblank : ∀ c, Text.isSpaceOrTab c = true → Text.isBlank c = true :=
    fun _ => Text.isBlank_of_isSpaceOrTab
  rw [Text.expandIndent, Text.strip_append_of_blank
    fun c hc => hblank c (Text.isSpaceOrTab_of_mem_spacesForTabs hc)]
  conv_rhs => rw [← Text.indentOf_append_dropWhile content]
  rw [Text.strip_append_of_blank fun c hc => hblank c (Text.isSpaceOrTab_of_mem_indentOf hc)]

theorem strip_withoutTrailingSpace (content : Text) :
    Text.strip (Rule.withoutTrailingSpace content) = Text.strip content := by
  obtain ⟨trail, heq, htrail⟩ := Text.exists_eq_trimEnd_append Text.isSpaceOrTab content
  conv_rhs => rw [heq]
  rw [Text.strip_append _ fun c hc => Text.isBlank_of_isSpaceOrTab (htrail c hc)]
  rfl

theorem strip_tidyContent (content : Text) :
    Text.strip (r.tidyContent content) = Text.strip content := by
  have hkept : Text.strip (if r.trailingSpace then Rule.withoutTrailingSpace content
      else content) = Text.strip content := by
    split
    · exact strip_withoutTrailingSpace content
    · rfl
  simp only [tidyContent]
  split
  · rw [strip_expandIndent, hkept]
  · exact hkept

theorem isBlank_of_mem_lineEnd {c : Char} (h : c ∈ Text.lineEnd piece) :
    Text.isBlank c = true := by
  rw [Text.lineEnd_eq, List.mem_append] at h
  rcases h with h | h <;> rw [Text.eq_of_mem_lastIf h] <;> rfl

theorem strip_withoutEnd (piece : Text) :
    Text.strip (Text.withoutEnd piece) = Text.strip piece := by
  conv_rhs => rw [← Text.withoutEnd_append_lineEnd piece]
  rw [Text.strip_append _ fun c hc => isBlank_of_mem_lineEnd hc]

/-- Tidying changes nothing between the first and the last character of a line that is not
blank. -/
theorem strip_tidy (piece : Text) : Text.strip (r.tidy piece) = Text.strip piece := by
  rw [tidy, Text.strip_append _ fun c hc => isBlank_of_mem_lineEnd hc, strip_tidyContent,
    strip_withoutEnd]

theorem all_isBlank_tidy (piece : Text) :
    (r.tidy piece).all Text.isBlank = piece.all Text.isBlank := by
  rw [Text.all_isBlank, Text.all_isBlank, strip_tidy]

end Repairs

end SolidityLint
