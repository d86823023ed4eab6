import SolidityLint.Proofs.Pass.Fixpoint

/-!
# The normal form of a text

A text whose carriage returns all stand in front of a line feed is brought into a normal form by
two passes (`fixed_fixed_eq_normalForm`).  The normal form is written down here on its own, line
by line and without offsets, edits or passes: the text is cut into lines, the blank lines beyond
the limit are dropped, every line left is trimmed and its indentation spelled with spaces, and
the last line gets a line feed.
-/

namespace SolidityLint

/-! ## The normal form -/

/-- A line of a text, its end apart. -/
structure SourceLine where
  /-- The characters of the line without its end. -/
  content : Text
  /-- A line feed, a carriage return and a line feed, or nothing. -/
  ending : Text
  deriving DecidableEq, Repr

namespace SourceLine

/-- The characters of a line. -/
def text (x : SourceLine) : Text :=
  x.content ++ x.ending

/-- Does a line consist of blank characters? -/
def isBlank (x : SourceLine) : Bool :=
  x.content.all Text.isBlank

/-- Of every run of blank lines the first ones, so that no more than `limit` follow each other;
`before` of them stand before the lines given. -/
def atMost (limit before : Nat) : List SourceLine → List SourceLine
  | [] => []
  | x :: xs =>
      if x.isBlank then
        if before < limit then x :: atMost limit (before + 1) xs else atMost limit (before + 1) xs
      else x :: atMost limit 0 xs

/-- A line without the spaces and tabs at the end of its content. -/
def trimmed (x : SourceLine) : SourceLine :=
  { x with content := x.content.trimEnd Text.isSpaceOrTab }

/-- Spells the spaces and tabs that a content starts with by spaces, four for a tab. -/
def spaced : Text → Text
  | '\t' :: cs => ' ' :: ' ' :: ' ' :: ' ' :: spaced cs
  | ' ' :: cs => ' ' :: spaced cs
  | cs => cs

/-- A line whose indentation consists of spaces. -/
def indented (x : SourceLine) : SourceLine :=
  { x with content := spaced x.content }

/-- The lines with a line feed after the last one, if it has no end. -/
def closed : List SourceLine → List SourceLine
  | [] => []
  | [x] => [if x.ending = [] then { x with ending := ['\n'] } else x]
  | x :: y :: xs => x :: closed (y :: xs)

end SourceLine

namespace Text

/-- The lines of a text; a last one without an end counts, unless it has no characters at all. -/
def sourceLines : Text → List SourceLine
  | [] => []
  | '\n' :: cs => ⟨[], ['\n']⟩ :: sourceLines cs
  | '\r' :: '\n' :: cs => ⟨[], ['\r', '\n']⟩ :: sourceLines cs
  | c :: cs =>
      match sourceLines cs with
      | [] => [⟨[c], []⟩]
      | x :: xs => ⟨c :: x.content, x.ending⟩ :: xs

/-- Every carriage return of a text stands in front of a line feed. -/
def ReturnsEndLines (source : Text) : Prop :=
  ∀ i : Nat, source[i]? = some '\r' → source[i + 1]? = some '\n'

instance (source : Text) : Decidable source.ReturnsEndLines :=
  decidable_of_iff (∀ i < source.length, source[i]? = some '\r' → source[i + 1]? = some '\n')
    ⟨fun h i hi => h i (List.getElem?_eq_some_iff.1 hi).1 hi, fun h i _ => h i⟩

end Text

/-- The normal form of a text under given settings. -/
def Settings.normalForm (s : Settings) (source : Text) : Text :=
  let lines := source.sourceLines
  let kept := if Rule.blankRun.isOn s then SourceLine.atMost s.limits.blankLines 0 lines else lines
  let trimmed := if Rule.trailingSpace.isOn s then kept.map SourceLine.trimmed else kept
  let indented := if Rule.tabIndent.isOn s then trimmed.map SourceLine.indented else trimmed
  let closed := if Rule.finalNewline.isOn s then SourceLine.closed indented else indented
  (closed.map SourceLine.text).flatten

/-! ## Two passes, line by line -/

namespace Repairs

variable {r : Repairs} {j k : Nat} {dropping : Bool} {ps : List Text} {piece : Text}

theorem le_of_drops (hreached : r.Reached k dropping) (h : r.drops k dropping piece = true) :
    r.blankLines ≤ k ∧ r.isSurplus k piece = true := by
  rw [drops, Bool.and_eq_true, Bool.and_eq_true] at h
  obtain ⟨⟨hon, hblank⟩, hfirst⟩ := h
  have hle : r.blankLines ≤ k := by
    split at hfirst
    · omega
    · exact Nat.le_of_lt (hreached hfirst).2
  exact ⟨hle, by simp [isSurplus, hon, hblank, hle]⟩

theorem isSurplus_congr {p q : Text} (h : p.isBlankPiece = q.isBlankPiece) :
    r.isSurplus k p = r.isSurplus k q := by
  rw [isSurplus, isSurplus, h]

theorem advance_congr {p q : Text} (h : p.isBlankPiece = q.isBlankPiece) :
    advance k p = advance k q := by
  rw [advance, advance, h]

theorem keepFrom_singleton (left : Text) :
    (r.keepFrom j (if left = [] then [] else [left])).flatten =
      if r.isSurplus j left then [] else left := by
  by_cases hnil : left = []
  · simp [hnil, keepFrom]
  · rw [if_neg hnil, keepFrom]
    split <;> simp [keepFrom]

/-- What a pass leaves of a line is lost just as the line is, and tidied otherwise. -/
theorem flatten_keepFrom_remainder (hsame : r.SameCount j k) (hreached : r.Reached k dropping) :
    (r.keepFrom j (r.remainder (r.drops k dropping piece) piece)).flatten =
      if r.isSurplus k piece then [] else r.tidy piece ++ r.closing piece := by
  rw [remainder, keepFrom_singleton]
  cases hdrops : r.drops k dropping piece with
  | true =>
      obtain ⟨-, hsurplus⟩ := le_of_drops hreached hdrops
      have hclosing : (r.closing piece).isBlankPiece = piece.isBlankPiece := by
        simp only [isSurplus, Bool.and_eq_true] at hsurplus
        rw [hsurplus.1.2]
        exact isBlankPiece_append_closing [] piece
      simp [isSurplus_congr hclosing, hsame.isSurplus_eq, hsurplus]
  | false =>
      have hblank : (r.tidy piece ++ r.closing piece).isBlankPiece = piece.isBlankPiece := by
        rw [isBlankPiece_append_closing, isBlankPiece_tidy]
      simp only [Bool.false_eq_true, if_false, isSurplus_congr hblank, hsame.isSurplus_eq]

/-- The lines that a pass leaves lose the same blank lines as those it was given, and are tidied
otherwise. -/
theorem flatten_keepFrom_rewriteFrom (h : Text.IsCut ps) (hsame : r.SameCount j k)
    (hreached : r.Reached k dropping) :
    (r.keepFrom j (r.rewriteFrom k dropping ps)).flatten =
      ((r.keepFrom k ps).map fun p => r.tidy p ++ r.closing p).flatten := by
  induction h generalizing j k dropping with
  | nil => rfl
  | @last tail _ _ =>
      rw [rewriteFrom, rewriteFrom, List.append_nil, flatten_keepFrom_remainder hsame hreached,
        keepFrom]
      split <;> simp [keepFrom]
  | @line body ps _ _ ih =>
      rw [rewriteFrom, remainder_append_feed]
      cases hdrops : r.drops k dropping (body ++ ['\n']) with
      | true =>
          obtain ⟨hle, hsurplus⟩ := le_of_drops hreached hdrops
          have hnext : r.SameCount j (advance k (body ++ ['\n'])) := by
            refine .inr ⟨hsame.le hle, ?_⟩
            simp only [isSurplus, Bool.and_eq_true] at hsurplus
            rw [advance, if_pos hsurplus.1.2]
            omega
          have hreached' := hreached.advance (body ++ ['\n'])
          rw [hdrops] at hreached'
          rw [keepFrom, if_pos hsurplus]
          exact ih hnext hreached'
      | false =>
          have hblank := isBlankPiece_tidy (r := r) (body ++ ['\n'])
          rw [tidy_append_feed] at hblank
          have hreached' := hreached.advance (body ++ ['\n'])
          rw [hdrops] at hreached'
          have hrest := ih (hsame.advance (body ++ ['\n'])) hreached'
          simp only [Bool.false_eq_true, if_false, List.cons_append, List.nil_append, keepFrom,
            isSurplus_congr hblank, advance_congr hblank, hsame.isSurplus_eq]
          split
          · exact hrest
          · rw [List.flatten_cons, List.map_cons, List.flatten_cons, tidy_append_feed,
              closing_append_feed, hrest, List.append_nil]

end Repairs

/-! ## Lines and pieces -/

namespace SourceLine

/-- A content without line ends inside. -/
def Plain (content : Text) : Prop :=
  '\r' ∉ content ∧ '\n' ∉ content

/-- Lines as they are cut from a text whose carriage returns stand at line ends. -/
inductive ArePlain : List SourceLine → Prop
  | nil : ArePlain []
  | last {content : Text} (hne : content ≠ []) (hplain : Plain content) : ArePlain [⟨content, []⟩]
  | line {content ending : Text} {xs : List SourceLine} (hplain : Plain content)
      (hending : ending = ['\n'] ∨ ending = ['\r', '\n']) (hrest : ArePlain xs) :
      ArePlain (⟨content, ending⟩ :: xs)

variable {content ending : Text} {x : SourceLine} {xs : List SourceLine}

/-- The content and the end of a piece, and no others, make it up. -/
theorem withoutEnd_text (hplain : Plain content)
    (hending : ending = [] ∨ ending = ['\n'] ∨ ending = ['\r', '\n']) :
    Text.withoutEnd (text ⟨content, ending⟩) = content ∧
      Text.lineEnd (text ⟨content, ending⟩) = ending := by
  have hreturn := Text.getLast?_ne_of_notMem hplain.1
  rcases hending with rfl | rfl | rfl
  · simp only [text, List.append_nil]
    rw [Text.withoutEnd_of_notMem hplain.2, Text.lineEnd_of_notMem hplain.2,
      Text.dropLastIf_of_ne hreturn, Text.lastIf_of_ne hreturn]
    exact ⟨rfl, rfl⟩
  · simp only [text, Text.withoutEnd_append_feed, Text.lineEnd_append_feed,
      Text.dropLastIf_of_ne hreturn, Text.lastIf_of_ne hreturn, List.nil_append, and_self]
  · have hsplit : content ++ ['\r', '\n'] = (content ++ ['\r']) ++ ['\n'] := by simp
    simp only [text, hsplit, Text.withoutEnd_append_feed, Text.lineEnd_append_feed,
      Text.dropLastIf_append_singleton, Text.lastIf_append_singleton, List.singleton_append,
      and_self]

theorem ArePlain.of_mem (h : ArePlain xs) (hx : x ∈ xs) :
    Plain x.content ∧ Text.withoutEnd x.text = x.content ∧ Text.lineEnd x.text = x.ending := by
  induction h with
  | nil => simp at hx
  | last _ hplain =>
      rw [List.mem_singleton.1 hx]
      exact ⟨hplain, withoutEnd_text hplain (.inl rfl)⟩
  | line hplain hending _ ih =>
      rcases List.mem_cons.1 hx with rfl | hx
      · exact ⟨hplain, withoutEnd_text hplain (.inr hending)⟩
      · exact ih hx

/-- The texts of the lines are the pieces of a cut text. -/
theorem ArePlain.isCut (h : ArePlain xs) : Text.IsCut (xs.map text) := by
  induction h with
  | nil => exact .nil
  | last hne hplain => exact .last (by simpa [text] using hne) (by simpa [text] using hplain.2)
  | @line content ending xs hplain hending _ ih =>
      rw [List.map_cons, text]
      rcases hending with rfl | rfl
      · exact .line hplain.2 ih
      · have hsplit : content ++ ['\r', '\n'] = (content ++ ['\r']) ++ ['\n'] := by simp
        simp only [hsplit]
        exact .line (by simp [hplain.2]) ih

theorem ArePlain.atMost (h : ArePlain xs) (limit before : Nat) :
    ArePlain (atMost limit before xs) := by
  induction h generalizing before with
  | nil => exact .nil
  | last hne hplain =>
      rw [SourceLine.atMost]
      split
      · split
        · exact .last hne hplain
        · exact .nil
      · exact .last hne hplain
  | line hplain hending _ ih =>
      rw [SourceLine.atMost]
      split
      · split
        · exact .line hplain hending (ih _)
        · exact ih _
      · exact .line hplain hending (ih _)

end SourceLine

namespace Text

theorem flatten_sourceLines (source : Text) :
    (source.sourceLines.map SourceLine.text).flatten = source := by
  fun_induction sourceLines source with
  | case1 => rfl
  | case2 cs ih => simp [SourceLine.text, ih]
  | case3 cs ih => simp [SourceLine.text, ih]
  | case4 c cs _ _ h ih =>
      rw [h] at ih
      simp [SourceLine.text, ← ih]
  | case5 c cs _ _ x xs h ih =>
      rw [h] at ih
      simp only [List.map_cons, List.flatten_cons, SourceLine.text] at ih ⊢
      rw [← ih]
      rfl

theorem ReturnsEndLines.of_append {a b : Text} (h : ReturnsEndLines (a ++ b)) :
    ReturnsEndLines b := by
  intro i hi
  have hnext := h (a.length + i)
    (by rwa [List.getElem?_append_right (by omega), Nat.add_sub_cancel_left])
  rwa [Nat.add_assoc, List.getElem?_append_right (by omega), Nat.add_sub_cancel_left] at hnext

theorem ReturnsEndLines.head_ne {c : Char} {cs : Text} (h : ReturnsEndLines (c :: cs))
    (hreturn : ∀ rest, c = '\r' → cs = '\n' :: rest → False) : c ≠ '\r' := by
  intro hc
  have hhead := h 0 (by rw [hc]; rfl)
  cases cs with
  | nil => simp at hhead
  | cons d ds =>
      simp only [Nat.zero_add, List.getElem?_cons_succ, List.getElem?_cons_zero,
        Option.some_inj] at hhead
      exact hreturn ds hc (by rw [hhead])

theorem arePlain_sourceLines {source : Text} (h : source.ReturnsEndLines) :
    SourceLine.ArePlain source.sourceLines := by
  have hcons : ∀ {c : Char} {content : Text}, c ≠ '\n' → c ≠ '\r' → SourceLine.Plain content →
      SourceLine.Plain (c :: content) := fun hfeed hreturn hplain =>
    ⟨by simp [Ne.symm hreturn, hplain.1], by simp [Ne.symm hfeed, hplain.2]⟩
  fun_induction sourceLines source with
  | case1 => exact .nil
  | case2 cs ih => exact .line ⟨by simp, by simp⟩ (.inl rfl) (ih (h.of_append (a := ['\n'])))
  | case3 cs ih =>
      exact .line ⟨by simp, by simp⟩ (.inr rfl) (ih (h.of_append (a := ['\r', '\n'])))
  | case4 c cs hfeed hreturn hcs ih =>
      exact .last (by simp) (hcons hfeed (h.head_ne hreturn) ⟨by simp, by simp⟩)
  | case5 c cs hfeed hreturn x xs hcs ih =>
      have hrest := ih (h.of_append (a := [c]))
      have hne := h.head_ne hreturn
      rw [hcs] at hrest
      cases hrest with
      | last _ hplain => exact .last (by simp) (hcons hfeed hne hplain)
      | line hplain hending hrest => exact .line (hcons hfeed hne hplain) hending hrest

/-- The lines of a text whose carriage returns stand at line ends are its pieces. -/
theorem cutLines_eq_map_sourceLines {source : Text} (h : source.ReturnsEndLines) :
    cutLines source = source.sourceLines.map SourceLine.text := by
  have hcut := cutLines_flatten (arePlain_sourceLines h).isCut
  rwa [flatten_sourceLines] at hcut

end Text

/-! ## The normal form is what two passes make of a text -/

namespace SourceLine

variable {r : Repairs} {k : Nat} {xs : List SourceLine}

theorem isBlank_eq (h : ArePlain xs) {x : SourceLine} (hx : x ∈ xs) :
    x.isBlank = x.text.isBlankPiece := by
  rw [isBlank, Text.isBlankPiece, ← (h.of_mem hx).2.1, Text.all_isBlank, Text.all_isBlank,
    Repairs.strip_withoutEnd]

/-- Dropping lines is dropping pieces. -/
theorem map_text_atMost (hon : r.blankRun = true) (h : ArePlain xs) :
    (atMost r.blankLines k xs).map text = r.keepFrom k (xs.map text) := by
  induction xs generalizing k with
  | nil => rfl
  | cons x xs ih =>
      have hblank := isBlank_eq h (List.mem_cons_self ..)
      have hrest : ArePlain xs := by
        cases h with
        | last _ _ => exact .nil
        | line _ _ hrest => exact hrest
      rw [atMost, List.map_cons, Repairs.keepFrom, Repairs.isSurplus, hon, hblank,
        Repairs.advance]
      cases x.text.isBlankPiece with
      | false => simp [ih hrest]
      | true => by_cases hlt : k < r.blankLines <;> simp [hlt, ih hrest]

theorem spaced_eq_expandIndent (content : Text) : spaced content = Text.expandIndent content := by
  fun_induction spaced content with
  | case1 cs ih =>
      rw [ih]
      simp [Text.expandIndent, Rule.indentOf, Rule.spacesForTabs, Rule.tabWidth,
        Text.isSpaceOrTab, List.replicate]
  | case2 cs ih =>
      rw [ih]
      simp [Text.expandIndent, Rule.indentOf, Rule.spacesForTabs, Text.isSpaceOrTab]
  | case3 cs htab hspace =>
      cases cs with
      | nil => rfl
      | cons c cs =>
          have hc : Text.isSpaceOrTab c = false := by
            simp only [Text.isSpaceOrTab, Bool.or_eq_false_iff, beq_eq_false_iff_ne, ne_eq]
            exact ⟨fun h => hspace cs (by rw [h]), fun h => htab cs (by rw [h])⟩
          simp [Text.expandIndent, Rule.indentOf, Rule.spacesForTabs, hc]

/-- A line after the repairs of its content. -/
def tidied (r : Repairs) (x : SourceLine) : SourceLine :=
  { x with content := r.tidyContent x.content }

theorem text_tidied (h : ArePlain xs) {x : SourceLine} (hx : x ∈ xs) :
    (x.tidied r).text = r.tidy x.text := by
  obtain ⟨-, hcontent, hending⟩ := h.of_mem hx
  rw [Repairs.tidy, hcontent, hending]
  rfl

theorem map_tidied (r : Repairs) (xs : List SourceLine) :
    (if r.tabIndent then (if r.trailingSpace then xs.map trimmed else xs).map indented
      else if r.trailingSpace then xs.map trimmed else xs) = xs.map (tidied r) := by
  have hline : ∀ x : SourceLine, x.tidied r =
      if r.tabIndent then (if r.trailingSpace then x.trimmed else x).indented
        else if r.trailingSpace then x.trimmed else x := by
    intro x
    cases htabs : r.tabIndent <;> cases htrail : r.trailingSpace <;>
      simp [tidied, Repairs.tidyContent, trimmed, indented, htabs, htrail, spaced_eq_expandIndent,
        Rule.withoutTrailingSpace]
  rw [funext hline]
  cases r.tabIndent <;> cases r.trailingSpace <;> simp

theorem closed_cons {x : SourceLine} (h : x.ending ≠ []) (xs : List SourceLine) :
    closed (x :: xs) = x :: closed xs := by
  cases xs with
  | nil => simp [closed, h]
  | cons y ys => rfl

/-- The line feed after the last line is the one that a pass adds. -/
theorem flatten_map_text_closed (h : ArePlain xs) :
    ((if r.finalNewline then closed (xs.map (tidied r)) else xs.map (tidied r)).map text).flatten =
      (xs.map fun x => r.tidy x.text ++ r.closing x.text).flatten := by
  cases hon : r.finalNewline with
  | false =>
      have hclosing : ∀ p, r.closing p = [] := fun p => by simp [Repairs.closing, hon]
      simp only [Bool.false_eq_true, if_false, hclosing, List.append_nil, List.map_map]
      exact congrArg List.flatten (List.map_congr_left fun x hx => text_tidied h hx)
  | true =>
      simp only [if_true]
      induction h with
      | nil => rfl
      | @last content hne hplain =>
          have hlast : (text ⟨content, []⟩).getLast? ≠ some '\n' := by
            rw [text, List.append_nil]
            exact Text.getLast?_ne_of_notMem hplain.2
          have hclosing : r.closing (text ⟨content, []⟩) = ['\n'] := if_pos ⟨hon, hlast⟩
          rw [List.map_singleton, List.map_singleton, hclosing,
            ← text_tidied (.last hne hplain) (List.mem_singleton_self _)]
          simp [closed, text, tidied]
      | @line content ending xs hplain hending hrest ih =>
          have hne : (tidied r ⟨content, ending⟩).ending ≠ [] := by
            rcases hending with rfl | rfl <;> simp [tidied]
          have hclosing : r.closing (text ⟨content, ending⟩) = [] :=
            if_neg fun hopen => hopen.2 (by rcases hending with rfl | rfl <;> simp [text])
          rw [List.map_cons, closed_cons hne, List.map_cons, List.map_cons, List.flatten_cons,
            List.flatten_cons, ih, hclosing, List.append_nil,
            text_tidied (.line hplain hending hrest) (List.mem_cons_self ..)]

/-- The lines that are not dropped. -/
def kept (r : Repairs) (xs : List SourceLine) : List SourceLine :=
  if r.blankRun then atMost r.blankLines 0 xs else xs

theorem ArePlain.kept (h : ArePlain xs) (r : Repairs) : ArePlain (kept r xs) := by
  rw [SourceLine.kept]
  split
  · exact h.atMost ..
  · exact h

theorem map_text_kept (r : Repairs) (h : ArePlain xs) :
    (kept r xs).map text = r.keepFrom 0 (xs.map text) := by
  rw [kept]
  split
  · rename_i hon
    exact map_text_atMost hon h
  · rename_i hoff
    exact (Repairs.keepFrom_of_blankRun_eq_false (by simpa using hoff)).symm

end SourceLine

theorem Settings.normalForm_eq (s : Settings) {source : Text} (h : source.ReturnsEndLines) :
    s.normalForm source = ((s.repairs.keepFrom 0 (Text.cutLines source)).map fun p =>
      s.repairs.tidy p ++ s.repairs.closing p).flatten := by
  have hplain := Text.arePlain_sourceLines h
  have hclosed := SourceLine.flatten_map_text_closed (r := s.repairs) (hplain.kept s.repairs)
  rw [← SourceLine.map_tidied] at hclosed
  rw [Text.cutLines_eq_map_sourceLines h, ← SourceLine.map_text_kept s.repairs hplain,
    List.map_map]
  exact hclosed

namespace Linter

variable {s : Settings} {l : Linter}

/-- **Two passes bring a text into its normal form**, if its carriage returns stand at line ends.
Nothing in the normal form can be repaired, unless it is empty and no blank line is allowed. -/
theorem fixed_fixed_eq_normalForm (h : ofSettings Rule.catalogue s = .ok l) {source : Text}
    (hreturns : source.ReturnsEndLines) (path : Text) :
    l.fixed path (l.fixed path source) = s.normalForm source ∧
      ((l.lint path (s.normalForm source)).fixableCount = 0 ↔
        ¬(s.normalForm source = [] ∧ Rule.blankRun.isOn s = true ∧
          s.limits.blankLines = 0)) := by
  have hplain := Text.arePlain_sourceLines hreturns
  have hpieces := Text.cutLines_eq_map_sourceLines hreturns
  have hcut := Text.isCut_cutLines source
  have hcalm : ∀ p ∈ Text.cutLines source, '\r' ∉ Text.withoutEnd p := by
    intro p hp
    rw [hpieces] at hp
    obtain ⟨x, hx, rfl⟩ := List.mem_map.1 hp
    obtain ⟨hcontent, heq, -⟩ := hplain.of_mem hx
    rw [heq]
    exact hcontent.1
  have hsettled := Repairs.settled_rewrite (r := s.repairs) hcut hcalm
  have hpasses : Text.cutLines (l.fixed path (l.fixed path source)) =
      s.repairs.keepFrom 0 (s.repairs.rewrite (Text.cutLines source)) := by
    rw [cutLines_fixed h, cutLines_fixed h, Repairs.rewrite_of_settled hsettled]
  have heq : l.fixed path (l.fixed path source) = s.normalForm source := by
    rw [← Text.flatten_cutLines (l.fixed path (l.fixed path source)), hpasses, Repairs.rewrite,
      Repairs.flatten_keepFrom_rewriteFrom hcut (.inl rfl) fun hdropping => by simp at hdropping,
      s.normalForm_eq hreturns]
  refine ⟨heq, ?_⟩
  have hfinished : s.repairs.Finished (Text.cutLines (s.normalForm source)) := by
    rw [← heq, hpasses, ← Repairs.rewrite_of_settled hsettled]
    exact hsettled.finished_rewrite
  rw [fixableCount_lint h, Repairs.fixes_of_finished hfinished, List.length_eq_zero_iff,
    Repairs.emptyFixes_eq_nil_iff]
  rfl

/-- Line ends of both kinds, a surplus of blank lines and a last line without an end. -/
theorem normalForm_of_mixed_ends :
    let source : Text := "a \r\n\n \n\tb".toList
    let normal : Text := "a\r\n\n    b\n".toList
    source.ReturnsEndLines ∧ standard.fixed [] (standard.fixed [] source) = normal ∧
      (standard.lint [] normal).fixableCount = 0 := by
  intro source normal
  have hreturns : source.ReturnsEndLines := by decide
  obtain ⟨hfixed, hcount⟩ := fixed_fixed_eq_normalForm ofSettings_standard hreturns []
  have hnormal : Settings.normalForm {} source = normal := by decide
  rw [hnormal] at hfixed hcount
  exact ⟨hreturns, hfixed, hcount.2 fun hempty => absurd hempty.1 (by decide)⟩

end Linter

end SolidityLint
