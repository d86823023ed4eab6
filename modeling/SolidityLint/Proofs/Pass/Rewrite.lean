import SolidityLint.Proofs.Pass.Tidy

/-!
# A pass as a rewriting of lines

What a pass makes of a text is said here line by line, without offsets and edits
(`Repairs.rewrite`).  The lines are read from the first to the last.  A line is tidied, unless it
belongs to the surplus of a run of blank lines and the surplus does not start with an edit of
another repair; then it is removed.  The last line gets a line feed where it lacks one.

* `isCut_rewriteFrom`: the result consists of the lines of the new text.
* `settled_rewrite_rewrite`: after two passes only blank lines can be too many.
* `rewrite_of_settled`: then a pass removes exactly these.
* `keepFrom_keepFrom`: once they are gone, there are none left.
-/

namespace SolidityLint

/-- Does a piece consist of blank characters, its line end included? -/
def Text.isBlankPiece (piece : Text) : Bool :=
  piece.all Text.isBlank

namespace Repairs

variable (r : Repairs)

/-! ## The rewriting -/

/-- Do the repairs of a line change it at its very start? -/
def blocks (piece : Text) : Bool :=
  let content := Text.withoutEnd piece
  (r.trailingSpace && !content.isEmpty && (Rule.withoutTrailingSpace content).isEmpty) ||
    (r.tabIndent && decide ('\t' ∈ Rule.indentOf content))

/-- The number of blank lines up to a line in its run, from the number of those before it. -/
def advance (before : Nat) (piece : Text) : Nat :=
  if piece.isBlankPiece then before + 1 else 0

/-- Is a line removed?  The first line of a surplus decides, and the others of its run follow. -/
def drops (before : Nat) (dropping : Bool) (piece : Text) : Bool :=
  r.blankRun && piece.isBlankPiece &&
    if before = r.blankLines then !r.blocks piece else dropping

/-- The line feed that a last line lacks. -/
def closing (piece : Text) : Text :=
  if r.finalNewline = true ∧ piece.getLast? ≠ some '\n' then ['\n'] else []

/-- What is left of a line: at most one line. -/
def remainder (dropped : Bool) (piece : Text) : List Text :=
  let left := (if dropped then [] else r.tidy piece) ++ r.closing piece
  if left = [] then [] else [left]

/-- The lines of a text after a pass, where the run of the first of them starts `before` lines
earlier and `dropping` tells whether its surplus is being removed. -/
def rewriteFrom (before : Nat) (dropping : Bool) : List Text → List Text
  | [] => []
  | p :: ps =>
      let dropped := r.drops before dropping p
      r.remainder dropped p ++ rewriteFrom (advance before p) dropped ps

/-- The lines of a text after a pass. -/
def rewrite (ps : List Text) : List Text :=
  r.rewriteFrom 0 false ps

/-- Is a line one of the blank lines beyond the limit? -/
def isSurplus (before : Nat) (piece : Text) : Bool :=
  r.blankRun && piece.isBlankPiece && decide (r.blankLines ≤ before)

/-- The lines of a text without the blank lines beyond the limit. -/
def keepFrom (before : Nat) : List Text → List Text
  | [] => []
  | p :: ps =>
      if r.isSurplus before p then keepFrom (advance before p) ps
      else p :: keepFrom (advance before p) ps

variable {r} {before : Nat} {dropping dropped : Bool} {ps : List Text}

/-! ## The lines of the new text -/

theorem isBlankPiece_tidy (piece : Text) : (r.tidy piece).isBlankPiece = piece.isBlankPiece :=
  all_isBlank_tidy piece

theorem closing_append_feed (body : Text) : r.closing (body ++ ['\n']) = [] :=
  if_neg (by simp)

theorem isBlank_of_mem_closing {c : Char} {piece : Text} (h : c ∈ r.closing piece) :
    Text.isBlank c = true := by
  rw [closing] at h
  split at h
  · rw [List.mem_singleton.1 h]
    rfl
  · simp at h

theorem isBlankPiece_append_closing (left piece : Text) :
    (left ++ r.closing piece).isBlankPiece = left.isBlankPiece := by
  rw [Text.isBlankPiece, Text.isBlankPiece, List.all_append,
    List.all_eq_true.2 fun c hc => isBlank_of_mem_closing hc, Bool.and_true]

theorem flatten_remainder (piece : Text) : (r.remainder dropped piece).flatten =
    (if dropped then [] else r.tidy piece) ++ r.closing piece := by
  rw [remainder]
  generalize (if dropped then [] else r.tidy piece) ++ r.closing piece = left
  by_cases h : left = [] <;> simp [h]

theorem remainder_append_feed (body : Text) : r.remainder dropped (body ++ ['\n']) =
    if dropped then [] else [r.tidyBody body ++ ['\n']] := by
  simp only [remainder, closing_append_feed, tidy_append_feed, List.append_nil]
  cases dropped <;> simp

/-- What is left of a last line without line feed: a text without line feed, perhaps with one
behind it. -/
theorem remainder_of_notMem (r : Repairs) (dropped : Bool) {tail : Text} (hfeed : '\n' ∉ tail) :
    ∃ left : Text, left = (if dropped then [] else r.tidyBody tail) ∧ '\n' ∉ left ∧
      (r.remainder dropped tail = (if r.finalNewline then [left ++ ['\n']]
        else if left = [] then [] else [left])) := by
  refine ⟨_, rfl, ?_, ?_⟩
  · cases dropped with
    | true => simp
    | false => simpa using feed_notMem_tidyBody hfeed
  · have hopen : tail.getLast? ≠ some '\n' := Text.getLast?_ne_of_notMem hfeed
    simp only [remainder, closing, tidy_of_notMem hfeed]
    cases r.finalNewline <;> simp [hopen]

theorem isCut_rewriteFrom (h : Text.IsCut ps) :
    Text.IsCut (r.rewriteFrom before dropping ps) := by
  induction h generalizing before dropping with
  | nil => exact .nil
  | @last tail _ hfeed =>
      obtain ⟨left, -, hleft, heq⟩ :=
        r.remainder_of_notMem (r.drops before dropping tail) hfeed
      simp only [rewriteFrom, List.append_nil, heq]
      split
      · exact .line hleft .nil
      · split
        · exact .nil
        · rename_i hne
          exact .last hne hleft
  | @line body ps hfeed _ ih =>
      simp only [rewriteFrom, remainder_append_feed]
      split
      · exact ih
      · exact .line (feed_notMem_tidyBody hfeed) ih

/-- Every line of the new text is a tidied line of the old one, apart from its line feed. -/
theorem exists_body_of_mem_rewriteFrom (h : Text.IsCut ps) {q : Text}
    (hq : q ∈ r.rewriteFrom before dropping ps) :
    ∃ body, Text.dropLastIf '\n' q = r.tidyBody body ∧
      (body = [] ∨ ∃ p ∈ ps, body = Text.dropLastIf '\n' p) := by
  induction h generalizing before dropping with
  | nil => simp [rewriteFrom] at hq
  | @last tail _ hfeed =>
      obtain ⟨left, hdef, hleft, heq⟩ :=
        r.remainder_of_notMem (r.drops before dropping tail) hfeed
      have hbody : Text.dropLastIf '\n' q = left := by
        simp only [rewriteFrom, List.append_nil, heq] at hq
        split at hq
        · rw [List.mem_singleton.1 hq, Text.dropLastIf_append_singleton]
        · split at hq
          · simp at hq
          · rw [List.mem_singleton.1 hq, Text.dropLastIf_of_ne (Text.getLast?_ne_of_notMem hleft)]
      rw [hbody, hdef]
      split
      · exact ⟨[], tidyBody_nil.symm, .inl rfl⟩
      · refine ⟨tail, rfl, .inr ⟨tail, List.mem_singleton_self _, ?_⟩⟩
        rw [Text.dropLastIf_of_ne (Text.getLast?_ne_of_notMem hfeed)]
  | @line body ps hfeed _ ih =>
      simp only [rewriteFrom, remainder_append_feed] at hq
      rcases List.mem_append.1 hq with hq | hq
      · split at hq
        · simp at hq
        · rw [List.mem_singleton.1 hq, Text.dropLastIf_append_singleton]
          exact ⟨body, rfl, .inr ⟨_, List.mem_cons_self .., by simp⟩⟩
      · obtain ⟨b, hb, horigin⟩ := ih hq
        refine ⟨b, hb, horigin.imp_right ?_⟩
        rintro ⟨p, hp, rfl⟩
        exact ⟨p, List.mem_cons_of_mem _ hp, rfl⟩

/-- Every line of the new text has its line feed, if the repair that adds one runs. -/
theorem closing_of_mem_rewriteFrom (h : Text.IsCut ps) {q : Text}
    (hq : q ∈ r.rewriteFrom before dropping ps) : r.closing q = [] := by
  induction h generalizing before dropping with
  | nil => simp [rewriteFrom] at hq
  | @last tail _ hfeed =>
      obtain ⟨left, -, -, heq⟩ :=
        r.remainder_of_notMem (r.drops before dropping tail) hfeed
      simp only [rewriteFrom, List.append_nil, heq] at hq
      split at hq
      · rw [List.mem_singleton.1 hq, closing_append_feed]
      · rename_i hoff
        exact if_neg fun hon => hoff hon.1
  | line hfeed _ ih =>
      simp only [rewriteFrom, remainder_append_feed] at hq
      rcases List.mem_append.1 hq with hq | hq
      · split at hq
        · simp at hq
        · rw [List.mem_singleton.1 hq, closing_append_feed]
      · exact ih hq

/-! ## Settled lines -/

variable (r) in
/-- Lines that no repair changes, except that there may be too many blank ones. -/
structure Settled (ps : List Text) : Prop where
  isCut : Text.IsCut ps
  quiet : ∀ p ∈ ps, r.Quiet p
  closed : ∀ p ∈ ps, r.closing p = []

/-- After two passes only blank lines can be too many. -/
theorem settled_rewrite_rewrite (h : Text.IsCut ps) : r.Settled (r.rewrite (r.rewrite ps)) where
  isCut := isCut_rewriteFrom (isCut_rewriteFrom h)
  closed _ hq := closing_of_mem_rewriteFrom (isCut_rewriteFrom h) hq
  quiet q hq := by
    obtain ⟨body, hbody, horigin⟩ := exists_body_of_mem_rewriteFrom (isCut_rewriteFrom h) hq
    have htidied : ∃ old, body = r.tidyBody old := by
      rcases horigin with rfl | ⟨p, hp, rfl⟩
      · exact ⟨[], tidyBody_nil.symm⟩
      · obtain ⟨old, hold, -⟩ := exists_body_of_mem_rewriteFrom h hp
        exact ⟨old, hold⟩
    obtain ⟨old, rfl⟩ := htidied
    rw [Quiet, Text.withoutEnd, hbody]
    exact quietContent_tidyBody_tidyBody old

/-- One pass is enough where carriage returns stand at line ends only. -/
theorem settled_rewrite (h : Text.IsCut ps) (hcalm : ∀ p ∈ ps, '\r' ∉ Text.withoutEnd p) :
    r.Settled (r.rewrite ps) where
  isCut := isCut_rewriteFrom h
  closed _ hq := closing_of_mem_rewriteFrom h hq
  quiet q hq := by
    obtain ⟨body, hbody, horigin⟩ := exists_body_of_mem_rewriteFrom h hq
    rw [Quiet, Text.withoutEnd, hbody]
    refine quietContent_tidyBody ?_
    rcases horigin with rfl | ⟨p, hp, rfl⟩
    · simp [Text.dropLastIf]
    · exact hcalm p hp

theorem blocks_of_quiet {piece : Text} (h : r.Quiet piece) : r.blocks piece = false := by
  obtain ⟨htrail, htabs⟩ := h
  rw [blocks, Bool.or_eq_false_iff]
  constructor
  · cases hon : r.trailingSpace with
    | false => rfl
    | true => simp [htrail hon]
  · cases hon : r.tabIndent with
    | false => rfl
    | true => simp [htabs hon]

theorem Settled.tail {p : Text} (h : r.Settled (p :: ps)) : r.Settled ps where
  isCut := by
    cases h.isCut with
    | last => exact .nil
    | line _ hrest => exact hrest
  quiet q hq := h.quiet q (List.mem_cons_of_mem _ hq)
  closed q hq := h.closed q (List.mem_cons_of_mem _ hq)

/-- What a pass leaves of a settled line. -/
theorem Settled.remainder_head {p : Text} (h : r.Settled (p :: ps)) :
    r.remainder dropped p = if dropped then [] else [p] := by
  have hp := List.mem_cons_self (a := p) (l := ps)
  simp only [remainder, h.closed p hp, tidy_of_quiet (h.quiet p hp), List.append_nil]
  cases dropped <;> simp [h.isCut.ne_nil hp]

/-- Of settled lines a pass removes exactly the blank lines beyond the limit. -/
theorem rewriteFrom_of_settled (h : r.Settled ps)
    (hdropping : r.blankRun = true → dropping = decide (r.blankLines < before)) :
    r.rewriteFrom before dropping ps = r.keepFrom before ps := by
  induction ps generalizing before dropping with
  | nil => rfl
  | cons p ps ih =>
      have hblocks := blocks_of_quiet (h.quiet p (List.mem_cons_self ..))
      have hdrops : r.drops before dropping p = r.isSurplus before p := by
        rw [drops, isSurplus, hblocks]
        cases hon : r.blankRun with
        | false => rfl
        | true =>
            rw [hdropping hon]
            congr 1
            split <;> simp <;> omega
      have hnext : r.blankRun = true →
          r.isSurplus before p = decide (r.blankLines < advance before p) := by
        intro hon
        rw [isSurplus, advance, hon]
        cases p.isBlankPiece with
        | false => simp
        | true =>
            simp only [Bool.and_self, Bool.true_and, if_true]
            exact decide_eq_decide.2 (by omega)
      simp only [rewriteFrom, keepFrom, hdrops, h.remainder_head, ih h.tail hnext]
      split <;> rfl

theorem rewrite_of_settled (h : r.Settled ps) : r.rewrite ps = r.keepFrom 0 ps :=
  rewriteFrom_of_settled h fun _ => by simp

/-! ## Blank lines beyond the limit -/

theorem keepFrom_sublist (before : Nat) (ps : List Text) : (r.keepFrom before ps).Sublist ps := by
  induction ps generalizing before with
  | nil => exact .slnil
  | cons p ps ih =>
      rw [keepFrom]
      split
      · exact (ih _).cons p
      · exact (ih _).cons_cons p

theorem keepFrom_of_blankRun_eq_false (h : r.blankRun = false) : r.keepFrom before ps = ps := by
  induction ps generalizing before with
  | nil => rfl
  | cons p ps ih => simp [keepFrom, isSurplus, h, ih]

theorem isCut_keepFrom (h : Text.IsCut ps) : Text.IsCut (r.keepFrom before ps) := by
  induction h generalizing before with
  | nil => exact .nil
  | last hne hfeed =>
      rw [keepFrom]
      split
      · exact .nil
      · exact .last hne hfeed
  | line hfeed _ ih =>
      rw [keepFrom]
      split
      · exact ih
      · exact .line hfeed ih

theorem Settled.keepFrom (h : r.Settled ps) : r.Settled (r.keepFrom before ps) where
  isCut := isCut_keepFrom h.isCut
  quiet p hp := h.quiet p ((keepFrom_sublist before ps).mem hp)
  closed p hp := h.closed p ((keepFrom_sublist before ps).mem hp)

/-- Two counts of blank lines that make the same lines surplus. -/
def SameCount (r : Repairs) (j k : Nat) : Prop :=
  j = k ∨ r.blankLines ≤ j ∧ r.blankLines ≤ k

theorem SameCount.le {j k : Nat} (h : r.SameCount j k) (hle : r.blankLines ≤ k) :
    r.blankLines ≤ j := by
  rcases h with rfl | h
  · exact hle
  · exact h.1

theorem SameCount.isSurplus_eq {j k : Nat} (h : r.SameCount j k) (p : Text) :
    r.isSurplus j p = r.isSurplus k p := by
  rcases h with rfl | ⟨hj, hk⟩
  · rfl
  · rw [isSurplus, isSurplus, decide_eq_true hj, decide_eq_true hk]

theorem SameCount.advance {j k : Nat} (h : r.SameCount j k) (p : Text) :
    r.SameCount (advance j p) (advance k p) := by
  rcases h with rfl | ⟨hj, hk⟩
  · exact .inl rfl
  · rw [Repairs.advance, Repairs.advance]
    split
    · exact .inr ⟨by omega, by omega⟩
    · exact .inl rfl

theorem keepFrom_keepFrom {j k : Nat} (h : r.SameCount j k) :
    r.keepFrom j (r.keepFrom k ps) = r.keepFrom k ps := by
  induction ps generalizing j k with
  | nil => rfl
  | cons p ps ih =>
      rw [Repairs.keepFrom]
      split
      · rename_i hsurplus
        simp only [isSurplus, Bool.and_eq_true, decide_eq_true_eq] at hsurplus
        have hj := h.le hsurplus.2
        refine ih (.inr ⟨hj, ?_⟩)
        rw [Repairs.advance, if_pos hsurplus.1.2]
        omega
      · rename_i hkept
        rw [Repairs.keepFrom, if_neg (by rwa [h.isSurplus_eq]), ih (h.advance p)]

end Repairs

end SolidityLint
