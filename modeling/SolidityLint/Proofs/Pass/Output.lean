import SolidityLint.Proofs.Edit.Weave
import SolidityLint.Proofs.Pass.Scan

/-!
# The text after a pass

The edits that the greedy choice accepts are applied here, line by line.  Together they do what
the rewriting of lines says (`weave_acceptedFrom`).
-/

namespace SolidityLint.Repairs

variable {r : Repairs} {o before : Nat} {dropping : Bool} {piece : Text} {ps : List Text} {x : Fix}

/-! ## Where the accepted edits lie -/

/-- An accepted edit is the first that starts with a line, the removal of the white space at its
end, the line feed that it lacks, or one of the lines behind it. -/
theorem mem_of_mem_acceptedFrom_cons (h : x ∈ r.acceptedFrom o before dropping (piece :: ps)) :
    x ∈ (r.leading o before piece ps).take 1 ∨ x ∈ r.late o piece ∨ x ∈ r.closingFixes o piece ∨
      x ∈ r.acceptedFrom (o + piece.length) (advance before piece)
        (r.drops before dropping piece) ps := by
  simp only [acceptedFrom, List.mem_append] at h
  rcases h with h | h | h
  · split at h
    · simp at h
    · rcases List.mem_append.1 h with h | h
      · exact .inl h
      · split at h
        · simp at h
        · exact .inr (.inl h)
  · exact .inr (.inr (.inl h))
  · exact .inr (.inr (.inr h))

/-- The accepted edits of the lines from offset `o` on start there or later. -/
theorem bounds_of_mem_acceptedFrom (hps : ∀ p ∈ ps, p ≠ [])
    (h : x ∈ r.acceptedFrom o before dropping ps) : o ≤ x.start ∧ x.start ≤ x.stop := by
  induction ps generalizing o before dropping with
  | nil => simp [acceptedFrom] at h
  | cons p ps ih =>
      rcases mem_of_mem_acceptedFrom_cons h with h | h | h | h
      · have := bounds_of_mem_leading (hps p (List.mem_cons_self ..)) (List.mem_of_mem_take h)
        omega
      · have := bounds_of_mem_late h
        omega
      · have := bounds_of_mem_closingFixes h
        omega
      · have := ih (fun q hq => hps q (List.mem_cons_of_mem _ hq)) h
        omega

theorem bounds_of_mem_map_edit (k : Nat) (xs : List Fix)
    (h : ∀ x ∈ xs, (k : Int) ≤ x.start ∧ x.start ≤ x.stop) :
    ∀ e ∈ xs.map (·.edit), (k : Int) ≤ e.range.start ∧ e.range.start ≤ e.range.stop := by
  intro e he
  obtain ⟨x, hx, rfl⟩ := List.mem_map.1 he
  exact h x hx

/-! ## One line -/

variable (r) in
/-- The content of a line without the white space at its end, if that is removed. -/
def trimmed (content : Text) : Text :=
  if r.trailingSpace then Rule.withoutTrailingSpace content else content

theorem tidyContent_eq (content : Text) : r.tidyContent content =
    if r.tabIndent then Text.expandIndent (r.trimmed content) else r.trimmed content := rfl

/-- The end of a line is copied. -/
theorem weave_lineEnd (rest : Text) {es : List Edit}
    (hes : ∀ e ∈ es, (o + piece.length : Nat) ≤ e.range.start ∧ e.range.start ≤ e.range.stop) :
    Edit.weave (o + (Text.withoutEnd piece).length) (Text.lineEnd piece ++ rest) es =
      Text.lineEnd piece ++ Edit.weave (o + piece.length) rest es := by
  have hlen := congrArg List.length (Text.withoutEnd_append_lineEnd piece)
  rw [List.length_append] at hlen
  rw [Edit.weave_append, Nat.add_assoc, hlen]
  rwa [Nat.add_assoc, hlen]

/-- What trimming takes from the end of a content is what the edit there removes. -/
theorem exists_trail (r : Repairs) (o : Nat) (piece : Text) :
    ∃ trail, Text.withoutEnd piece = r.trimmed (Text.withoutEnd piece) ++ trail ∧
      (trail = [] ∧ r.trailingFixes o piece = [] ∨
        r.trailingFixes o piece = [⟨Rule.trailingSpace.id,
          ⟨⟨((o + (r.trimmed (Text.withoutEnd piece)).length : Nat) : Int),
            ((o + (Text.withoutEnd piece).length : Nat) : Int)⟩, []⟩⟩]) := by
  simp only [trailingFixes]
  generalize Text.withoutEnd piece = content
  cases hon : r.trailingSpace with
  | false => exact ⟨[], by simp [trimmed, hon], .inl ⟨rfl, by simp⟩⟩
  | true =>
      obtain ⟨trail, heq, -⟩ := Text.exists_eq_trimEnd_append Text.isSpaceOrTab content
      change content = Rule.withoutTrailingSpace content ++ trail at heq
      have hlen := congrArg List.length heq
      rw [List.length_append] at hlen
      refine ⟨trail, by rwa [trimmed, if_pos hon], ?_⟩
      rw [trimmed, if_pos hon]
      by_cases hnil : trail = []
      · exact .inl ⟨hnil, if_neg fun h => h.2 (by simp [hlen, hnil])⟩
      · have hpos := List.length_pos_of_ne_nil hnil
        exact .inr (if_pos ⟨rfl, by omega⟩)

/-- From within the content on, the removal of the white space at its end leaves the trimmed
content and the line end. -/
theorem weave_trailingFixes {a : Nat} (ha : a ≤ (r.trimmed (Text.withoutEnd piece)).length)
    {rest : Text} {es : List Edit} (hes : ∀ e ∈ es, (o + piece.length : Nat) ≤ e.range.start ∧
      e.range.start ≤ e.range.stop) :
    Edit.weave (o + a) ((Text.withoutEnd piece).drop a ++ (Text.lineEnd piece ++ rest))
        ((r.trailingFixes o piece).map (·.edit) ++ es) =
      (r.trimmed (Text.withoutEnd piece)).drop a ++
        (Text.lineEnd piece ++ Edit.weave (o + piece.length) rest es) := by
  have hend := weave_lineEnd rest hes
  have hcontentLe := Text.length_withoutEnd_le piece
  obtain ⟨trail, hcontent, hedits⟩ := exists_trail r o piece
  generalize r.trimmed (Text.withoutEnd piece) = kept at *
  have hlen := congrArg List.length hcontent
  rw [List.length_append] at hlen
  have hkept : o + a + (kept.drop a).length = o + kept.length := by
    rw [List.length_drop]
    omega
  have hdrop : (Text.withoutEnd piece).drop a = kept.drop a ++ trail := by
    rw [hcontent]
    exact List.drop_append_of_le_length ha
  rw [hdrop, List.append_assoc]
  rcases hedits with ⟨rfl, hnone⟩ | hone
  · rw [List.append_nil] at hcontent
    rw [hcontent] at hend
    rw [hnone, List.map_nil, List.nil_append, List.nil_append, Edit.weave_append, hkept, hend]
    intro e he
    have := hes e he
    omega
  · have hstop : o + (Text.withoutEnd piece).length = o + kept.length + trail.length := by omega
    rw [hstop] at hone hend
    rw [hone, List.map_singleton, List.singleton_append, Edit.weave_append, hkept,
      Edit.weave_cons, List.nil_append, hend]
    intro e he
    rcases List.mem_cons.1 he with rfl | he
    · simp only [hkept]
      omega
    · have := hes e he
      omega

/-- Unless the whole content is removed, trimming leaves the indentation and the removal of the
white space at its end does not start with the line. -/
theorem indentOf_trimmed (h : ¬(isWhite piece = true ∧ r.trailingFixes o piece ≠ [])) :
    Rule.indentOf (r.trimmed (Text.withoutEnd piece)) = Rule.indentOf (Text.withoutEnd piece) ∧
      r.ownLeading o piece = r.tabFixes o piece ∧ r.late o piece = r.trailingFixes o piece := by
  by_cases hwhite : isWhite piece = true
  · have hnone : r.trailingFixes o piece = [] := by
      by_contra hne
      exact h ⟨hwhite, hne⟩
    refine ⟨?_, by simp [ownLeading, hnone], by simp [late, hnone]⟩
    rw [trimmed]
    split
    · rename_i hon
      have hlen : (Rule.withoutTrailingSpace (Text.withoutEnd piece)).length =
          (Text.withoutEnd piece).length := by
        by_contra hne
        simp [trailingFixes, hon, hne] at hnone
      rw [(Text.withoutTrailingSpace_isPrefix _).eq_of_length hlen]
    · rfl
  · refine ⟨?_, by simp [ownLeading, hwhite], by simp [late, hwhite]⟩
    rw [trimmed]
    split
    · exact Text.indentOf_withoutTrailingSpace (by simpa [isWhite] using hwhite)
    · rfl

theorem append_eq_withoutEnd_append (piece rest : Text) :
    piece ++ rest = Text.withoutEnd piece ++ (Text.lineEnd piece ++ rest) := by
  rw [← List.append_assoc, Text.withoutEnd_append_lineEnd]

/-- A content of white space is removed as a whole. -/
theorem weave_line_of_removed (hwhite : isWhite piece = true) (hne : r.trailingFixes o piece ≠ [])
    {rest : Text} {es : List Edit}
    (hes : ∀ e ∈ es, (o + piece.length : Nat) ≤ e.range.start ∧ e.range.start ≤ e.range.stop) :
    Edit.weave o (piece ++ rest)
        (((r.ownLeading o piece).take 1 ++ r.late o piece).map (·.edit) ++ es) =
      r.tidy piece ++ Edit.weave (o + piece.length) rest es := by
  have hkept : Rule.withoutTrailingSpace (Text.withoutEnd piece) = [] := List.isEmpty_iff.1 hwhite
  have hon : r.trailingSpace = true := by
    by_contra hoff
    simp [trailingFixes, hoff] at hne
  have htidy : r.tidyContent (Text.withoutEnd piece) = [] := by
    simp [tidyContent_eq, trimmed, hon, hkept, Text.expandIndent, Rule.indentOf,
      Rule.spacesForTabs]
  have hedit : r.trailingFixes o piece = [⟨Rule.trailingSpace.id,
      ⟨⟨(o : Int), ((o + (Text.withoutEnd piece).length : Nat) : Int)⟩, []⟩⟩] := by
    simp only [trailingFixes, hkept] at hne ⊢
    split at hne
    · rename_i hcond
      rw [if_pos hcond]
      rfl
    · exact absurd rfl hne
  have hown : (r.ownLeading o piece).take 1 = r.trailingFixes o piece := by
    rw [ownLeading, if_pos hwhite, hedit]
    rfl
  rw [hown, late, if_pos hwhite, hedit, append_eq_withoutEnd_append, tidy, htidy]
  simp only [List.append_nil, List.map_cons, List.map_nil, List.cons_append, List.nil_append]
  rw [Edit.weave_cons, List.nil_append, weave_lineEnd rest hes]

/-- Of another content the tabs of the indentation become spaces, and the white space at its end
goes. -/
theorem weave_line_of_kept (h : ¬(isWhite piece = true ∧ r.trailingFixes o piece ≠ []))
    {rest : Text} {es : List Edit}
    (hes : ∀ e ∈ es, (o + piece.length : Nat) ≤ e.range.start ∧ e.range.start ≤ e.range.stop) :
    Edit.weave o (piece ++ rest)
        (((r.ownLeading o piece).take 1 ++ r.late o piece).map (·.edit) ++ es) =
      r.tidy piece ++ Edit.weave (o + piece.length) rest es := by
  obtain ⟨hindent, hown, hlate⟩ := indentOf_trimmed h
  have hle : (Rule.indentOf (Text.withoutEnd piece)).length ≤
      (r.trimmed (Text.withoutEnd piece)).length := by
    rw [← hindent]
    exact (List.takeWhile_prefix _).length_le
  rw [hown, hlate, append_eq_withoutEnd_append, tidy, tidyContent_eq, List.map_append,
    List.append_assoc, List.append_assoc]
  simp only [tabFixes]
  split
  · -- the tabs of the indentation become spaces
    rename_i htab
    have hcontent : Rule.indentOf (Text.withoutEnd piece) ++
        (Text.withoutEnd piece).drop (Rule.indentOf (Text.withoutEnd piece)).length =
          Text.withoutEnd piece := by
      rw [← Text.dropWhile_eq_drop_indentOf, Text.indentOf_append_dropWhile]
    have hdrop : (r.trimmed (Text.withoutEnd piece)).dropWhile Text.isSpaceOrTab =
        (r.trimmed (Text.withoutEnd piece)).drop
          (Rule.indentOf (Text.withoutEnd piece)).length := by
      rw [Text.dropWhile_eq_drop_indentOf, hindent]
    have hexpand := Edit.weave_cons o (Rule.indentOf (Text.withoutEnd piece))
      ((Text.withoutEnd piece).drop (Rule.indentOf (Text.withoutEnd piece)).length ++
        (Text.lineEnd piece ++ rest)) (Rule.spacesForTabs (Rule.indentOf (Text.withoutEnd piece)))
      ((r.trailingFixes o piece).map (·.edit) ++ es)
    rw [← List.append_assoc, hcontent] at hexpand
    rw [if_pos htab.1, Text.expandIndent, hindent, hdrop]
    simp only [List.take_one, List.head?_cons, Option.toList_some, List.map_cons, List.map_nil,
      List.cons_append, List.nil_append]
    rw [hexpand, weave_trailingFixes hle hes, List.append_assoc]
  · -- the indentation has no tabs, or keeps them
    rename_i htab
    have hself : (if r.tabIndent then Text.expandIndent (r.trimmed (Text.withoutEnd piece))
        else r.trimmed (Text.withoutEnd piece)) = r.trimmed (Text.withoutEnd piece) := by
      split
      · rename_i hon
        exact Text.expandIndent_eq_self (by rw [hindent]; exact fun hmem => htab ⟨hon, hmem⟩)
      · rfl
    rw [hself]
    exact weave_trailingFixes (Nat.zero_le _) hes

/-- The edits accepted in a line tidy it. -/
theorem weave_line {rest : Text} {es : List Edit}
    (hes : ∀ e ∈ es, (o + piece.length : Nat) ≤ e.range.start ∧ e.range.start ≤ e.range.stop) :
    Edit.weave o (piece ++ rest)
        (((r.ownLeading o piece).take 1 ++ r.late o piece).map (·.edit) ++ es) =
      r.tidy piece ++ Edit.weave (o + piece.length) rest es := by
  by_cases hwhole : isWhite piece = true ∧ r.trailingFixes o piece ≠ []
  · exact weave_line_of_removed hwhole.1 hwhole.2 hes
  · exact weave_line_of_kept hwhole hes

/-! ## A whole text -/

/-- What is still to be read of the lines `ps`: nothing of a surplus that is being removed. -/
def ahead (dropping : Bool) (ps : List Text) : Text :=
  (if dropping then ps.dropWhile Text.isBlankPiece else ps).flatten

/-- The offset at which that starts. -/
def behind (o : Nat) (dropping : Bool) (ps : List Text) : Nat :=
  o + if dropping then runLength ps else 0

theorem behind_inside (o : Nat) (ps : List Text) (hblank : piece.isBlankPiece = true) :
    behind o true (piece :: ps) = behind (o + piece.length) true ps ∧
      ahead true (piece :: ps) = ahead true ps := by
  constructor
  · simp only [behind, runLength_cons, hblank, if_true]
    omega
  · simp [ahead, hblank]

theorem behind_outside (o : Nat) (ps : List Text)
    (hout : (dropping && piece.isBlankPiece) = false) :
    behind o dropping (piece :: ps) = o ∧ ahead dropping (piece :: ps) = piece ++ ps.flatten := by
  cases dropping with
  | false => simp [behind, ahead]
  | true =>
      rw [Bool.true_and] at hout
      simp [behind, ahead, runLength_cons, hout]

/-- The removal of a surplus takes its lines away. -/
theorem weave_runFixes (hrun : r.blankRun = true ∧ piece.isBlankPiece = true ∧
    before = r.blankLines) (es : List Edit) :
    Edit.weave o (piece ++ ps.flatten) ((r.runFixes o before piece ps).map (·.edit) ++ es) =
      Edit.weave (behind (o + piece.length) true ps) (ahead true ps) es := by
  have hsplit : piece ++ ps.flatten =
      (piece ++ (ps.takeWhile Text.isBlankPiece).flatten) ++ ahead true ps := by
    rw [List.append_assoc, ahead, if_pos rfl, ← List.flatten_append,
      List.takeWhile_append_dropWhile]
  have hlen : (piece ++ (ps.takeWhile Text.isBlankPiece).flatten).length =
      piece.length + runLength ps := by
    rw [List.length_append, runLength]
  have hremove := Edit.weave_cons o (piece ++ (ps.takeWhile Text.isBlankPiece).flatten)
    (ahead true ps) [] es
  rw [hlen, ← Nat.add_assoc] at hremove
  rw [runFixes, if_pos hrun, hsplit, behind, if_pos rfl]
  exact hremove

/-- What the accepted edits make of one line. -/
theorem weave_accepted_line (hreached : r.Reached before dropping)
    {es : List Edit}
    (hes : ∀ e ∈ es, (o + piece.length : Nat) ≤ e.range.start ∧ e.range.start ≤ e.range.stop) :
    let dropped := r.drops before dropping piece
    Edit.weave (behind o dropping (piece :: ps)) (ahead dropping (piece :: ps))
        ((if dropping && piece.isBlankPiece then []
          else (r.leading o before piece ps).take 1 ++ if dropped then [] else r.late o piece).map
            (·.edit) ++ es) =
      (if dropped then [] else r.tidy piece) ++
        Edit.weave (behind (o + piece.length) dropped ps) (ahead dropped ps) es := by
  intro dropped
  by_cases hin : (dropping && piece.isBlankPiece) = true
  · -- the line is gone already
    have hdropped : dropped = true := hreached.drops hin
    rw [Bool.and_eq_true] at hin
    obtain ⟨hbehind, hahead⟩ := behind_inside o ps hin.2
    simp [hin.1, hin.2, hdropped, hbehind, hahead]
  · have hout : (dropping && piece.isBlankPiece) = false := by simpa using hin
    obtain ⟨hbehind, hahead⟩ := behind_outside o ps hout
    rw [hbehind, hahead, if_neg hin]
    cases hdropped : dropped with
    | true =>
        obtain ⟨hrun, hown⟩ := (r.drops_of_outside before o hout).1 hdropped
        have hleading : (r.leading o before piece ps).take 1 = r.runFixes o before piece ps := by
          rw [leading, hown, List.nil_append, runFixes, if_pos hrun]
          rfl
        simp only [hleading, if_true, List.append_nil, List.nil_append]
        exact weave_runFixes hrun es
    | false =>
        simp only [Bool.false_eq_true, if_false]
        rw [take_one_leading hdropped hout, weave_line hes]
        simp [behind, ahead]

/-- **The text after a pass.**  The accepted edits do what the rewriting of lines says. -/
theorem weave_acceptedFrom (h : Text.IsCut ps) (hreached : r.Reached before dropping) :
    Edit.weave (behind o dropping ps) (ahead dropping ps)
        ((r.acceptedFrom o before dropping ps).map (·.edit)) =
      (r.rewriteFrom before dropping ps).flatten := by
  induction h generalizing o before dropping with
  | nil => cases dropping <;> rfl
  | @last tail _ _ =>
      have hclosing : ∀ dropped, Edit.weave (behind (o + tail.length) dropped [])
          (ahead dropped []) ((r.closingFixes o tail).map (·.edit)) = r.closing tail := by
        intro dropped
        rw [closingFixes, closing]
        split <;> cases dropped <;> simp [Edit.weave, ahead]
      have hes := bounds_of_mem_map_edit (o + tail.length) (r.closingFixes o tail)
        fun x hx => by
          have := bounds_of_mem_closingFixes hx
          omega
      simp only [acceptedFrom, rewriteFrom, List.append_nil, List.map_append]
      rw [weave_accepted_line hreached hes, hclosing, flatten_remainder]
  | @line body ps _ hrest ih =>
      have hes := bounds_of_mem_map_edit (o + (body ++ ['\n']).length)
        (r.acceptedFrom (o + (body ++ ['\n']).length) (advance before (body ++ ['\n']))
          (r.drops before dropping (body ++ ['\n'])) ps)
        fun x hx => bounds_of_mem_acceptedFrom (fun p hp => hrest.ne_nil hp) hx
      simp only [acceptedFrom, rewriteFrom, closingFixes_append_feed, List.nil_append,
        List.map_append, List.flatten_append]
      rw [weave_accepted_line hreached hes, ih (hreached.advance _), flatten_remainder,
        closing_append_feed, List.append_nil]

end SolidityLint.Repairs
