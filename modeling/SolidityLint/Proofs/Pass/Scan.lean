import SolidityLint.Proofs.Pass.Rewrite
import SolidityLint.Proofs.Text.Lines
import SolidityLint.Repair.Conflict

/-!
# The edits of a pass and the choice among them

The edits that the repairs offer for a text are listed here line by line, in the order of
scanning (`Repairs.fixesFrom`): first those that start with the line, then the removal of the
white space at its end, last the line feed that the text lacks.

* `scan_fixesFrom`: which of them the greedy choice accepts and which it leaves.  The first edit
  at the start of a line wins, the removal of a surplus of blank lines wins over all later edits
  in it, and nothing else is left.
-/

namespace SolidityLint

/-- An edit with the rule it belongs to. -/
structure Fix where
  /-- The identifier of the rule. -/
  rule : Text
  /-- The edit. -/
  edit : Edit
  deriving DecidableEq, Repr

/-- What a candidate does, apart from the diagnostic it comes from. -/
def Candidate.fix (c : Candidate) : Fix :=
  ⟨c.diagnostic.rule, c.edit⟩

namespace Fix

/-- The offset at which the edit starts. -/
def start (x : Fix) : Int :=
  x.edit.range.start

/-- The offset at which the edit stops. -/
def stop (x : Fix) : Int :=
  x.edit.range.stop

/-- The edits accepted and the edits left by the greedy choice from `cursor` on. -/
def scan (cursor : Int) : List Fix → List Fix × List Fix
  | [] => ([], [])
  | x :: xs =>
      if cursor ≤ x.start then (x :: (scan x.stop xs).1, (scan x.stop xs).2)
      else ((scan cursor xs).1, x :: (scan cursor xs).2)

variable {cursor c d : Int} {xs : List Fix}

/-- The choice among candidates depends on their edits only. -/
theorem scan_map (cursor : Int) (cs : List Candidate) :
    scan cursor (cs.map Candidate.fix) =
      ((Candidate.scan cursor cs).accepted.map Candidate.fix,
        (Candidate.scan cursor cs).rejected.map Candidate.fix) := by
  induction cs generalizing cursor with
  | nil => rfl
  | cons c cs ih =>
      rw [List.map_cons, scan, Candidate.scan]
      by_cases h : cursor ≤ c.start
      · rw [if_pos h, if_pos (show cursor ≤ c.fix.start from h), ih]
        rfl
      · rw [if_neg h, if_neg (show ¬cursor ≤ c.fix.start from h), ih]
        rfl

/-- Edits that start before the cursor are left. -/
theorem scan_append_of_lt (h : ∀ x ∈ xs, x.start < cursor) (ys : List Fix) :
    scan cursor (xs ++ ys) = ((scan cursor ys).1, xs ++ (scan cursor ys).2) := by
  induction xs with
  | nil => rfl
  | cons x xs ih =>
      have hx := h x (List.mem_cons_self ..)
      rw [List.cons_append, scan, if_neg (by omega), ih fun y hy => h y (List.mem_cons_of_mem _ hy)]
      rfl

/-- Of edits that start at one offset and are not empty the first is accepted. -/
theorem scan_append_of_eq {o : Int} (hcursor : cursor ≤ o)
    (h : ∀ x ∈ xs, x.start = o ∧ o < x.stop) (ys : List Fix) :
    scan cursor (xs ++ ys) =
      let after := (xs.head?.map stop).getD cursor
      (xs.take 1 ++ (scan after ys).1, xs.drop 1 ++ (scan after ys).2) := by
  cases xs with
  | nil => rfl
  | cons x xs =>
      obtain ⟨hstart, hstop⟩ := h x (List.mem_cons_self ..)
      have hrest : ∀ y ∈ xs, y.start < x.stop := fun y hy => by
        rw [(h y (List.mem_cons_of_mem _ hy)).1]
        exact hstop
      rw [List.cons_append, scan, if_pos (by omega), scan_append_of_lt hrest]
      rfl

/-- Edits one behind the other are all accepted. -/
theorem scan_of_pairwise (hcursor : ∀ x ∈ xs, cursor ≤ x.start)
    (h : xs.Pairwise fun x y => x.stop ≤ y.start) : scan cursor xs = (xs, []) := by
  induction xs generalizing cursor with
  | nil => rfl
  | cons x xs ih =>
      obtain ⟨hbehind, hpairs⟩ := List.pairwise_cons.1 h
      rw [scan, if_pos (hcursor x (List.mem_cons_self ..)), ih hbehind hpairs]

/-- Moving the cursor up to the first edit changes no choice. -/
theorem scan_of_le (hle : c ≤ d) (h : ∀ x ∈ xs, d ≤ x.start) : scan c xs = scan d xs := by
  cases xs with
  | nil => rfl
  | cons x xs =>
      have hx := h x (List.mem_cons_self ..)
      rw [scan, scan, if_pos (by omega), if_pos hx]

end Fix

/-! ## The edits of a line -/

namespace Repairs

variable (r : Repairs)

/-- The removal of the white space at the end of a line that starts at offset `o`. -/
def trailingFixes (o : Nat) (piece : Text) : List Fix :=
  let content := Text.withoutEnd piece
  let kept := Rule.withoutTrailingSpace content
  if r.trailingSpace = true ∧ kept.length ≠ content.length then
    [⟨Rule.trailingSpace.id,
      ⟨⟨((o + kept.length : Nat) : Int), ((o + content.length : Nat) : Int)⟩, []⟩⟩]
  else []

/-- The replacement of the tabs in the indentation of a line that starts at offset `o`. -/
def tabFixes (o : Nat) (piece : Text) : List Fix :=
  let indent := Rule.indentOf (Text.withoutEnd piece)
  if r.tabIndent = true ∧ '\t' ∈ indent then
    [⟨Rule.tabIndent.id, ⟨⟨(o : Int), ((o + indent.length : Nat) : Int)⟩,
      Rule.spacesForTabs indent⟩⟩]
  else []

/-- The length of the blank lines that a list of lines starts with. -/
def runLength (ps : List Text) : Nat :=
  (ps.takeWhile Text.isBlankPiece).flatten.length

/-- The removal of the surplus that starts with a line, which `ps` follow. -/
def runFixes (o before : Nat) (piece : Text) (ps : List Text) : List Fix :=
  if r.blankRun = true ∧ piece.isBlankPiece = true ∧ before = r.blankLines then
    [⟨Rule.blankRun.id, ⟨⟨(o : Int), ((o + piece.length + runLength ps : Nat) : Int)⟩, []⟩⟩]
  else []

/-- The insertion of the line feed that a last line lacks. -/
def closingFixes (o : Nat) (piece : Text) : List Fix :=
  if r.finalNewline = true ∧ piece.getLast? ≠ some '\n' then
    [⟨Rule.finalNewline.id,
      ⟨⟨((o + piece.length : Nat) : Int), ((o + piece.length : Nat) : Int)⟩, ['\n']⟩⟩]
  else []

/-- Is nothing but white space at the end of a line, which the first rule removes? -/
def isWhite (piece : Text) : Bool :=
  (Rule.withoutTrailingSpace (Text.withoutEnd piece)).isEmpty

/-- The edits of the content that start with the line. -/
def ownLeading (o : Nat) (piece : Text) : List Fix :=
  (if isWhite piece then r.trailingFixes o piece else []) ++ r.tabFixes o piece

/-- The edits that start with the line. -/
def leading (o before : Nat) (piece : Text) (ps : List Text) : List Fix :=
  r.ownLeading o piece ++ r.runFixes o before piece ps

/-- The edits within the line that do not start with it. -/
def late (o : Nat) (piece : Text) : List Fix :=
  if isWhite piece then [] else r.trailingFixes o piece

/-- The edits that the repairs offer for the lines of a text from offset `o` on, where the run of
the first line starts `before` lines earlier. -/
def fixesFrom (o before : Nat) : List Text → List Fix
  | [] => []
  | p :: ps =>
      r.leading o before p ps ++ (r.late o p ++
        (r.closingFixes o p ++ fixesFrom (o + p.length) (advance before p) ps))

/-- The edits accepted. -/
def acceptedFrom (o before : Nat) (dropping : Bool) : List Text → List Fix
  | [] => []
  | p :: ps =>
      let dropped := r.drops before dropping p
      (if dropping && p.isBlankPiece then []
        else (r.leading o before p ps).take 1 ++ if dropped then [] else r.late o p) ++
        (r.closingFixes o p ++ acceptedFrom (o + p.length) (advance before p) dropped ps)

/-- The edits left. -/
def rejectedFrom (o before : Nat) (dropping : Bool) : List Text → List Fix
  | [] => []
  | p :: ps =>
      let dropped := r.drops before dropping p
      (if dropping && p.isBlankPiece then r.leading o before p ps ++ r.late o p
        else (r.leading o before p ps).drop 1 ++ if dropped then r.late o p else []) ++
        rejectedFrom (o + p.length) (advance before p) dropped ps

variable {r} {o before : Nat} {dropping : Bool} {piece : Text} {ps : List Text} {x : Fix}

/-! ## Where the edits of a line lie -/

theorem length_withoutTrailingSpace_le (content : Text) :
    (Rule.withoutTrailingSpace content).length ≤ content.length :=
  (Text.withoutTrailingSpace_isPrefix content).length_le

theorem bounds_of_mem_trailingFixes (h : x ∈ r.trailingFixes o piece) :
    x.start = o + (Rule.withoutTrailingSpace (Text.withoutEnd piece)).length ∧
      x.start < x.stop ∧ x.stop ≤ o + piece.length := by
  have hcontent := Text.length_withoutEnd_le piece
  have hkept := length_withoutTrailingSpace_le (Text.withoutEnd piece)
  simp only [trailingFixes] at h
  split at h
  · rename_i hon
    rw [List.mem_singleton.1 h]
    simp only [Fix.start, Fix.stop]
    omega
  · simp at h

theorem bounds_of_mem_tabFixes (h : x ∈ r.tabFixes o piece) :
    x.start = o ∧ x.stop = o + (Rule.indentOf (Text.withoutEnd piece)).length ∧
      x.start < x.stop ∧ x.stop ≤ o + piece.length := by
  have hcontent := Text.length_withoutEnd_le piece
  have hindent := (List.takeWhile_prefix Text.isSpaceOrTab (l := Text.withoutEnd piece)).length_le
  simp only [tabFixes] at h
  split at h
  · rename_i hon
    have hpos := List.length_pos_of_mem hon.2
    rw [List.mem_singleton.1 h]
    refine ⟨rfl, ?_, ?_, ?_⟩ <;> simp only [Fix.start, Fix.stop, Rule.indentOf] at * <;> omega
  · simp at h

theorem bounds_of_mem_runFixes (hne : piece ≠ []) (h : x ∈ r.runFixes o before piece ps) :
    x.start = o ∧ x.stop = o + piece.length + runLength ps ∧ x.start < x.stop := by
  have hpos := List.length_pos_of_ne_nil hne
  rw [runFixes] at h
  split at h
  · rw [List.mem_singleton.1 h]
    refine ⟨rfl, ?_, ?_⟩ <;> simp only [Fix.start, Fix.stop] <;> omega
  · simp at h

theorem bounds_of_mem_closingFixes (h : x ∈ r.closingFixes o piece) :
    x.start = o + piece.length ∧ x.stop = o + piece.length := by
  rw [closingFixes] at h
  split at h
  · rw [List.mem_singleton.1 h]
    simp only [Fix.start, Fix.stop]
    omega
  · simp at h

theorem rule_of_mem_trailingFixes (h : x ∈ r.trailingFixes o piece) :
    x.rule = Rule.trailingSpace.id := by
  simp only [trailingFixes] at h
  split at h
  · rw [List.mem_singleton.1 h]
  · simp at h

theorem rule_of_mem_tabFixes (h : x ∈ r.tabFixes o piece) : x.rule = Rule.tabIndent.id := by
  simp only [tabFixes] at h
  split at h
  · rw [List.mem_singleton.1 h]
  · simp at h

theorem rule_of_mem_runFixes (h : x ∈ r.runFixes o before piece ps) :
    x.rule = Rule.blankRun.id := by
  rw [runFixes] at h
  split at h
  · rw [List.mem_singleton.1 h]
  · simp at h

theorem rule_of_mem_closingFixes (h : x ∈ r.closingFixes o piece) :
    x.rule = Rule.finalNewline.id := by
  rw [closingFixes] at h
  split at h
  · rw [List.mem_singleton.1 h]
  · simp at h

theorem closingFixes_append_feed (body : Text) : r.closingFixes o (body ++ ['\n']) = [] :=
  if_neg (by simp)

theorem bounds_of_mem_ownLeading (h : x ∈ r.ownLeading o piece) :
    x.start = o ∧ x.start < x.stop ∧ x.stop ≤ o + piece.length := by
  rcases List.mem_append.1 h with h | h
  · split at h
    · rename_i hwhite
      obtain ⟨hstart, hstop, hle⟩ := bounds_of_mem_trailingFixes h
      rw [List.isEmpty_iff.1 hwhite] at hstart
      exact ⟨by simpa using hstart, hstop, hle⟩
    · simp at h
  · obtain ⟨hstart, -, hstop, hle⟩ := bounds_of_mem_tabFixes h
    exact ⟨hstart, hstop, hle⟩

theorem bounds_of_mem_leading (hne : piece ≠ []) (h : x ∈ r.leading o before piece ps) :
    x.start = o ∧ x.start < x.stop := by
  rcases List.mem_append.1 h with h | h
  · exact ⟨(bounds_of_mem_ownLeading h).1, (bounds_of_mem_ownLeading h).2.1⟩
  · exact ⟨(bounds_of_mem_runFixes hne h).1, (bounds_of_mem_runFixes hne h).2.2⟩

theorem bounds_of_mem_late (h : x ∈ r.late o piece) :
    o < x.start ∧ x.start < x.stop ∧ x.stop ≤ o + piece.length := by
  rw [late] at h
  split at h
  · simp at h
  · rename_i hwhite
    obtain ⟨hstart, hstop, hle⟩ := bounds_of_mem_trailingFixes h
    have hpos : (Rule.withoutTrailingSpace (Text.withoutEnd piece)).length ≠ 0 := by
      simpa [isWhite] using hwhite
    exact ⟨by omega, hstop, hle⟩

/-- Every edit of the lines from offset `o` on starts there or later. -/
theorem le_start_of_mem_fixesFrom (hps : ∀ p ∈ ps, p ≠ []) (h : x ∈ r.fixesFrom o before ps) :
    o ≤ x.start := by
  induction ps generalizing o before with
  | nil => simp [fixesFrom] at h
  | cons p ps ih =>
      simp only [fixesFrom, List.mem_append] at h
      rcases h with h | h | h | h
      · exact Int.le_of_eq (bounds_of_mem_leading (hps p (List.mem_cons_self ..)) h).1.symm
      · exact Int.le_of_lt (bounds_of_mem_late h).1
      · have := (bounds_of_mem_closingFixes h).1
        omega
      · have := ih (fun q hq => hps q (List.mem_cons_of_mem _ hq)) h
        omega

/-! ## The choice in one line -/

theorem runLength_cons (p : Text) (ps : List Text) :
    runLength (p :: ps) = if p.isBlankPiece then p.length + runLength ps else 0 := by
  rw [runLength, List.takeWhile_cons]
  split <;> simp [runLength]

/-- A line is blocked when an edit of its own starts with it. -/
theorem ownLeading_eq_nil_iff : r.ownLeading o piece = [] ↔ r.blocks piece = false := by
  rw [ownLeading, List.append_eq_nil_iff, blocks, Bool.or_eq_false_iff]
  refine and_congr ?_ ?_
  · by_cases hwhite : (Rule.withoutTrailingSpace (Text.withoutEnd piece)).isEmpty
    · have hnil := List.isEmpty_iff.1 hwhite
      have hlen : 0 = (Text.withoutEnd piece).length ↔ Text.withoutEnd piece = [] :=
        eq_comm.trans List.length_eq_zero_iff
      cases hon : r.trailingSpace <;> simp [isWhite, trailingFixes, hnil, hon, hlen]
    · simp [isWhite, hwhite]
  · cases hon : r.tabIndent <;> simp [tabFixes, hon]

/-- The surplus of a run starts with a line whose own edits do not start with it. -/
theorem drops_of_outside (r : Repairs) (before o : Nat)
    (hout : (dropping && piece.isBlankPiece) = false) :
    r.drops before dropping piece = true ↔ (r.blankRun = true ∧ piece.isBlankPiece = true ∧
      before = r.blankLines) ∧ r.ownLeading o piece = [] := by
  rw [ownLeading_eq_nil_iff, drops]
  cases hblank : piece.isBlankPiece with
  | false => simp
  | true =>
      rw [hblank, Bool.and_true] at hout
      by_cases hfirst : before = r.blankLines <;> simp [hfirst, hout]

/-- An edit that starts with a line stops before the later edits of the line start. -/
theorem stop_le_start_of_late {y : Fix} (hx : x ∈ r.ownLeading o piece) (hy : y ∈ r.late o piece) :
    x.stop ≤ y.start := by
  rw [late] at hy
  split at hy
  · simp at hy
  · rename_i hwhite
    rw [ownLeading, if_neg hwhite, List.nil_append] at hx
    have hindent : Rule.indentOf (Rule.withoutTrailingSpace (Text.withoutEnd piece)) =
        Rule.indentOf (Text.withoutEnd piece) :=
      Text.indentOf_withoutTrailingSpace (by simpa [isWhite] using hwhite)
    have hlen := (List.takeWhile_prefix Text.isSpaceOrTab
      (l := Rule.withoutTrailingSpace (Text.withoutEnd piece))).length_le
    rw [← Rule.indentOf, hindent] at hlen
    obtain ⟨-, hstop, -, -⟩ := bounds_of_mem_tabFixes hx
    obtain ⟨hstart, -, -⟩ := bounds_of_mem_trailingFixes hy
    omega

theorem late_eq_nil_or_singleton (o : Nat) (piece : Text) :
    r.late o piece = [] ∨ ∃ y, r.late o piece = [y] := by
  rw [late]
  split
  · exact .inl rfl
  · rw [trailingFixes]
    split
    · exact .inr ⟨_, rfl⟩
    · exact .inl rfl

/-- Where the walk stands once it has passed a line. -/
def cursorAfter (o : Nat) (dropped : Bool) (piece : Text) (ps : List Text) : Nat :=
  o + piece.length + if dropped then runLength ps else 0

/-- Where the surplus does not start with a line, the first edit there is one of its own. -/
theorem take_one_leading (h : r.drops before dropping piece = false)
    (hout : (dropping && piece.isBlankPiece) = false) :
    (r.leading o before piece ps).take 1 = (r.ownLeading o piece).take 1 := by
  rw [leading]
  cases hown : r.ownLeading o piece with
  | cons x xs => simp
  | nil =>
      have hrun : r.runFixes o before piece ps = [] := if_neg fun hrun => by
        rw [(r.drops_of_outside before o hout).2 ⟨hrun, hown⟩] at h
        exact Bool.noConfusion h
      rw [hrun]
      rfl

/-- Where the surplus starts, its removal wins over the later edits of the line. -/
theorem scan_outside_of_drops (hne : piece ≠ []) (hout : (dropping && piece.isBlankPiece) = false)
    (hdropped : r.drops before dropping piece = true) {cursor : Int} (hcursor : cursor ≤ o)
    (ys : List Fix) :
    let after := Fix.scan (cursorAfter o true piece ps) ys
    Fix.scan cursor (r.leading o before piece ps ++ (r.late o piece ++ ys)) =
      ((r.leading o before piece ps).take 1 ++ after.1,
        (r.leading o before piece ps).drop 1 ++ (r.late o piece ++ after.2)) := by
  intro after
  obtain ⟨hrun, hown⟩ := (r.drops_of_outside before o hout).1 hdropped
  have hlate : ∀ y ∈ r.late o piece, y.start < ((cursorAfter o true piece ps : Nat) : Int) := by
    intro y hy
    have := bounds_of_mem_late hy
    simp only [cursorAfter, if_true]
    omega
  have hafter : ((r.leading o before piece ps).head?.map Fix.stop).getD cursor =
      ((cursorAfter o true piece ps : Nat) : Int) := by
    rw [leading, hown, List.nil_append, runFixes, if_pos hrun]
    rfl
  rw [Fix.scan_append_of_eq hcursor fun x hx => by
    obtain ⟨hstart, hstop⟩ := bounds_of_mem_leading hne hx
    exact ⟨hstart, by omega⟩]
  simp only [hafter, Fix.scan_append_of_lt hlate, after]

/-- Elsewhere the first edit at the start of the line leaves room for the later ones. -/
theorem scan_outside_of_keeps (hne : piece ≠ []) (hout : (dropping && piece.isBlankPiece) = false)
    (hdropped : r.drops before dropping piece = false) {cursor : Int} (hcursor : cursor ≤ o)
    {ys : List Fix} (hys : ∀ y ∈ ys, (o + piece.length : Int) ≤ y.start) :
    let after := Fix.scan (cursorAfter o false piece ps) ys
    Fix.scan cursor (r.leading o before piece ps ++ (r.late o piece ++ ys)) =
      ((r.leading o before piece ps).take 1 ++ (r.late o piece ++ after.1),
        (r.leading o before piece ps).drop 1 ++ after.2) := by
  intro after
  have hfirst : ∀ x, (r.leading o before piece ps).head? = some x → x ∈ r.ownLeading o piece := by
    intro x hx
    have hmem : x ∈ (r.ownLeading o piece).take 1 := by
      rw [← take_one_leading hdropped hout, List.take_one, hx]
      simp
    exact List.mem_of_mem_take hmem
  have hroom : ((r.leading o before piece ps).head?.map Fix.stop).getD cursor ≤
      (o + piece.length : Int) ∧ ∀ y ∈ r.late o piece,
        ((r.leading o before piece ps).head?.map Fix.stop).getD cursor ≤ y.start := by
    cases hhead : (r.leading o before piece ps).head? with
    | none =>
        refine ⟨by simp only [Option.map_none, Option.getD_none]; omega, fun y hy => ?_⟩
        have := bounds_of_mem_late hy
        simp only [Option.map_none, Option.getD_none]
        omega
    | some x =>
        have hx := hfirst x hhead
        exact ⟨(bounds_of_mem_ownLeading hx).2.2, fun y hy => stop_le_start_of_late hx hy⟩
  rw [Fix.scan_append_of_eq hcursor fun x hx => by
    obtain ⟨hstart, hstop⟩ := bounds_of_mem_leading hne hx
    exact ⟨hstart, by omega⟩]
  generalize ((r.leading o before piece ps).head?.map Fix.stop).getD cursor = first at hroom
  have hmove : ∀ c : Int, c ≤ o + piece.length → Fix.scan c ys = after := by
    intro c hc
    have hnext : ((cursorAfter o false piece ps : Nat) : Int) = o + piece.length := by
      simp [cursorAfter]
    simp only [after, hnext]
    exact Fix.scan_of_le hc hys
  rcases late_eq_nil_or_singleton (r := r) o piece with hlate | ⟨y, hlate⟩
  · simp [hlate, hmove _ hroom.1]
  · have hy : y ∈ r.late o piece := by simp [hlate]
    simp [hlate, Fix.scan, hroom.2 y hy, hmove _ (bounds_of_mem_late hy).2.2]

/-- The choice in a line outside a surplus. -/
theorem scan_outside (hne : piece ≠ []) (hout : (dropping && piece.isBlankPiece) = false)
    {cursor : Int} (hcursor : cursor ≤ o) {ys : List Fix}
    (hys : ∀ y ∈ ys, (o + piece.length : Int) ≤ y.start) :
    let dropped := r.drops before dropping piece
    let after := Fix.scan (cursorAfter o dropped piece ps) ys
    Fix.scan cursor (r.leading o before piece ps ++ (r.late o piece ++ ys)) =
      (((r.leading o before piece ps).take 1 ++ if dropped then [] else r.late o piece) ++ after.1,
        ((r.leading o before piece ps).drop 1 ++ if dropped then r.late o piece else []) ++
          after.2) := by
  intro dropped after
  cases hdropped : dropped with
  | true =>
      simp only [after, hdropped, scan_outside_of_drops hne hout hdropped hcursor ys, if_true,
        List.append_nil, List.append_assoc]
  | false =>
      simp only [after, hdropped, scan_outside_of_keeps hne hout hdropped hcursor hys,
        Bool.false_eq_true, if_false, List.append_nil, List.append_assoc]

/-- The choice in a line of a surplus that is removed: all its edits are left. -/
theorem scan_inside (hne : piece ≠ []) (ys : List Fix) :
    let after := Fix.scan (cursorAfter o true piece ps) ys
    Fix.scan (cursorAfter o true piece ps)
        (r.leading o before piece ps ++ (r.late o piece ++ ys)) =
      (after.1, (r.leading o before piece ps ++ r.late o piece) ++ after.2) := by
  have hpos := List.length_pos_of_ne_nil hne
  have hleading : ∀ x ∈ r.leading o before piece ps,
      x.start < (cursorAfter o true piece ps : Nat) := by
    intro x hx
    have := (bounds_of_mem_leading hne hx).1
    simp only [cursorAfter, if_true]
    omega
  have hlate : ∀ x ∈ r.late o piece, x.start < (cursorAfter o true piece ps : Nat) := by
    intro x hx
    have := bounds_of_mem_late hx
    simp only [cursorAfter, if_true]
    omega
  simp only [Fix.scan_append_of_lt hleading, Fix.scan_append_of_lt hlate, List.append_assoc]

/-! ## The choice in a text -/

variable (r) in
/-- A surplus is only removed after as many blank lines as may follow each other. -/
def Reached (before : Nat) (dropping : Bool) : Prop :=
  dropping = true → r.blankRun = true ∧ r.blankLines < before

/-- The cursor stands behind the surplus that is removed, or not behind the line that is next. -/
def CursorAt (cursor : Int) (o : Nat) (dropping : Bool) (ps : List Text) : Prop :=
  if dropping then cursor = (o + runLength ps : Nat) else cursor ≤ o

theorem Reached.drops (h : r.Reached before dropping)
    (hin : (dropping && piece.isBlankPiece) = true) : r.drops before dropping piece = true := by
  rw [Bool.and_eq_true] at hin
  obtain ⟨hon, hlt⟩ := h hin.1
  rw [Repairs.drops, hon, hin.2, if_neg (by omega), hin.1]
  rfl

theorem Reached.advance (h : r.Reached before dropping) (piece : Text) :
    r.Reached (advance before piece) (r.drops before dropping piece) := by
  intro hdrops
  simp only [Repairs.drops, Bool.and_eq_true] at hdrops
  obtain ⟨⟨hon, hblank⟩, hfirst⟩ := hdrops
  refine ⟨hon, ?_⟩
  rw [Repairs.advance, if_pos hblank]
  split at hfirst
  · omega
  · have := (h hfirst).2
    omega

theorem cursorAt_cursorAfter (o : Nat) (dropped : Bool) (piece : Text) (ps : List Text) :
    CursorAt (cursorAfter o dropped piece ps : Nat) (o + piece.length) dropped ps := by
  cases dropped <;> simp [CursorAt, cursorAfter]

/-- The choice in one line. -/
theorem scan_line (hne : piece ≠ []) (hreached : r.Reached before dropping) {cursor : Int}
    (hcursor : CursorAt cursor o dropping (piece :: ps)) {ys : List Fix}
    (hys : ∀ y ∈ ys, (o + piece.length : Int) ≤ y.start) :
    let dropped := r.drops before dropping piece
    let after := Fix.scan (cursorAfter o dropped piece ps) ys
    Fix.scan cursor (r.leading o before piece ps ++ (r.late o piece ++ ys)) =
      ((if dropping && piece.isBlankPiece then []
          else (r.leading o before piece ps).take 1 ++ if dropped then [] else r.late o piece) ++
            after.1,
        (if dropping && piece.isBlankPiece then r.leading o before piece ps ++ r.late o piece
          else (r.leading o before piece ps).drop 1 ++ if dropped then r.late o piece else []) ++
            after.2) := by
  intro dropped after
  by_cases hin : (dropping && piece.isBlankPiece) = true
  · have hdropped : dropped = true := hreached.drops hin
    have hat : cursor = (cursorAfter o true piece ps : Nat) := by
      rw [Bool.and_eq_true] at hin
      rw [CursorAt, if_pos hin.1, runLength_cons, if_pos hin.2] at hcursor
      rw [hcursor, cursorAfter, if_pos rfl, Nat.add_assoc]
    rw [hat, scan_inside hne]
    simp only [if_pos hin, after, hdropped, List.nil_append]
  · rw [if_neg hin, if_neg hin]
    rw [Bool.not_eq_true] at hin
    refine scan_outside hne hin ?_ hys
    cases dropping with
    | false => exact hcursor
    | true =>
        rw [Bool.true_and] at hin
        rw [CursorAt, if_pos rfl, runLength_cons, hin] at hcursor
        simpa using Int.le_of_eq hcursor

/-- **The choice among the edits of a text.**  The edits accepted and the edits left, line by
line. -/
theorem scan_fixesFrom (h : Text.IsCut ps) (hreached : r.Reached before dropping) {cursor : Int}
    (hcursor : CursorAt cursor o dropping ps) :
    Fix.scan cursor (r.fixesFrom o before ps) =
      (r.acceptedFrom o before dropping ps, r.rejectedFrom o before dropping ps) := by
  induction h generalizing o before dropping cursor with
  | nil => rfl
  | @last tail hne _ =>
      have hys : ∀ y ∈ r.closingFixes o tail ++ [], (o + tail.length : Int) ≤ y.start := by
        intro y hy
        rw [List.append_nil] at hy
        exact Int.le_of_eq (bounds_of_mem_closingFixes hy).1.symm
      have hclosing : ∀ dropped, Fix.scan (cursorAfter o dropped tail [] : Nat)
          (r.closingFixes o tail ++ []) = (r.closingFixes o tail, []) := by
        intro dropped
        rw [closingFixes]
        split
        · cases dropped <;> simp [Fix.scan, Fix.start, cursorAfter, runLength]
        · rfl
      simp only [fixesFrom, acceptedFrom, rejectedFrom]
      rw [scan_line hne hreached hcursor hys, hclosing, List.append_nil, List.append_nil]
  | @line body ps _ hrest ih =>
      have hne : body ++ ['\n'] ≠ [] := by simp
      have hys : ∀ y ∈ r.fixesFrom (o + (body ++ ['\n']).length)
          (advance before (body ++ ['\n'])) ps, (o + (body ++ ['\n']).length : Int) ≤ y.start := by
        intro y hy
        exact_mod_cast le_start_of_mem_fixesFrom (fun p hp => hrest.ne_nil hp) hy
      simp only [fixesFrom, acceptedFrom, rejectedFrom, closingFixes_append_feed, List.nil_append]
      rw [scan_line hne hreached hcursor hys,
        ih (hreached.advance _) (cursorAt_cursorAfter _ _ _ _)]

end Repairs

end SolidityLint
