import SolidityLint.Proofs.Text.Lines
import SolidityLint.Proofs.Text.Position

/-!
# Offsets, positions and lines

An offset is found again from its position: a line starts behind the line feed that ends the line
before it (`afterFeed?`), and the column counts from there (`offsetAt?`).  The lines into which a
text is cut agree with the positions of its offsets, although both are found by counting line feeds
in different ways (`position_of_mem_lines`).

* `offsetAt?_position`: the offset of the position of an offset is that offset.
* `positions_faithful`: positions are in the order of the offsets, give them back, and name the
  lines and the places in them.
-/

namespace SolidityLint.Text

variable {source front : Text} {l : Line}

/-! ## From positions to offsets -/

/-- The offset just behind the line feed of a given number, if a text has so many; the number 0
stands for the start of the text. -/
def afterFeed? : Text → Nat → Option Nat
  | _, 0 => some 0
  | [], _ + 1 => none
  | c :: cs, n + 1 => (afterFeed? cs (if c = '\n' then n else n + 1)).map (· + 1)

/-- The offset that a line and a column name: as far behind the line feed before the line as the
column says. -/
def offsetAt? (source : Text) (position : Nat × Nat) : Option Nat :=
  (source.afterFeed? (position.1 - 1)).map (· + (position.2 - 1))

theorem afterFeed?_zero (s : Text) : afterFeed? s 0 = some 0 := by
  cases s <;> rfl

/-- As many line feeds as there are up to one of them lead just behind it. -/
theorem afterFeed?_append_feed (body s : Text) :
    afterFeed? (body ++ '\n' :: s) (body.count '\n' + 1) = some (body.length + 1) := by
  induction body with
  | nil => simp [afterFeed?, afterFeed?_zero]
  | cons c cs ih =>
      by_cases hc : c = '\n'
      · simp [hc, afterFeed?, ih]
      · simp [hc, afterFeed?, ih]

theorem positionAfter_append_feed (body : Text) :
    positionAfter (body ++ ['\n']) = (body.count '\n' + 2, 1) := by
  simp [positionAfter]

/-- A text without line feeds, or what is left behind its last line feed. -/
theorem eq_append_feed_append (s : Text) :
    '\n' ∉ s ∨ ∃ body tail, s = body ++ '\n' :: tail ∧ '\n' ∉ tail := by
  by_cases h : '\n' ∈ s
  · -- the last line feed is the first one from the end
    obtain ⟨back, rest, hs, hback⟩ := List.eq_append_cons_of_mem (List.mem_reverse.2 h)
    refine .inr ⟨rest.reverse, back.reverse, ?_, by simpa using hback⟩
    rw [← List.reverse_reverse s, hs]
    simp
  · exact .inl h

/-- Where a text goes on is found again from the position there. -/
theorem offsetAt?_positionAfter (before s : Text) :
    offsetAt? (before ++ s) (positionAfter before) = some before.length := by
  rcases eq_append_feed_append before with h | ⟨body, tail, rfl, h⟩
  · have hposition : positionAfter before = (1, before.length + 1) := by
      have happend : positionAfter ([] ++ before) = (1, 1 + before.length) :=
        positionAfter_append h
      rw [List.nil_append] at happend
      rw [happend, Nat.add_comm]
    rw [hposition, offsetAt?, Nat.sub_self, afterFeed?_zero]
    simp
  · have hposition : positionAfter (body ++ '\n' :: tail) =
        (body.count '\n' + 2, 1 + tail.length) := by
      have happend : positionAfter (body ++ ['\n'] ++ tail) = _ := positionAfter_append h
      rwa [positionAfter_append_feed, List.append_assoc, List.singleton_append] at happend
    have hfeed := afterFeed?_append_feed body (tail ++ s)
    have hline : body.count '\n' + 2 - 1 = body.count '\n' + 1 := rfl
    simp only [hposition, offsetAt?, List.append_assoc, List.cons_append, hline, hfeed,
      Option.map_some, List.length_append, List.length_cons, Option.some.injEq]
    omega

theorem offsetAt?_position {o : Nat} (h : o ≤ source.length) :
    source.offsetAt? (source.position o) = some o := by
  have hoffset := offsetAt?_positionAfter (source.take o) (source.drop o)
  rwa [List.take_append_drop, List.length_take, Nat.min_eq_left h] at hoffset

/-! ## From lines to positions -/

theorem notMem_withoutEnd {ps : List Text} (h : IsCut ps) {p : Text} (hp : p ∈ ps) :
    '\n' ∉ withoutEnd p := by
  have hbody {body : Text} (hfeed : '\n' ∉ body) : '\n' ∉ dropLastIf '\r' body :=
    fun hmem => hfeed ((dropLastIf_isPrefix _ _).mem hmem)
  induction h with
  | nil => cases hp
  | last _ hfeed =>
      rw [List.mem_singleton.1 hp, withoutEnd_of_notMem hfeed]
      exact hbody hfeed
  | line hfeed _ ih =>
      rcases List.mem_cons.1 hp with rfl | hp
      · rw [withoutEnd_append_feed]
        exact hbody hfeed
      · exact ih hp

/-- At the start of a line the position is known, and no line feed comes before its end. -/
theorem position_append {n : Nat} (hfront : positionAfter front = (n, 1)) {piece : Text}
    (hfeed : '\n' ∉ withoutEnd piece) (s : Text) {o : Nat} (hstart : front.length ≤ o)
    (hstop : o ≤ front.length + (withoutEnd piece).length) :
    position (front ++ (piece ++ s)) o = (n, o - front.length + 1) := by
  have hread : (front ++ (piece ++ s)).take o =
      front ++ (withoutEnd piece).take (o - front.length) := by
    rw [← withoutEnd_append_lineEnd piece, List.append_assoc, List.take_append,
      List.take_of_length_le hstart, List.take_append_of_le_length (by omega),
      withoutEnd_append_lineEnd]
  have hmore : '\n' ∉ (withoutEnd piece).take (o - front.length) :=
    fun hmem => hfeed (List.mem_of_mem_take hmem)
  rw [position, Int.toNat_natCast, hread, positionAfter_append hmore, hfront, List.length_take,
    Nat.min_eq_left (by omega), Nat.add_comm]

theorem position_of_mem_placeLines {n : Nat} {ps : List Text} (hcut : IsCut ps)
    (hfront : positionAfter front = (n, 1)) (hl : l ∈ placeLines n front.length ps) {o : Nat}
    (hstart : l.start ≤ o) (hstop : o ≤ l.stop) :
    position (front ++ ps.flatten) o = (l.number, o - l.start + 1) := by
  induction hcut generalizing n front with
  | nil => cases hl
  | last hne hfeed =>
      obtain rfl := List.mem_singleton.1 hl
      exact position_append hfront
        (notMem_withoutEnd (.last hne hfeed) (List.mem_singleton_self _)) [] hstart hstop
  | @line body ps hfeed hrest ih =>
      have hpiece := notMem_withoutEnd (.line hfeed hrest) (List.mem_cons_self ..)
      rcases List.mem_cons.1 hl with rfl | hl
      · exact position_append hfront hpiece _ hstart hstop
      · -- the next line starts behind the line feed
        have hnext : positionAfter (front ++ (body ++ ['\n'])) = (n + 1, 1) := by
          have hcount := congrArg Prod.fst hfront
          rw [← List.append_assoc, positionAfter_append_feed, List.count_append,
            List.count_eq_zero.2 hfeed]
          simp only [positionAfter] at hcount
          simp only [Prod.mk.injEq, and_true]
          omega
        rw [← List.length_append] at hl
        rw [List.flatten_cons, ← List.append_assoc]
        exact ih hnext hl

/-- **The offsets of a line stand on it.**  Within the content of a line and at its end the position
is the number of the line and the place in it. -/
theorem position_of_mem_lines (hl : l ∈ source.lines) {o : Nat} (hstart : l.start ≤ o)
    (hstop : o ≤ l.stop) : source.position o = (l.number, o - l.start + 1) := by
  by_cases hne : source = []
  · subst hne
    obtain rfl := List.mem_singleton.1 hl
    rw [Nat.le_zero.1 hstop]
    rfl
  · rw [lines_of_ne_nil hne] at hl
    have hposition : position ([] ++ (cutLines source).flatten) o = _ :=
      position_of_mem_placeLines (isCut_cutLines source) rfl hl hstart hstop
    rwa [List.nil_append, flatten_cutLines] at hposition

/-! ## Positions, offsets and lines -/

/-- **Positions are faithful.**  Within a text they are in the order of the offsets, and beyond its
ends they stay the same; every offset is found again from its position; and they name the lines of
the text and the places in them. -/
theorem positions_faithful (source : Text) :
    (∀ a b : Int, 0 ≤ a → a < b → b ≤ source.length →
      StandsBefore (source.position a) (source.position b)) ∧
    (∀ a : Int, a ≤ 0 → source.position a = source.position 0) ∧
    (∀ b : Int, source.length ≤ b → source.position b = source.position source.length) ∧
    (∀ o : Nat, o ≤ source.length → source.offsetAt? (source.position o) = some o) ∧
    ∀ l ∈ source.lines, ∀ o : Nat, l.start ≤ o → o ≤ l.stop →
      source.position o = (l.number, o - l.start + 1) := by
  refine ⟨fun a b ha hab hb => source.position_lt ?_, fun a ha => ?_, fun b hb => ?_,
    fun o => offsetAt?_position, fun l hl o => position_of_mem_lines hl⟩
  · simp only [clamp]
    omega
  · have hstart : source.clamp a = 0 := by
      simp only [clamp]
      omega
    rw [position_clamp, hstart]
    rfl
  · have hend : source.clamp b = source.length := by
      simp only [clamp]
      omega
    rw [position_clamp, hend]

/-- A text with both line ends, a hidden carriage return and a last line without an end. -/
def mixedEnds : Text :=
  "ab\r\n\rc\n\nd\r".toList

/-- The second line of that text holds a carriage return, and the last one ends in one. -/
theorem positions_of_mixedEnds :
    StandsBefore (mixedEnds.position 2) (mixedEnds.position 4) ∧
      mixedEnds.position (-3) = mixedEnds.position 0 ∧
      mixedEnds.position 12 = mixedEnds.position 10 ∧
      mixedEnds.offsetAt? (mixedEnds.position 9) = some 9 ∧
      mixedEnds.position 5 = (2, 2) ∧ mixedEnds.position 9 = (4, 2) := by
  obtain ⟨horder, hbefore, hbehind, hoffset, hline⟩ := positions_faithful mixedEnds
  exact ⟨horder 2 4 (by decide) (by decide) (by decide), hbefore (-3) (by decide),
    hbehind 12 (by decide), hoffset 9 (by decide),
    hline ⟨2, 4, "\rc".toList, 7⟩ (by decide) 5 (by decide) (by decide),
    hline ⟨4, 8, "d".toList, 10⟩ (by decide) 9 (by decide) (by decide)⟩

end SolidityLint.Text
