import SolidityLint.Console.Wrap

/-!
# Marked texts

A text is marked with spans, each of which says how a stretch of the text is to look.  As the text
is wrapped its spans are divided with it, so a line keeps the spans that cover some of its
characters, and the words stand on the same lines as without spans (`text_lines`).  A line is shown
stretch by stretch, as its spans start and stop, and ends where the cells of the console do.
-/

namespace SolidityLint.Console

/-! ## Spans -/

/-- A stretch of a text that is to look in its own way. -/
structure Span where
  /-- The number of characters before it. -/
  start : Nat
  /-- The number of characters up to its end. -/
  stop : Nat
  /-- The words that define how it looks. -/
  style : Text
  deriving DecidableEq, Repr

namespace Span

/-- The part of a span that covers some of the characters from one place up to another one, counted
from the first place. -/
def clip? (first last : Nat) (s : Span) : Option Span :=
  if max s.start first < min s.stop last then
    some { s with start := max s.start first - first, stop := min s.stop last - first }
  else none

/-- A span behind a number of characters. -/
def shift (count : Nat) (s : Span) : Span :=
  { s with start := count + s.start, stop := count + s.stop }

end Span

/-! ## Marked texts -/

/-- A text with its spans. -/
structure MarkedText where
  /-- The characters. -/
  text : Text
  /-- What is known about how they are to look. -/
  spans : List Span := []
  deriving DecidableEq, Repr

namespace MarkedText

/-- Pieces of a text with the parts of its spans that cover some of their characters.  The first
piece lies behind `start` characters, and `gap` characters lie between two pieces. -/
def piecesFrom (spans : List Span) (gap start : Nat) : List Text → List MarkedText
  | [] => []
  | p :: ps =>
      ⟨p, spans.filterMap (Span.clip? start (start + p.length))⟩ ::
        piecesFrom spans gap (start + p.length + gap) ps

/-- A text in pieces with `gap` characters between them.  If there is only one piece it keeps all
spans, also those that cover nothing. -/
def divide (gap : Nat) (pieces : List Text) (m : MarkedText) : List MarkedText :=
  match pieces with
  | [p] => [⟨p, m.spans⟩]
  | ps => piecesFrom m.spans gap 0 ps

/-- The lines of a text. -/
def splitLines (m : MarkedText) : List MarkedText :=
  m.divide 1 (Text.splitOn '\n' m.text)

/-- A text in place of the one that is marked.  The spans do not go beyond its end. -/
def withText (t : Text) (m : MarkedText) : MarkedText :=
  if t.length < m.text.length then
    ⟨t, (m.spans.filter fun s => decide (s.start < t.length)).map fun s =>
      { s with stop := min s.stop t.length }⟩
  else ⟨t, m.spans⟩

/-! ## Tabs -/

/-- The spans of a line whose pieces up to its tabs, given without the tabs and with spaces for
them, lie behind `source` characters and are put behind `target` characters.  A span that covers a
tab covers the spaces for it. -/
def tabSpans (spans : List Span) (source target : Nat) : List (Text × Text) → List Span
  | [] => []
  | (piece, filled) :: ps =>
      let width := piece.length + 1
      ((spans.filterMap (Span.clip? source (source + width))).map fun s =>
          Span.shift target { s with stop := if s.stop = width then filled.length else s.stop }) ++
        tabSpans spans (source + width) (target + filled.length) ps

/-- Turns every tab of a line into spaces. -/
def expandLineTabs (m : MarkedText) : MarkedText :=
  ⟨m.text.expandLineTabs,
    match Text.splitOn '\t' m.text with
    | [_] => m.spans
    | pieces => tabSpans m.spans 0 0 (pieces.zip m.text.tabPieces)⟩

/-! ## Wrapping -/

/-- The lines of a text on a console of a width. -/
def lines (overflow : Overflow) (width : Nat) (m : MarkedText) : List MarkedText :=
  m.splitLines.flatMap fun line =>
    let line := line.expandLineTabs
    (line.divide 0 (Wrap.breakLine overflow width line.text)).map fun piece =>
      let piece := piece.withText (Wrap.dropExcess width piece.text)
      piece.withText (Wrap.cut overflow width piece.text)

/-! ## Stretches -/

/-- Does a span start or stop behind a number of characters? -/
def isBound (m : MarkedText) (count : Nat) : Bool :=
  m.spans.any fun s => s.start == count || s.stop == count

/-- The stretches of a text between the places where spans start or stop. -/
def stretches (m : MarkedText) : List Text :=
  (m.text.zipIdx.splitBy fun _ next => !m.isBound next.2).map (·.map (·.1))

/-- Do stretches take no more than a number of cells? -/
def fit (width : Nat) : List Text → Bool
  | [] => true
  | t :: ts => decide (t.cells ≤ width) && fit (width - t.cells) ts

/-- Stretches up to a number of cells.  The stretch that reaches it is the last one and is
cropped. -/
def cropStretches (width : Nat) : List Text → Text
  | [] => []
  | t :: ts => if t.cells < width then t ++ cropStretches (width - t.cells) ts else t.crop width

/-- What a line shows on a console of a width. -/
def shown (width : Nat) (m : MarkedText) : Text :=
  if fit width m.stretches then m.text else cropStretches width m.stretches

/-! ## Spans leave the characters as they are -/

@[simp]
theorem text_piecesFrom (spans : List Span) (gap start : Nat) (pieces : List Text) :
    (piecesFrom spans gap start pieces).map text = pieces := by
  induction pieces generalizing start with
  | nil => rfl
  | cons p ps ih => simp [piecesFrom, ih]

@[simp]
theorem text_divide (gap : Nat) (pieces : List Text) (m : MarkedText) :
    (m.divide gap pieces).map text = pieces := by
  unfold divide
  split <;> simp

@[simp]
theorem text_withText (t : Text) (m : MarkedText) : (m.withText t).text = t := by
  unfold withText
  split <;> rfl

theorem map_divide {β : Type} (f : Text → β) (gap : Nat) (pieces : List Text) (m : MarkedText) :
    (m.divide gap pieces).map (fun piece => f piece.text) = pieces.map f := by
  have := congrArg (List.map f) (text_divide gap pieces m)
  rwa [List.map_map] at this

/-- The words stand on the same lines as without spans. -/
theorem text_lines (overflow : Overflow) (width : Nat) (m : MarkedText) :
    (m.lines overflow width).map text =
      (Wrap.lines overflow width m.text).map (Wrap.cut overflow width) := by
  have hline (line : MarkedText) :
      ((line.divide 0 (Wrap.breakLine overflow width line.text)).map fun piece =>
          Wrap.cut overflow width (Wrap.dropExcess width piece.text)) =
        (Wrap.breakLine overflow width line.text).map fun piece =>
          Wrap.cut overflow width (Wrap.dropExcess width piece) :=
    map_divide (fun t => Wrap.cut overflow width (Wrap.dropExcess width t)) 0 _ _
  have hlines : m.splitLines.map text = Text.splitOn '\n' m.text := text_divide 1 _ m
  simp only [lines, Wrap.lines, List.map_flatMap, List.map_map, Function.comp_def, text_withText,
    hline]
  rw [← hlines, List.flatMap_map]
  rfl

end MarkedText

end SolidityLint.Console
