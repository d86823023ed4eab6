import SolidityLint.Console.Wrap
import SolidityLint.Present.Grid
import SolidityLint.Text.Break

/-!
# Grids in boxes

A console draws a grid in a box of lines, heavy ones around the headings.  Each column is as wide
as its widest cell, with one blank on both sides; the title and the caption are centred.  If the
columns take more cells than a line has, the widest ones are made narrower, and the texts in them
are wrapped.
-/

namespace SolidityLint.Console

/-- The characters of a horizontal line of a box. -/
structure BoxLine where
  /-- At its left end. -/
  left : Char
  /-- Between the columns. -/
  fill : Char
  /-- Where two columns meet. -/
  between : Char
  /-- At its right end. -/
  right : Char
  deriving DecidableEq, Repr

namespace Box

/-- The line above the headings. -/
def top : BoxLine := ⟨'┏', '━', '┳', '┓'⟩

/-- The line below the headings. -/
def belowHeadings : BoxLine := ⟨'┡', '━', '╇', '┩'⟩

/-- The line below the rows. -/
def bottom : BoxLine := ⟨'└', '─', '┴', '┘'⟩

/-- A horizontal line over columns of given widths. -/
def horizontal (l : BoxLine) (widths : List Nat) : Text :=
  l.left :: Text.join [l.between] (widths.map fun w => List.replicate (w + 2) l.fill) ++ [l.right]

/-! ## Cells -/

/-- A line of a cell that is as wide as its column. -/
def cellLine (isRight : Bool) (width : Nat) (s : Text) : Text :=
  let shown : Text :=
    if isRight then
      let cut := Wrap.cut .ellipsis width (s.trimEnd Text.isBlank)
      List.replicate (width - cut.cells) ' ' ++ cut
    else (Wrap.cut .ellipsis width s).padCells width
  shown.padCells width

/-- The lines of a cell. -/
def cellLines (isRight : Bool) (width : Nat) (s : Text) : List Text :=
  (Wrap.lines .ellipsis width s).map (cellLine isRight width)

/-- The lines of a cell with blank ones below them, or above them, up to a number of lines. -/
def stretch (atBottom : Bool) (height width : Nat) (ls : List Text) : List Text :=
  let blanks := List.replicate (height - ls.length) (List.replicate width ' ')
  if atBottom then blanks ++ ls else ls ++ blanks

/-- One line of a row: a piece of each cell with a blank on both sides, and vertical lines around
the pieces and between them. -/
def rowLine (bar : Char) (pieces : List Text) : Text :=
  bar :: Text.join [bar] (pieces.map fun s => ' ' :: s ++ [' ']) ++ [bar]

/-- The lines of a row of cells, which stand at the bottom or at the top of the row. -/
def row (bar : Char) (atBottom : Bool) (columns : List Column) (widths : List Nat)
    (cells : List Text) : List Text :=
  let blocks := (columns.zip (widths.zip cells)).map fun (c, w, s) => (w, cellLines c.isRight w s)
  let height := (blocks.map fun b => b.2.length).foldl max 0
  let stretched := blocks.map fun (w, ls) => stretch atBottom height w ls
  (List.range height).map fun i => rowLine bar (stretched.map fun ls => ls[i]?.getD [])

/-! ## Widths -/

/-- The number of cells of the widest line of a text, by the Unicode reading of line breaks. -/
def naturalWidth (s : Text) : Nat :=
  (s.breakLines.map Text.cells).foldl max 0

/-- The number of cells of a line that is left for columns and the blanks around their texts. -/
def available (columns : Nat) : Nat :=
  consoleWidth - (columns + 1)

/-- The widths that the columns of a grid take by themselves, with the blanks around their texts. -/
def naturalWidths (g : Grid) : List Nat :=
  g.columns.zipIdx.map fun (c, i) =>
    let texts := c.heading :: g.rows.map fun cells => cells[i]?.getD []
    min (available g.columns.length) ((texts.map naturalWidth).foldl max 0 + 2)

/-- A quotient rounded to the nearest number, and to the even one of two. -/
def roundedQuotient (a b : Nat) : Nat :=
  let q := a / b
  let r := a % b
  if 2 * r < b then q else if b < 2 * r then q + 1 else q + q % 2

/-- Takes `total` cells from the `count` columns of width `widest`, from none more than `most`. -/
def shrink (widest most : Nat) : Nat → Nat → List Nat → List Nat
  | _, _, [] => []
  | total, count, w :: ws =>
      if w = widest then
        let taken := min most (roundedQuotient total count)
        (w - taken) :: shrink widest most (total - taken) (count - 1) ws
      else w :: shrink widest most total count ws

/-- Widths that come to no more than a number of cells: the widest columns are made narrower
until the next ones are as wide, as often as needed.  `fuel` bounds the number of times. -/
def fit (limit : Nat) : Nat → List Nat → List Nat
  | 0, ws => ws
  | fuel + 1, ws =>
      let excess := ws.foldr (· + ·) 0 - limit
      if excess = 0 then ws
      else
        let widest := ws.foldl max 0
        let next := (ws.filter (· ≠ widest)).foldl max 0
        fit limit fuel
          (shrink widest (min excess (widest - next)) excess (ws.countP (· = widest)) ws)

/-- The widths of the texts in the columns of a grid. -/
def widths (g : Grid) : List Nat :=
  let natural := naturalWidths g
  (fit (available g.columns.length) (natural.foldr (· + ·) 0) natural).map (· - 2)

/-! ## Grids -/

/-- A text in the middle of a line of a given width. -/
def centred (width : Nat) (s : Text) : Text :=
  let before := (width - s.cells) / 2
  List.replicate before ' ' ++ s ++ List.replicate (width - s.cells - before) ' '

/-- The lines of a grid in a box. -/
def lines (g : Grid) : List Text :=
  let ws := widths g
  let total := ws.foldr (fun w rest => w + 3 + rest) 1
  centred total g.title :: horizontal top ws ::
    row '┃' true g.columns ws (g.columns.map (·.heading)) ++ horizontal belowHeadings ws ::
    g.rows.flatMap (row '│' false g.columns ws) ++ [horizontal bottom ws, centred total g.caption]

end Box

end SolidityLint.Console
