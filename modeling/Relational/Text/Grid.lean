import Relational.Text.Terminal

/-!
# Grids

A grid shows rows of cells in a frame, with a line of headers above them. Every column is as wide as its widest
cell, and at least two wider than its header, as a terminal shows them; blanks around a text are cut off. A cell
with line breaks takes several lines. A row marked by U+0001 in its first or second cell is drawn as a line across
the grid.
-/

namespace Relational.Text

/-- Characters at which a cell breaks. -/
def isBreak (c : Char) : Bool :=
  c == '\n' || c == '\r'

/-- The pieces of a text between its breaks. -/
def brokenLines (cs : List Char) : List (List Char) :=
  splitAt '\n' (cs.map fun c => if isBreak c then '\n' else c)

/-- The width of the widest of some lines. -/
def linesWidth (lines : List (List Char)) : Nat :=
  (lines.map visibleWidth).foldl max 0

/-- The sides of a column on which texts stand. -/
inductive Side where
  | left
  | right
  deriving Repr, DecidableEq

/-- Characters with blanks at the other side, up to a width. -/
def pad (side : Side) (width : Nat) (cs : List Char) : List Char :=
  let blanks := List.replicate (width - cs.length) ' '
  match side with
  | .left => cs ++ blanks
  | .right => blanks ++ cs

/-- A line padded to a visible width, where `counted` are the characters that count. -/
def padVisible (side : Side) (width : Nat) (counted cs : List Char) : List Char :=
  pad side (width + (counted.length - visibleWidth counted)) cs

/-- A list with as many elements as `count`, filled up at its end or cut. -/
def fit {α : Type} (count : Nat) (filling : α) (items : List α) : List α :=
  (items ++ List.replicate (count - items.length) filling).take count

/-- Headers and rows of cells. The columns stand on the given sides, and further ones on the left. -/
structure Grid where
  headers : List (List Char)
  rows : List (List (List Char))
  sides : List Side := []
  deriving Repr, DecidableEq

namespace Grid

/-- The grid of headers and rows. -/
def ofTexts (headers : List String) (rows : List (List String)) : Grid :=
  ⟨headers.map String.toList, rows.map (·.map String.toList), []⟩

/-! ## Contents -/

/-- A row that is drawn as a line: its first or second cell is U+0001. -/
def isLine (row : List (List Char)) : Bool :=
  (row.take 2).any fun cell => stripChars cell == ['\x01']

/-- The rows that have cells to show. -/
def contents (grid : Grid) : List (List (List Char)) :=
  grid.rows.filter (!isLine ·)

/-- The headers. Those that are too few for the first row stand over its last columns. -/
def titles (grid : Grid) : List (List Char) :=
  if grid.headers.isEmpty then []
  else List.replicate ((grid.rows.headD []).length - grid.headers.length) [] ++ grid.headers

/-- All texts of the grid, with tabs between them. -/
def allText (grid : Grid) : List Char :=
  ['\t'].intercalate (grid.titles ++ grid.contents.flatten)

/-- Some text in the grid has a break. -/
def isBroken (grid : Grid) : Bool :=
  grid.allText.any isBreak

/-- The number of columns that rows have. Cells without a header are left out. -/
def cellCount (grid : Grid) : Nat :=
  let count := (grid.contents.map List.length).foldl max 0
  if grid.headers.isEmpty then count else min count grid.titles.length

/-- The number of columns. Without cells every header has one, else headers without a cell are left out. -/
def columnCount (grid : Grid) : Nat :=
  if grid.cellCount = 0 then grid.titles.length else grid.cellCount

/-- The cells that are shown, without the blanks around them. Short rows are filled with empty cells. -/
def cells (grid : Grid) : List (List (List Char)) :=
  if grid.cellCount = 0 then []
  else grid.contents.map fun row => (fit grid.cellCount [] row).map stripChars

/-- The sides of the columns. -/
def columnSides (grid : Grid) : List Side :=
  fit grid.columnCount .left grid.sides

/-! ## Widths -/

/-- Two more than the width of each header. -/
def leastWidths (grid : Grid) : List Nat :=
  if grid.headers.isEmpty then List.replicate grid.columnCount 0
  else (grid.titles.take grid.columnCount).map fun title => linesWidth (brokenLines title) + 2

/-- The widths with those of a row. -/
def widen (widths : List Nat) (row : List (List (List Char))) : List Nat :=
  List.zipWith (fun width lines => max width (linesWidth lines)) widths row

/-- The widths to which cells are padded. -/
def cellWidths (grid : Grid) : List Nat :=
  (grid.cells.map (·.map brokenLines)).foldl widen grid.leastWidths

/-- The lines of a cell, padded. In a grid with breaks a cell breaks at every line end; an empty cell has no lines,
and where there are sequences in the grid, each line is padded like the piece of the same number. -/
def cellLines (broken sequences : Bool) (side : Side) (width : Nat) (cell : List Char) : List (List Char) :=
  if !broken then [padVisible side width cell cell]
  else if sequences then List.zipWith (padVisible side width) (brokenLines cell) (lines cell)
  else (lines cell).map (pad side width)

/-- The padded lines of all cells. -/
def cellRows (grid : Grid) : List (List (List (List Char))) :=
  let broken := grid.isBroken
  let sequences := hasSequence grid.allText
  let columns := grid.columnSides.zip grid.cellWidths
  grid.cells.map fun row => List.zipWith (fun (side, width) => cellLines broken sequences side width) columns row

/-- The lines of a header, padded. -/
def titleLines (broken : Bool) (side : Side) (width : Nat) (title : List Char) : List (List Char) :=
  let padded := (brokenLines title).map fun piece => padVisible side width piece piece
  if broken then padded.flatMap lines else padded

/-! ## Drawing -/

/-- A line across the grid. -/
def rule (fill : Char) (widths : List Nat) : List Char :=
  '+' :: widths.flatMap fun width => List.replicate (width + 2) fill ++ ['+']

/-- A line of texts. -/
def textLine (texts : List (List Char)) : List Char :=
  '|' :: texts.flatMap fun cs => ' ' :: cs ++ [' ', '|']

/-- The lines of a row; it is as high as its highest cell. -/
def rowLines (widths : List Nat) (row : List (List (List Char))) : List (List Char) :=
  let height := (row.map List.length).foldl max 0
  let columns := List.zipWith (fun width lines => fit height (List.replicate width ' ') lines) widths row
  (List.range height).map fun i => textLine (columns.map fun lines => lines.getD i [])

/-- The rows of a grid in order, none for one that is a line. -/
def items {α : Type} : List (List (List Char)) → List α → List (Option α)
  | [], _ => []
  | row :: rows, drawn =>
    if isLine row then none :: items rows drawn
    else match drawn with
      | [] => items rows []
      | lines :: drawn => some lines :: items rows drawn

/-- The mark of a row that is a line, where it is the last row. -/
def lastMark (broken : Bool) : List Char :=
  if broken then textLine [['\x01']] else ['|', '\x01', '|']

/-- The lines of the rows and between them. No more rows are drawn before the last one than have cells; a grid
all of whose rows are lines cannot be drawn. -/
def bodyLines (grid : Grid) (widths : List Nat) (rows : List (List (List (List Char)))) :
    Option (List (List Char)) :=
  let items := items grid.rows rows
  match items.getLast?, rows with
  | none, _ => some []
  | some _, [] => none
  | some last, _ :: _ =>
    let first := (items.dropLast.take rows.length).flatMap fun item =>
      (item.map (rowLines widths)).getD [] ++ [rule '-' widths]
    some (first ++ (last.map (rowLines widths)).getD [lastMark grid.isBroken])

/-- The lines of the headers, with a double line under them. -/
def headerLines (grid : Grid) (widths : List Nat) : List (List Char) :=
  if grid.headers.isEmpty then []
  else
    let columns := grid.columnSides.zip widths
    rowLines widths (List.zipWith (fun (side, width) => titleLines grid.isBroken side width) columns grid.titles)
      ++ [rule '=' widths]

/-- The grid as text, unless all of its rows are lines. -/
def toText? (grid : Grid) : Option String := do
  let rows := grid.cellRows
  let widths := rows.foldl widen grid.leastWidths
  let body ← grid.bodyLines widths rows
  if grid.columnCount = 0 then some ""
  else some ("\n".intercalate
    ((rule '-' widths :: (grid.headerLines widths ++ body ++ [rule '-' widths])).map String.ofList))

end Grid

end Relational.Text
