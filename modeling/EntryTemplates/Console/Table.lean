/-
**Tables with frames.**

Main definitions:

* `EntryTemplates.Console.Table` — columns with headings, and rows of cells with tags;
* `EntryTemplates.Console.Table.render` — the lines of a table.
-/

import EntryTemplates.Console.Lines
import EntryTemplates.Console.Markup
import EntryTemplates.Console.Widths
import EntryTemplates.Text.Lines

set_option relaxedAutoImplicit false
set_option autoImplicit false

namespace EntryTemplates.Console

/-- A column of a table. -/
structure Column where
  heading : String
  /-- Whether lines that are too long are broken. -/
  breaks : Bool
  side : Side
  deriving DecidableEq, Repr

/-- How the cells of a column are laid out. -/
def Column.layout (c : Column) : Layout := ⟨c.breaks, false, c.side⟩

/-- Columns, and rows of cells with tags. -/
structure Table where
  columns : List Column
  rows : List (List Text.Loose)
  deriving DecidableEq, Repr

/-- A row without its tags. -/
def plainRow (row : List Text.Loose) : Except Problem (List Painted) := row.mapM Markup.read

/-- The cells of the longest line of a text. -/
def longestLine (s : List Glyph) : Nat :=
  greatest ((Text.splitLines (s.map Glyph.char)).map fun line => cellsAfter none line)

/-- A line between two ends, with strokes for every column and something between the columns. -/
def ruler (start between finish : Char) (widths : List Nat) : List Glyph :=
  glyphs (start :: Text.joinWith [between] (widths.map fun w => List.replicate w '─') ++ [finish])

/-- A cell as it is drawn: its column, the width of that, and the text. -/
structure Cell where
  column : Column
  width : Nat
  text : Painted

namespace Cell

/-- The lines of a cell with a blank on either side; a column without room for anything else stays
empty. -/
def lines (c : Cell) : List (List Glyph) :=
  if c.width ≤ 2 then []
  else (Console.lines c.column.layout (c.width - 2) c.text.glyphs).map fun line =>
    blanks 1 ++ line ++ blanks 1

/-- Why a cell cannot be drawn, if so. -/
def trouble? (c : Cell) : Option NoNumber :=
  if c.width ≤ 2 then none else Console.trouble? c.column.layout (c.width - 2) c.text

/-- The lines of a cell and empty ones below them, `height` in all. -/
def fillDown (height : Nat) (c : Cell) : List (List Glyph) :=
  c.lines ++ List.replicate (height - c.lines.length) (blanks c.width)

end Cell

/-- The cells of a row. -/
def rowCells (columns : List Column) (widths : List Nat) (row : List Painted) : List Cell :=
  ((columns.zip widths).zip row).map fun ((column, width), text) => ⟨column, width, text⟩

/-- The pieces put together, with an upright stroke before and after each. -/
def betweenStrokes : List (List Glyph) → List Glyph
  | [] => glyphs ['│']
  | piece :: pieces => glyphs ['│'] ++ piece ++ betweenStrokes pieces

/-- The lines of a row. -/
def rowLines (row : List Cell) : List (List Glyph) :=
  let height := max 1 (greatest (row.map fun c => c.lines.length))
  (List.range height).map fun i =>
    betweenStrokes (row.map fun c => (c.fillDown height).getD i [])

/-- A line that is not wider than the console. -/
def clipped (width : Nat) (line : List Glyph) : List Glyph :=
  if cells line ≤ width then line else fit width line

/-- **The lines of a table** on a console of so many cells. -/
def Table.render (width : Nat) (t : Table) : Except Problem (List (List Glyph)) := do
  let head ← plainRow (t.columns.map fun c => c.heading)
  let rows ← t.rows.mapM plainRow
  let content (i : Nat) : Nat :=
    greatest ((head :: rows).map fun row => (row[i]?.map fun p => longestLine p.glyphs).getD 0)
  let widths := columnWidths (width - (t.columns.length + 1))
    (t.columns.mapIdx fun i c => ⟨c.breaks, content i⟩)
  let head := rowCells t.columns widths head
  let rows := rows.map (rowCells t.columns widths)
  match (head :: rows).flatten.findSome? Cell.trouble? with
  | some n => throw (.colour n)
  | none =>
      let all := [ruler '╭' '┬' '╮' widths] ++ rowLines head ++ [ruler '├' '┼' '┤' widths]
        ++ rows.flatMap rowLines ++ [ruler '╰' '┴' '╯' widths]
      return all.map (clipped width)

end EntryTemplates.Console
