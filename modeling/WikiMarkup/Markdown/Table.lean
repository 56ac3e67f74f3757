import WikiMarkup.Markdown.Line

/-!
# Tables

A table is a row of headings, a row of hyphens that says how the columns are aligned, and rows of
cells, separated by bars. Either every row stands between bars, or the bars stand between the cells
only; the row of headings decides. All rows have as many cells as there are columns, or there is no
table.
-/

namespace WikiMarkup
namespace Markdown

/-- How the cells of a column are aligned. -/
inductive Align where
  | left
  | center
  | right
deriving DecidableEq, Repr

/-- The cell of a table. -/
structure Cell where
  text : Text
  align : Option Align
deriving DecidableEq, Repr

/-- A table: its headings and its rows. -/
structure Table where
  headings : List Cell
  rows : List (List Cell)
deriving DecidableEq, Repr

namespace Table

/-- The cells of a row that is read up to the cell `cell`, which is given backwards. An escaped bar
separates no cells. -/
def cellsFrom : Text → Text → List Text
  | cell, '\\' :: c :: rest => cellsFrom (c :: '\\' :: cell) rest
  | cell, c :: rest =>
    if c == '|' then cell.reverse :: cellsFrom [] rest else cellsFrom (c :: cell) rest
  | cell, [] => [cell.reverse]

/-- The cells of a row, without the white space around them. -/
def cells (row : Text) : List Text := (cellsFrom [] (Text.trim row)).map Text.trim

/-- The alignment that a cell of hyphens stands for: colons say where the text is to touch the
side of the column. -/
def align? (cell : Text) : Option Align :=
  let hyphens (t : Text) := !t.isEmpty && t.all (· == '-')
  match cell with
  | ':' :: rest =>
    if rest.getLast? == some ':' && hyphens rest.dropLast then some .center
    else if hyphens rest then some .left
    else none
  | _ => if cell.getLast? == some ':' && hyphens cell.dropLast then some .right else none

/-- The cells of a row, aligned, if it has as many as there are columns. -/
def row? (aligns : List (Option Align)) (row : Text) : Option (List Cell) :=
  let texts := cells row
  if texts.length == aligns.length then some (List.zipWith Cell.mk texts aligns) else none

/-- Whether a cell is one of the row below the headings: it says how its column is aligned, or holds
hyphens only, or nothing. -/
def isHyphens (cell : Text) : Bool := (align? cell).isSome || cell.all (· == '-')

/-- What stands between the bars at the beginning and the end of a line, which may be the same. -/
def betweenBars? (line : Text) : Option Text :=
  match Text.trimEnd isSpace (line.dropWhile (· == ' ')) with
  | ['|'] => some []
  | '|' :: rest => if rest.getLast? == some '|' then some rest.dropLast else none
  | _ => none

/-- The lines at the beginning of a text, as far as `row?` gives a row for them: the rows, and the
length of the lines. `fuel` is at least their number. -/
def rowsFrom (row? : Text → Option Text) : Nat → Text → List Text × Nat
  | 0, _ => ([], 0)
  | _ + 1, [] => ([], 0)
  | fuel + 1, t =>
    match row? (Text.firstLine t) with
    | some row =>
      let n := lineLength t
      let (rows, length) := rowsFrom row? fuel (t.drop n)
      (row :: rows, n + length)
    | none => ([], 0)

/-- The table with a row of headings, a row of hyphens and more rows. -/
def ofRows? : List Text → Option Table
  | headings :: hyphens :: rows => do
    let cells := cells hyphens
    if cells.all isHyphens then
      let aligns := cells.map align?
      return ⟨← row? aligns headings, ← rows.mapM (row? aligns)⟩
    else none
  | _ => none

/-- Whether a line is a heading row between bars. -/
def isBarredHeading (line : Text) : Bool :=
  (indented? 3 line).isSome && (betweenBars? line).isSome && Text.trim line != ['|']

/-- Whether a line is a heading row with bars between the cells only. -/
def isBareHeading (line : Text) : Bool :=
  match indented? 3 line with
  | some (_, c :: rest) => !Text.isBlank c && rest.contains '|'
  | _ => false

/-- A row with bars between the cells only. -/
def bareRow? (line : Text) : Option Text := if line.contains '|' then some line else none

/-- What rows at the beginning of a text have come to. -/
inductive Found where
  /-- A table that takes some characters. -/
  | table (table : Table) (length : Nat)
  /-- Rows between bars that are no table, and take some characters. -/
  | rows (length : Nat)
deriving DecidableEq, Repr

/-- Reads a table. Two rows or more between bars are read together, be they a table or not. -/
def found? (t : Text) : Option Found :=
  let line := Text.firstLine t
  if isBarredHeading line then
    match rowsFrom betweenBars? t.length t with
    | (rows@(_ :: _ :: _), length) =>
      match ofRows? rows with
      | some table => some (.table table length)
      | none => some (.rows length)
    | _ => none
  else if isBareHeading line then
    let (rows, length) := rowsFrom bareRow? t.length t
    (ofRows? rows).map (Found.table · length)
  else none

end Table
end Markdown
end WikiMarkup
