import TokenFormula.Text.Markup
import TokenFormula.Text.Wrap

/-!
# Tables on the console

A table has a line of titles and rows of cells. The cells are read column by
column. A column is as wide as its widest cell; where the columns together are
wider than the console, the widest give way. The cells are folded where there is
no room, and three dots stand for the rest of a word.

Results:
* `Cell.printed`: what a cell prints.
* `shrunk`: the widths of columns that fit on a console.
* `Table.printed`: a table as lines.
-/

namespace TokenFormula.Command

/-- A column of a table. -/
structure Column where
  title : String
  /-- The cells stand at the right edge. -/
  right : Bool
  /-- The width of a column that neither grows nor gives way. -/
  fixed? : Option Nat
deriving DecidableEq, Repr

/-- A cell. -/
inductive Cell where
  /-- A text as it is. -/
  | plain (s : String)
  /-- A text with markup. -/
  | marked (s : String)
deriving DecidableEq, Repr

/-- Columns and rows of cells. -/
structure Table where
  columns : List Column
  rows : List (List Cell)
deriving DecidableEq, Repr

/-- The characters that are never printed. -/
def isSuppressed (c : Char) : Bool :=
  let n := c.toNat
  n == 7 || n == 8 || n == 11 || n == 12 || n == 13

/-- What is printed of a text without markup. -/
def printable (s : String) : String :=
  String.ofList (s.toList.filter (!isSuppressed ·))

/-- What a cell prints, if its tags match. -/
def Cell.printed : Cell → Except Text.Markup.Problem String
  | plain s => .ok (printable s)
  | marked s => (Text.Markup.printed s).map printable

/-! ## Widths of columns -/

/-- The width of a column, with the blanks at its sides. -/
structure Width where
  cells : Nat
  /-- The column may give way. -/
  gives : Bool
deriving DecidableEq, Repr

-- A sum of naturals starts at the numeral, also where another library brings its own zero.
attribute [local instance (high)] Zero.ofOfNat0

/-- The cells that all columns take. -/
def totalWidth (ws : List Width) : Nat :=
  (ws.map Width.cells).sum

/-- The width of the widest column that gives way and is not `besides` wide. -/
def widest (besides? : Option Nat) (ws : List Width) : Nat :=
  ((ws.filter fun w => w.gives && besides? != some w.cells).map Width.cells).foldl max 0

/-- A quotient rounded to the nearest number, and to the even one of two. -/
def roundedQuotient (n d : Nat) : Nat :=
  let q := n / d
  let twice := 2 * (n % d)
  if twice < d then q else if d < twice then q + 1 else q + q % 2

/-- Takes `excess` in equal shares of at most `most` from the columns that give way
    and are `top` wide; `count` of them are left. -/
def lowered (top most excess count : Nat) : List Width → List Width
  | [] => []
  | w :: rest =>
    if w.gives && w.cells = top then
      let share := min most (roundedQuotient excess count)
      { w with cells := w.cells - share } :: lowered top most (excess - share) (count - 1) rest
    else w :: lowered top most excess count rest

/-- Lowers the widest columns to the next width until all fit on the console, in
    at most `fuel` steps. -/
def shrunkWithin (console : Nat) : (fuel : Nat) → List Width → List Width
  | 0, ws => ws
  | fuel + 1, ws =>
    let excess := totalWidth ws - console
    let top := widest none ws
    let step := top - widest (some top) ws
    if excess = 0 || step = 0 then ws
    else
      let count := (ws.filter fun w => w.gives && w.cells = top).length
      shrunkWithin console fuel (lowered top (min excess step) excess count ws)

/-- The widths of columns that fit on the console. Each step takes at least one
    cell of those that are too many. -/
def shrunk (console : Nat) (ws : List Width) : List Width :=
  shrunkWithin console (totalWidth ws - console) ws

namespace Table

/-- The blanks at both sides of a cell. -/
def margin : Nat := 2

/-- The width that a column takes for its cells. -/
def width (console : Nat) (c : Column) (texts : List String) : Width :=
  match c.fixed? with
  | some n => ⟨min (n + margin) console, false⟩
  | none =>
    let needed := (texts.map Text.unfoldedWidth).foldl max (Text.unfoldedWidth c.title)
    ⟨min (needed + margin) console, true⟩

/-! ## Lines -/

/-- A text in `room` cells, with a blank on either side. -/
def pad (room : Nat) (right : Bool) (s : String) : String :=
  let blanks := "".pushn ' ' (room - Text.cells s.toList)
  " " ++ (if right then blanks ++ s else s ++ blanks) ++ " "

/-- The lines of a cell. -/
def cellLines (room : Nat) (right : Bool) (s : String) : List String :=
  (Text.folded .standsOut room s).map fun l => String.ofList (Text.fitted room right l)

/-- One line of a row in columns with the room of their cells. -/
def line (columns : List (Column × Nat)) (parts : List String) : String :=
  "".intercalate ((columns.zip parts).map fun p => pad p.1.2 p.1.1.right p.2)

/-- The lines of a row in columns with the room of their cells. -/
def rowLines (columns : List (Column × Nat)) (row : List String) : List String :=
  let cells := (columns.zip row).map fun p => cellLines p.1.2 p.1.1.right p.2
  let height := (cells.map List.length).foldl max 0
  (List.range height).map fun i => line columns (cells.map fun ls => (ls[i]?).getD "")

/-- The cells of one column as they are printed, from above. -/
def columnTexts (t : Table) (i : Nat) : Except Text.Markup.Problem (List String) :=
  t.rows.mapM fun row => ((row[i]?).getD (.plain "")).printed

/-- The first rows of columns, from above. -/
def rowsOf : (count : Nat) → (columns : List (List String)) → List (List String)
  | 0, _ => []
  | count + 1, columns => columns.map (·.headD "") :: rowsOf count (columns.map List.tail)

/-- A table as lines on a console, the titles first. -/
def printed (console : Nat) (t : Table) : Except Text.Markup.Problem (List String) := do
  let texts ← (List.range t.columns.length).mapM t.columnTexts
  let widths := shrunk console ((t.columns.zip texts).map fun p => width console p.1 p.2)
  let columns := t.columns.zip (widths.map fun w => w.cells - margin)
  return rowLines columns (t.columns.map Column.title) ++
    (rowsOf t.rows.length texts).flatMap (rowLines columns)

end Table
end TokenFormula.Command
