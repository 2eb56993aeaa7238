import TabCompletion.Display.Line

/-!
# Tables

Rows of cells under headings, each column as wide as its widest cell, with a blank on both sides of
a cell. Where a table is wider than its room, the widest of the columns that may break their cells
give way first, and then all columns alike.

* `Table.widths` are the widths of the columns in a room.
* `Table.lines` are the lines of a table in a room.
-/

namespace TabCompletion

/-- A column of a table: its heading, and whether its cells may be broken into lines. -/
structure Column where
  heading : String
  breaks : Bool

/-- The columns of a table and its rows, which have a cell for each column. -/
structure Table where
  columns : List Column
  rows : List (List String)

/-- `a` divided by `b` and rounded to the nearest number, a half to the even one. -/
def roundedQuotient (a b : Nat) : Nat :=
  let q := a / b
  let twice := 2 * (a % b)
  if b < twice ∨ (b = twice ∧ q % 2 = 1) then q + 1 else q

/-- Takes `total` off some widths in equal shares. Each width comes with the most that it may give;
`shares` counts those that may give anything. -/
def shrink (total shares : Nat) : List (Nat × Nat) → List Nat
  | [] => []
  | (most, width) :: rest =>
    if most = 0 then width :: shrink total shares rest
    else
      let share := min most (roundedQuotient total shares)
      (width - share) :: shrink (total - share) (shares - 1) rest

/-- Takes `total` off some widths, each with the most that it may give. -/
def shrinkAll (total : Nat) (widths : List (Nat × Nat)) : List Nat :=
  shrink total (widths.filter (·.1 ≠ 0)).length widths

/-- The sum of some widths. -/
def totalWidth (ws : List Nat) : Nat := ws.foldl (· + ·) 0

namespace Table

/-- A table with its cells replaced, column by column from the top; the first fault ends it. -/
def mapCells (t : Table) (f : String → Except ε String) : Except ε Table := do
  let columns ← (List.range t.columns.length).mapM fun k => t.rows.mapM fun row => f (row.getD k "")
  pure { t with rows := (List.range t.rows.length).map fun i => columns.map (·.getD i "") }

/-- The width that a cell asks for in a room. -/
def cellWidth (room : Nat) (cell : String) : Nat :=
  if room < 3 then room else min room (Text.naturalWidth cell + 2)

/-- The widths that the columns ask for, each in a room of its own. -/
def columnWidths (t : Table) (rooms : List Nat) : List Nat :=
  (t.columns.map (·.heading) :: t.rows).foldl (fun ws row =>
    (ws.zip (rooms.zip row)).map fun (w, room, cell) => max w (cellWidth room cell))
    (t.columns.map fun _ => 0)

/-- Narrows the widest of the columns that may break their cells, down to the next widest, until
the columns fit into a room. `fuel` counts the steps. -/
def narrow (t : Table) (room : Nat) : Nat → List Nat → List Nat
  | 0, ws => ws
  | fuel + 1, ws =>
    let excess := totalWidth ws - room
    let marked := t.columns.zip ws
    let most := Text.widest ((marked.filter (·.1.breaks)).map (·.2))
    let next := Text.widest ((marked.filter fun (c, w) => c.breaks && w != most).map (·.2))
    if excess = 0 ∨ most = 0 then ws
    else
      let step := min excess (most - next)
      t.narrow room fuel (shrinkAll excess (marked.map fun (c, w) =>
        (if c.breaks && w == most then step else 0, w)))

/-- The widths of the columns in a room. -/
def widths (t : Table) (room : Nat) : List Nat :=
  let rooms := t.columns.map fun _ => room
  let natural := (t.columnWidths rooms).map (max 1)
  if totalWidth natural ≤ room then natural
  else
    let ws := t.narrow room (totalWidth natural) natural
    let excess := totalWidth ws - room
    t.columnWidths (if excess = 0 then ws else shrinkAll excess (ws.map fun w => (w, w)))

/-- The width that a table asks for in a room. -/
def width (t : Table) (room : Nat) : Nat :=
  let total := totalWidth (t.widths room)
  min room (totalWidth (t.columnWidths (t.columns.map fun _ => total)))

/-- The lines of one cell in the width of its column, with a blank on both sides. -/
def cellLines (width : Nat) (c : Column) (cell : String) : List Line :=
  (Text.flow (width - 2) (if c.breaks then .break else .cut) cell).map fun line =>
    ⟨[" ", Text.padCells (width - 2) line, " "]⟩

/-- The lines of one row, at least one; cells with fewer lines than others go on blank. -/
def rowLines (t : Table) (widths : List Nat) (row : List String) : List Line :=
  let cells := (widths.zip (t.columns.zip row)).map fun (w, c, cell) => (w, cellLines w c cell)
  (List.range (max 1 (Text.widest (cells.map fun (_, ls) => ls.length)))).map fun k =>
    (cells.map fun (w, ls) => (ls[k]?).getD (.blank w)).foldl (· ++ ·) ⟨[]⟩

/-- The lines of the headings and of all rows in a room. -/
def lines (t : Table) (room : Nat) : List Line :=
  let widths := t.widths room
  (t.columns.map (·.heading) :: t.rows).flatMap (t.rowLines widths)

end Table

end TabCompletion
