import TabCompletion.Text.CellWidth
import TabCompletion.Text.Flow

/-!
# Lines on the screen

A line on the screen is put together from pieces: the content of a cell, the blanks around it, the
sides of a frame. Where a line is too long, the piece that reaches the end is cut by itself, and
the pieces after it are left out.

* `Line.crop` cuts a line, and `Line.fit` fills it up as well.
* `Line.prose` are the lines of a text whose first characters are a piece of their own.
-/

namespace TabCompletion

/-- A line in pieces, from the left to the right. -/
structure Line where
  pieces : List String
  deriving DecidableEq, Repr

namespace Line

instance : Append Line := ⟨fun a b => ⟨a.pieces ++ b.pieces⟩⟩

/-- The line of one piece. -/
def ofText (s : String) : Line := ⟨[s]⟩

/-- The line of `n` blanks. -/
def blank (n : Nat) : Line := ofText (Text.blanks n)

/-- The text of a line. -/
def text (l : Line) : String := String.join l.pieces

/-- The number of cells a line takes. -/
def cells (l : Line) : Nat := l.pieces.foldl (fun n piece => n + Text.cells piece) 0

/-- The pieces up to the one that reaches `width` cells, which is cut there. -/
def cropPieces (width : Nat) : List String → List String
  | [] => []
  | piece :: rest =>
    let n := Text.cells piece
    if n < width then piece :: cropPieces (width - n) rest
    else [Text.cropCells width piece]

/-- A line cut to at most `width` cells. -/
def crop (width : Nat) (l : Line) : Line :=
  if l.cells ≤ width then l else ⟨cropPieces width l.pieces⟩

/-- A line of exactly `width` cells: cut, or followed by blanks. -/
def fit (width : Nat) (l : Line) : Line :=
  if l.cells < width then l ++ blank (width - l.cells) else l.crop width

/-- The lines of a divided text of which the first `lead` characters are a piece of their own. -/
def ofParts (width lead : Nat) : List (List Char) → List Line
  | [] => []
  | part :: rest =>
    let shown := Text.shownLine width .fold part
    ⟨[String.ofList (shown.take lead), String.ofList (shown.drop lead)]⟩ ::
      ofParts width (lead - part.length) rest

/-- The lines of a text in a width, after a lead that is a piece of its own. -/
def prose (width : Nat) (lead text : String) : List Line :=
  ofParts width lead.length (Text.divided width .fold (lead ++ text))

end Line

end TabCompletion
