import TabCompletion.Text.Blank
import TabCompletion.Text.CellWidth
import TabCompletion.Text.Lines

/-!
# Text in lines of a given width

A text on the screen runs line by line. Tabs lead to the next of the stops that stand every eight
cells. A line that is too long goes on below, broken between words; a word that is longer than a
whole line is cut into pieces or, where an ellipsis stands for what is left out, cut off.

* `flow` are the lines of a text in a width.
* `naturalWidth` is the width that a text asks for.
-/

namespace TabCompletion.Text

/-- A text as it is printed: without the controls that would move the cursor. -/
def printed (s : String) : String :=
  String.ofList (s.toList.filter fun c => !(['\x07', '\x08', '\x0b', '\x0c', '\x0d'].contains c))

/-- The greatest number of a list, zero if it is empty. -/
def widest (ns : List Nat) : Nat := ns.foldl max 0

/-- The width of the longest line of a text; tabs take no room. -/
def naturalWidth (s : String) : Nat := widest ((lines (printed s)).map cells)

/-- The distance between tab stops in cells. -/
def tabDistance : Nat := 8

/-- `cs` with blanks up to the next stop for each tab, on a line of which `column` cells are
written. -/
def expandTabs (column : Nat) : List Char → List Char
  | [] => []
  | c :: rest =>
    if c = '\t' then
      let gap := tabDistance - column % tabDistance
      List.replicate gap ' ' ++ expandTabs (column + gap) rest
    else c :: expandTabs (column + charCells c) rest

/-! ## Words -/

/-- A word with the blanks after it, and before it if it is the first, and what follows; nothing
if only blanks are left. -/
def takeWord (cs : List Char) : Option (List Char × List Char) :=
  let before := cs.takeWhile isBlank
  let rest := cs.dropWhile isBlank
  let word := rest.takeWhile (!isBlank ·)
  let rest := rest.dropWhile (!isBlank ·)
  if word.isEmpty then none
  else some (before ++ word ++ rest.takeWhile isBlank, rest.dropWhile isBlank)

/-- The words of a line and the blanks left over. `fuel` counts the characters. -/
def words : Nat → List Char → List (List Char)
  | 0, _ => []
  | fuel + 1, cs =>
    match takeWord cs with
    | some (word, rest) => word :: words fuel rest
    | none => []

/-- `cs` in pieces of at most `width` cells, of which the first has been read up to `taken`, last
character first. -/
def chopFrom (width : Nat) (taken : List Char) : List Char → List (List Char)
  | [] => [taken.reverse]
  | c :: rest =>
    if width < cellsOf taken + charCells c then taken.reverse :: chopFrom width [c] rest
    else chopFrom width (c :: taken) rest

/-! ## Lines -/

/-- What happens to what does not fit into a line. -/
inductive Overflow where
  /-- It goes on in the next line, and long words are cut into pieces. -/
  | fold
  /-- It goes on in the next line, and long words are cut off. -/
  | break
  /-- It is cut off. -/
  | cut
  deriving DecidableEq, Repr

/-- A line that is being filled: the lines before it and its characters. -/
structure Filling where
  finished : List (List Char) := []
  line : List Char := []

/-- Starts a new line. -/
def Filling.turn (f : Filling) : Filling := { finished := f.finished ++ [f.line] }

/-- Adds the pieces of a long word, each on a line of its own. -/
def Filling.addPieces (f : Filling) : List (List Char) → Filling
  | [] => f
  | [last] => { f with line := f.line ++ last }
  | piece :: rest => ({ f with line := f.line ++ piece }).turn.addPieces rest

/-- Adds a word to the line if it fits, else to a new one. `first` says that nothing was added
before. -/
def Filling.add (width : Nat) (folds first : Bool) (f : Filling) (word : List Char) : Filling :=
  let length := cellsOf (trimRight isBlank word)
  if cellsOf f.line + length ≤ width then { f with line := f.line ++ word }
  else
    let next := if first then f else f.turn
    if length ≤ width ∨ !folds then { next with line := word }
    else match chopFrom width [] word with
      | [] :: pieces => (if first then next else next.turn).addPieces pieces
      | pieces => next.addPieces pieces

/-- The lines of a line that is broken between words. -/
def breakLine (width : Nat) (folds : Bool) (cs : List Char) : List (List Char) :=
  match words (cs.length + 1) cs with
  | [] => [cs]
  | first :: rest =>
    let f := rest.foldl (Filling.add width folds false) (Filling.add width folds true {} first)
    f.finished ++ [f.line]

/-- A line without the blanks at its end for which it has too many characters. -/
def dropOverhang (width : Nat) (cs : List Char) : List Char :=
  let excess := cs.length - width
  let blank := (cs.reverse.takeWhile isBlank).length
  cs.take (cs.length - min blank excess)

/-- A line cut to a width: with an ellipsis in the last cell, unless long words are folded. -/
def cutLine (width : Nat) (overflow : Overflow) (cs : List Char) : List Char :=
  if cellsOf cs ≤ width then cs
  else if overflow = .fold then cutCells width cs
  else cutCells (width - 1) cs ++ ['…']

/-- A line as it is shown in a width. -/
def shownLine (width : Nat) (overflow : Overflow) (cs : List Char) : List Char :=
  cutLine width overflow (dropOverhang width cs)

/-- A text divided into lines for a width; in no width there are none. -/
def divided (width : Nat) (overflow : Overflow) (s : String) : List (List Char) :=
  if width = 0 then []
  else (splitOn "\n" (printed s)).flatMap fun line =>
    let line := expandTabs 0 line.toList
    if overflow = .cut then [line] else breakLine width (overflow = .fold) line

/-- The lines of a text in a width; in no width there are none. -/
def flow (width : Nat) (overflow : Overflow) (s : String) : List String :=
  (divided width overflow s).map fun part => String.ofList (shownLine width overflow part)

end TabCompletion.Text
