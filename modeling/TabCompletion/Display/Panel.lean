import TabCompletion.Display.Padding
import TabCompletion.Display.Table
import TabCompletion.Display.Tags
import TabCompletion.Style.Screen

/-!
# Panels

A frame with rounded corners around a text or a table, with an optional title in its upper edge.

* `Panel.innerWidth` is the width between the sides: what its content, its title or, if it is
  expanded, the screen asks for.
* `Panel.lines` are the lines of a panel.
* `Settings.panelLines` are the lines of a panel in a configured style, or the first fault of the
  style or the content.
-/

namespace TabCompletion

/-- What stands in a panel. -/
inductive Body where
  /-- A text after a lead, which is empty for most. -/
  | prose (lead text : String)
  /-- A text with tags. -/
  | tagged (text : String)
  /-- A table, whose cells may hold tags. -/
  | table (t : Table)

namespace Body

/-- The width that a content asks for in a room. -/
def width (room : Nat) : Body → Nat
  | .prose lead text => min room (Text.naturalWidth (lead ++ text))
  | .tagged text => min room (Text.naturalWidth text)
  | .table t => if room = 0 then 0 else t.width room

/-- The lines of a content in a width; in no width there are none. -/
def lines (width : Nat) : Body → List Line
  | .prose lead text => Line.prose width lead text
  | .tagged text => Line.prose width "" text
  | .table t => if width = 0 then [] else t.lines width

/-- The width that a content with a padding asks for in a room. Where the padding leaves nothing
of it, all of the room. -/
def paddedWidth (b : Body) (p : Padding) (room : Nat) : Nat :=
  let extra := p.left + p.right
  if (room : Int) - extra < 1 then room
  else (min (room : Int) (b.width room + extra)).toNat

/-- The lines of a content with a padding, each of a given width; in no width there are none. -/
def paddedLines (b : Body) (p : Padding) (width : Nat) : List Line :=
  if width = 0 then []
  else
    let inner := ((width : Int) - p.left - p.right).toNat
    let line (l : Line) : Line := .blank p.left.toNat ++ l.fit inner ++ .blank p.right.toNat
    let whole := List.replicate p.top.toNat (.blank width) ++ (b.lines inner).map line ++
      List.replicate p.bottom.toNat (.blank width)
    whole.map (Line.fit width)

end Body

/-- Where the title of a panel stands. -/
inductive Align where
  | left | center | right
  deriving DecidableEq, Repr

/-- The place of a title from a value. -/
def Align.ofJson : Json → Align
  | .text "left" => .left
  | .text "center" => .center
  | _ => .right

/-- A frame around a content. -/
structure Panel where
  title : String := ""
  content : Body
  padding : Padding := {}
  align : Align := .left
  /-- Whether the panel is as wide as the screen. -/
  expand : Bool := false

namespace Panel

/-- The width between the sides of the frame, on a screen of a width. -/
def innerWidth (p : Panel) (screen : Nat) : Nat :=
  let room := screen - 2
  let width := if p.expand then room else p.content.paddedWidth p.padding room
  if p.title = "" then width else min room (max width (Text.cells p.title + 4))

/-- `n` pieces of the upper edge. -/
def edge (n : Nat) : String := String.ofList (List.replicate n '─')

/-- The upper edge around a title, between the corner pieces. A title that is too long is cut. -/
def titleLine (p : Panel) (width : Nat) : String :=
  let title := Text.cropCells width (" " ++ p.title ++ " ")
  let free := width - Text.cells title
  let line := match p.align with
    | .left => title ++ edge free
    | .center => edge (free / 2) ++ title ++ edge (free - free / 2)
    | .right => edge free ++ title
  String.ofList (Text.dropOverhang width line.toList)

/-- The lines of a panel on a screen of a width; without a width there are none. -/
def lines (p : Panel) (screen : Nat) : List String :=
  let width := p.innerWidth screen
  let top :=
    if p.title = "" ∨ width ≤ 2 then "╭" ++ edge width ++ "╮"
    else "╭─" ++ p.titleLine (width - 2) ++ "─╮"
  let side := Line.ofText "│"
  let whole := .ofText top :: (p.content.paddedLines p.padding width).map (side ++ · ++ side) ++
    [.ofText ("╰" ++ edge width ++ "╯")]
  if screen = 0 then [] else whole.map fun l => (l.crop screen).text

end Panel

/-! ## Panels in a configured style -/

/-- Refuses a border style that is no style. One that is no text is looked up by its name. -/
def PanelStyle.checkBorder (s : PanelStyle) : Except Fault Unit :=
  match s.border with
  | .text text => (ScreenStyle.check text).mapError .style
  | .list _ | .object _ => .error (.misuse (.lookup s.border))
  | _ => .error (.misuse .noMembers)

namespace Body

/-- The least room in which the text of a content is looked at: around a cell stand two blanks. -/
def leastRoom : Body → Nat
  | .table _ => 3
  | _ => 1

/-- A content as it is shown, without tags and with symbols in the place of their names. -/
def shown : Body → Except Fault Body
  | .prose lead text => .ok (.prose lead text)
  | .tagged text => (Tags.shown text).map (.prose "")
  | .table t => (t.mapCells Tags.shown).map .table

end Body

/-- The lines of a panel of a configured style on a screen of a width. A panel that fits its content
is not expanded, whatever the style says. The sides of the frame are refused first, then the
flanks, the content and the ends, as far as there is any room for them. -/
def Settings.panelLines (c : Settings) (name title : String) (fit : Bool) (content : Body)
    (screen : Nat) : Except Fault (List String) := do
  let style ← (c.panelStyle name).mapError Fault.misuse
  if screen = 0 then pure []
  else
    let sides ← Sides.ofJson style.padding
    style.checkBorder
    let expand := !fit && style.expand.truthy
    let align := Align.ofJson style.titleAlign
    let room := screen - 2
    if room = 0 then pure (Panel.lines { title, content, align, expand } screen)
    else
      (sides.checkFlanks (!expand)).mapError Fault.misuse
      let inner := (room : Int) - Sides.cells sides.left - Sides.cells sides.right
      let looked := 1 ≤ inner ∧ (content.leastRoom : Int) ≤ if expand then inner else room
      let content ← if looked then content.shown else pure content
      let padding ← sides.padding.mapError Fault.misuse
      pure (Panel.lines { title, content, padding, align, expand } screen)

end TabCompletion
