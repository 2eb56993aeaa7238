import TabCompletion.Query

/-!
# Padding

The blank lines and cells around what stands in a panel. A padding is configured as one value for
all sides, or as one, two or four of them: for all sides, for the ends and the flanks, or from the
top clockwise. Any value may be given for a side, and what is no number is refused only where it is
put to use.

* `Sides.ofJson` are the sides of a configured padding.
* `Sides.checkFlanks` refuses flanks that cannot be taken off a width.
* `Sides.padding` is the padding the sides make, or the first use that fails.
-/

namespace TabCompletion

/-- Blank lines and cells around a content; a negative number leaves out as many at the end. -/
structure Padding where
  top : Int := 0
  right : Int := 0
  bottom : Int := 0
  left : Int := 0
  deriving DecidableEq, Repr

/-- The sides of a padding as they are given. -/
structure Sides where
  top : Json
  right : Json
  bottom : Json
  left : Json
  deriving DecidableEq, Repr

namespace Json

/-- The whole number that a value is. -/
def whole? : Json → Option Int
  | .int n => some n
  | .bool b => some (if b then 1 else 0)
  | _ => none

/-- Whether a value is a number with places. -/
def isReal : Json → Bool
  | .real _ => true
  | _ => false

/-- Whether a value is a number. -/
def isNumber (v : Json) : Bool := v.isReal || v.whole?.isSome

end Json

namespace Sides

/-- The same value for all sides. -/
def all (v : Json) : Sides := ⟨v, v, v, v⟩

/-- The sides of a padding. Without one there is a blank at both flanks. -/
def ofJson (v : Json) : Except Fault Sides :=
  match v, v.parts? with
  | .null, _ => .ok ⟨.int 0, .int 1, .int 0, .int 1⟩
  | .int _, _ | .bool _, _ => .ok (all v)
  | v, none => .error (.misuse (.size v))
  | v, some [_] => ((v.partAt 0).mapError .misuse).map all
  | _, some [ends, flanks] => .ok ⟨ends, flanks, ends, flanks⟩
  | _, some [top, right, bottom, left] => .ok ⟨top, right, bottom, left⟩
  | _, some parts => .error (.paddingSides parts.length)

/-- The first misuse of the flanks where the width of the content is measured: they are added up
and taken off the width. -/
def misuseMeasured? (s : Sides) : Option Misuse :=
  if s.left.isNumber && s.right.isNumber then none
  else match s.left, s.right with
    | .text _, .text _ | .list _, .list _ => some (.difference (.int 0) s.left)
    | _, _ => some (.sum s.left s.right)

/-- The first misuse of the flanks where the width is given: each is taken off it. -/
def misuseGiven? (s : Sides) : Option Misuse :=
  if !s.left.isNumber then some (.difference (.int 0) s.left)
  else if !s.right.isNumber then
    some (.difference (if s.left.isReal then s.left else .int 0) s.right)
  else none

/-- The first of some sides that cannot be repeated, as only a whole number can. -/
def unrepeatable? (sides : List Json) : Option Misuse :=
  (sides.find? fun v => v.whole?.isNone).map .repetition

/-- Whether there is any padding: sides that all count as no make none. -/
def padded (s : Sides) : Bool := [s.top, s.right, s.bottom, s.left].any (·.truthy)

/-- Refuses flanks that cannot be taken off a width, which is `measured` or given. -/
def checkFlanks (s : Sides) (measured : Bool) : Except Misuse Unit :=
  match if measured then s.misuseMeasured? else s.misuseGiven? with
  | some m => if s.padded then .error m else .ok ()
  | none => .ok ()

/-- The cells that a side takes. -/
def cells (v : Json) : Int := v.whole?.getD 0

/-- The padding of the given sides. -/
def padding (s : Sides) : Except Misuse Padding :=
  if s.padded then
    match unrepeatable? ([s.left, s.right] ++ [s.top, s.bottom].filter (·.truthy)) with
    | some m => .error m
    | none => .ok ⟨cells s.top, cells s.right, cells s.bottom, cells s.left⟩
  else .ok {}

end Sides

end TabCompletion
