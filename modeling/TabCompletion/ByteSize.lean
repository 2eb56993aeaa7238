import TabCompletion.Binary64.Decimal

/-!
# Sizes in bytes

A size is written in the largest unit of which there is at least one: bytes as a whole number,
greater units with one decimal place. A unit is 1024 of the one before it, and the greatest is
used for everything beyond.
-/

namespace TabCompletion.ByteSize

/-- The units, each 1024 times the one before it. -/
def units : List String := ["B", "KB", "MB", "GB", "TB"]

/-- A size in the first of `units` of which it is less than 1024, or in the last. -/
def inUnits (x : Binary64) : List String → Binary64 × String
  | [] => (x, "")
  | [unit] => (x, unit)
  | unit :: next :: rest =>
    if x.atLeast 1024 then inUnits (x.shrink 10) (next :: rest) else (x, unit)

/-- A size as it is written; a size beyond every double has no text. -/
def text? (n : Int) : Option String :=
  (Binary64.ofInt? n).map fun x =>
    let (amount, unit) := inUnits x units
    if unit = "B" then toString amount.truncate ++ " " ++ unit
    else amount.fixed1 ++ " " ++ unit

end TabCompletion.ByteSize
