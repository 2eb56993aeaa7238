import TabCompletion.Binary64.Basic
import TabCompletion.Text.Quoted
import TabCompletion.Text.Digit
import TabCompletion.Text.Blank

/-!
# Doubles in decimal

Reading: a decimal is turned into a quotient of naturals and that is rounded once. `ofDecimal` is
the value of digits and a power of ten; `ofText?` reads what a person may write for a number.

Writing: `shortest` picks the fewest digits that read back as the same double and, of those, the
nearest to it. `text` writes them positionally from 0.0001 up to below 10^16 and with an exponent
of at least two digits elsewhere; a whole number keeps `.0`. `fixed1` writes one decimal place, a
tie going to the even digit.
-/

namespace TabCompletion.Binary64

/-! ## Reading -/

/-- The double nearest to `± digits * 10 ^ exponent`. Powers beyond every double are answered
without being computed. -/
def ofDecimal (negative : Bool) (digits : Nat) (exponent : Int) : Binary64 :=
  let size : Int := exponent + (Nat.toDigits 10 digits).length
  if digits = 0 ∨ size < -330 then .finite negative 0 minExponent
  else if 310 < size then .infinity negative
  else ofRatio negative (digits * tenTo exponent.toNat) (tenTo (-exponent).toNat)

/-- The leading ASCII digits of `cs` and what follows them. -/
def takeDigits (cs : List Char) : List Char × List Char :=
  (cs.takeWhile Char.isDigit, cs.dropWhile Char.isDigit)

/-- The value of a list of ASCII digits. -/
def digitsValue (ds : List Char) : Nat :=
  ds.foldl (fun n d => 10 * n + (d.toNat - '0'.toNat)) 0

/-- A sign at the front: whether it is a minus, and what follows. -/
def takeSign : List Char → Bool × List Char
  | '-' :: rest => (true, rest)
  | '+' :: rest => (false, rest)
  | cs => (false, cs)

/-- The value of an exponent part that spans all of `cs`; no exponent part counts as zero. -/
def exponent? : List Char → Option Int
  | [] => some 0
  | c :: rest =>
    if c = 'e' ∨ c = 'E' then
      let (negative, body) := takeSign rest
      if body.isEmpty || !(body.all Char.isDigit) then none
      else some (if negative then -(digitsValue body : Int) else digitsValue body)
    else none

/-- An unsigned decimal with an optional point and exponent. -/
def unsigned? (negative : Bool) (cs : List Char) : Option Binary64 :=
  let (whole, rest) := takeDigits cs
  let (places, rest) := match rest with
    | '.' :: r => takeDigits r
    | r => ([], r)
  if whole.isEmpty && places.isEmpty then none
  else (exponent? rest).map fun e =>
    ofDecimal negative (digitsValue (whole ++ places)) (e - places.length)

/-- Whether every underscore stands between two digits; `before` says that a digit precedes. -/
def underscoresFit (before : Bool) : List Char → Bool
  | [] => true
  | '_' :: rest => before && ((rest.head?.map Char.isDigit).getD false) && underscoresFit false rest
  | c :: rest => underscoresFit c.isDigit rest

/-- Foreign digits as ASCII digits and foreign blanks as spaces. -/
def plainChar (c : Char) : Char :=
  if c.toNat < 0x80 then c
  else if Text.isBlank c then ' '
  else match Text.digitValue? c with
    | some d => Char.ofNat ('0'.toNat + d)
    | none => c

/-- The blanks that may stand around a number. -/
def isOuterBlank (c : Char) : Bool :=
  c = ' ' || decide (0x09 ≤ c.toNat ∧ c.toNat ≤ 0x0D)

/-- The number that a text writes: a decimal with optional sign, point and exponent, `inf`,
`infinity` or `nan` in any case, with blanks around it and single underscores between digits. -/
def ofText? (s : String) : Option Binary64 :=
  let cs := Text.trimWith isOuterBlank (s.toList.map plainChar)
  if !(underscoresFit false cs) then none
  else
    let (negative, body) := takeSign (cs.filter (· ≠ '_'))
    let word := String.ofList (body.map Char.toLower)
    if word = "inf" ∨ word = "infinity" then some (.infinity negative)
    else if word = "nan" then some .nan
    else unsigned? negative body

/-! ## The shortest digits that read back -/

/-- The power of ten just above the quotient `num / den`: `10 ^ (p - 1) ≤ num / den < 10 ^ p`. -/
def decimalPoint (num den : Nat) : Int :=
  if den ≤ num then (Nat.toDigits 10 (num / den)).length
  else
    let d := (Nat.toDigits 10 (den / num)).length
    if num * tenTo (d - 1) = den then 2 - (d : Int) else 1 - (d : Int)

/-- The reals that round to a positive double, as numerators over one denominator. -/
structure Interval where
  low : Nat
  value : Nat
  high : Nat
  den : Nat
  closed : Bool

/-- The interval of `m * 2 ^ e`: half a step to both sides, a quarter below a power of two, with
its ends if `m` is even. -/
def interval (m : Nat) (e : Int) : Interval :=
  let unit := twoTo (e - 2).toNat
  { low := (4 * m - (if m = twoTo 52 ∧ minExponent < e then 1 else 2)) * unit
    value := 4 * m * unit
    high := (4 * m + 2) * unit
    den := twoTo (2 - e).toNat
    closed := m % 2 == 0 }

/-- Whether `c * 10 ^ k` lies in the interval. -/
def Interval.holds (i : Interval) (c : Nat) (k : Int) : Bool :=
  let x := c * tenTo k.toNat * i.den
  let s := tenTo (-k).toNat
  if i.closed then i.low * s ≤ x && x ≤ i.high * s else i.low * s < x && x < i.high * s

/-- The multiple of `10 ^ k` that lies in the interval, the nearest to its value of the two
around it. -/
def Interval.pick? (i : Interval) (k : Int) : Option Nat :=
  let num := i.value * tenTo (-k).toNat
  let den := i.den * tenTo k.toNat
  let c := num / den
  match i.holds c k, i.holds (c + 1) k with
  | true, true => some (roundHalfEven num den)
  | true, false => some c
  | false, true => some (c + 1)
  | false, false => none

/-- The first of the grids `10 ^ (p - n)`, `n = first, …`, with a point in the interval; the
seventeenth always has one. -/
def Interval.search (i : Interval) (p : Int) : Nat → Nat → Nat × Int
  | 0, n => (i.value / i.den, p - n)
  | fuel + 1, n =>
    match i.pick? (p - n) with
    | some c => (c, p - n)
    | none => i.search p fuel (n + 1)

/-- The fewest digits that read back as `m * 2 ^ e`, without zeros at the end, and the place of
the decimal point before them: the value is `0.digits * 10 ^ point`. -/
def shortest (m : Nat) (e : Int) : List Char × Int :=
  let i := interval m e
  let (c, k) := i.search (decimalPoint i.value i.den) 17 1
  let digits := Nat.toDigits 10 c
  (Text.trimRight (· = '0') digits, digits.length + k)

/-! ## Writing -/

/-- Digits with the decimal point at `point`, or in exponent form. -/
def layout (digits : List Char) (point : Int) : List Char :=
  if -4 < point ∧ point ≤ 16 then
    if point ≤ 0 then
      '0' :: '.' :: List.replicate (-point).toNat '0' ++ digits
    else if digits.length ≤ point.toNat then
      digits ++ List.replicate (point.toNat - digits.length) '0' ++ ['.', '0']
    else digits.take point.toNat ++ '.' :: digits.drop point.toNat
  else
    let power := point - 1
    let places := Nat.toDigits 10 power.natAbs
    digits.take 1 ++ (if digits.length = 1 then [] else '.' :: digits.drop 1) ++
      ['e', if power < 0 then '-' else '+'] ++
      List.replicate (2 - places.length) '0' ++ places

/-- The sign of a finite number as text. -/
def sign (negative : Bool) : String := if negative then "-" else ""

/-- The number in the fewest digits that read back. -/
def text : Binary64 → String
  | .nan => "nan"
  | .infinity negative => sign negative ++ "inf"
  | .finite negative 0 _ => sign negative ++ "0.0"
  | .finite negative m e =>
    let (digits, point) := shortest m e
    sign negative ++ String.ofList (layout digits point)

/-- The number with one decimal place, a tie going to the even digit. -/
def fixed1 : Binary64 → String
  | .nan => "nan"
  | .infinity negative => sign negative ++ "inf"
  | .finite negative m e =>
    let (num, den) := ratio (.finite negative m e)
    let tenths := roundHalfEven (10 * num) den
    sign negative ++ toString (tenths / 10) ++ "." ++ toString (tenths % 10)

end TabCompletion.Binary64
