/-!
# Double-precision numbers, exactly

A double is a value of the format's domain: not a number, one of the infinities, or an integer
mantissa times a power of two. All arithmetic here is exact arithmetic on that mantissa and
exponent, rounded once, to the nearest value with ties to the even mantissa.

* `ofRatio` is the double nearest to a quotient of naturals.
* `ofInt?` fails exactly where the nearest double would be infinite.
* `shrink` divides by a power of two, which changes the exponent alone.
-/

namespace TabCompletion

/-- A double-precision number; `finite negative m e` stands for `± m * 2 ^ e`. -/
inductive Binary64 where
  | nan
  | infinity (negative : Bool)
  | finite (negative : Bool) (mantissa : Nat) (exponent : Int)
  deriving DecidableEq, Repr

/-- The natural number nearest to `n / d`, a tie going to the even one. -/
def roundHalfEven (n d : Nat) : Nat :=
  let q := n / d
  let r := n % d
  if 2 * r < d then q
  else if d < 2 * r then q + 1
  else q + q % 2

/-- The natural number `n` itself, when it is divided by one. -/
@[simp] theorem roundHalfEven_one (n : Nat) : roundHalfEven n 1 = n := by
  simp [roundHalfEven, Nat.mod_one]

namespace Binary64

/-- Two to the power `k`. -/
def twoTo (k : Nat) : Nat := Nat.pow 2 k

/-- Ten to the power `k`. -/
def tenTo (k : Nat) : Nat := Nat.pow 10 k

/-- The least exponent of a finite double. -/
def minExponent : Int := -1074

/-- The greatest exponent of a finite double with a full mantissa. -/
def maxExponent : Int := 971

/-- `num / den` over `2 ^ e`, as a quotient of naturals. -/
def scaled (num den : Nat) (e : Int) : Nat × Nat :=
  (num * twoTo (-e).toNat, den * twoTo e.toNat)

/-- The exponent at which `num / den` has a mantissa of 53 bits, or the least one. -/
def exponentFor (num den : Nat) : Int :=
  let guess : Int := (num.log2 : Int) - den.log2 - 53
  let (n, d) := scaled num den guess
  max minExponent (if n / d < twoTo 53 then guess else guess + 1)

/-- The double nearest to `± num / den`. -/
def ofRatio (negative : Bool) (num den : Nat) : Binary64 :=
  if num = 0 then .finite negative 0 minExponent
  else
    let e := exponentFor num den
    let (n, d) := scaled num den e
    let m := roundHalfEven n d
    let (m, e) := if m = twoTo 53 then (twoTo 52, e + 1) else (m, e)
    if maxExponent < e then .infinity negative else .finite negative m e

/-- Zero. -/
def zero : Binary64 := .finite false 0 minExponent

/-- One. -/
def one : Binary64 := ofRatio false 1 1

/-- The double nearest to an integer, unless that is an infinity. -/
def ofInt? (n : Int) : Option Binary64 :=
  match ofRatio (decide (n < 0)) n.natAbs 1 with
  | .finite s m e => some (.finite s m e)
  | _ => none

/-- Zero of either sign. -/
def isZero : Binary64 → Bool
  | .finite _ 0 _ => true
  | _ => false

/-- Greater than zero, which a number that is none is not. -/
def isPositive : Binary64 → Bool
  | .nan => false
  | .infinity negative => !negative
  | .finite negative m _ => !negative && m != 0

/-- The number divided by `2 ^ k`, for a number too large to lose bits by it. -/
def shrink (k : Nat) : Binary64 → Binary64
  | .finite s m e => .finite s m (e - k)
  | x => x

/-- The size of a finite number as a quotient of naturals; others count as zero. -/
def ratio : Binary64 → Nat × Nat
  | .finite _ m e => (m * twoTo e.toNat, twoTo (-e).toNat)
  | _ => (0, 1)

/-- Whether the number is at least the natural `n`. -/
def atLeast (x : Binary64) (n : Nat) : Bool :=
  match x with
  | .nan => false
  | .infinity negative => !negative
  | .finite true m _ => m == 0 && n == 0
  | .finite false _ _ => n * x.ratio.2 ≤ x.ratio.1

/-- The integer part of a finite number, towards zero. -/
def truncate (x : Binary64) : Int :=
  let n : Int := x.ratio.1 / x.ratio.2
  match x with
  | .finite true _ _ => -n
  | _ => n

end Binary64

end TabCompletion
