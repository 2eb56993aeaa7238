import TabCompletion.Json.Basic
import TabCompletion.Binary64.Decimal

/-!
# Reading JSON

A reader takes the text ahead and gives a result with the text that follows it.

The grammar of JSON with the three words `NaN`, `Infinity` and `-Infinity` for numbers that have
no digits. A number with a point or an exponent is a double, any other a whole number. A text that
ends in more than blanks after its value is malformed, and so is one that starts with a byte order
mark, as no value does.

Out of scope: texts with half of a surrogate pair. An escape that stands for one is read as the
replacement character. How far lists and objects may be nested is not bounded.
-/

namespace TabCompletion.Json

/-- Why a text is no JSON value. -/
inductive ParseFault where
  | malformed
  | longInteger (digits : Nat)
  deriving DecidableEq, Repr

namespace Parser

/-- The whole numbers that are read have at most this many digits. -/
def maxIntegerDigits : Nat := 4300

/-- The blanks between the parts of a value. -/
def isSpace (c : Char) : Bool := c = ' ' || c = '\t' || c = '\n' || c = '\r'

/-- The text after the blanks at its front. -/
def skipSpaces (cs : List Char) : List Char := cs.dropWhile isSpace

/-- The text after `word`, if it starts with it. -/
def word? (word : String) (cs : List Char) : Option (List Char) :=
  if word.toList.isPrefixOf cs then some (cs.drop word.length) else none

/-- The value of a hexadecimal digit. -/
def hexDigit? (c : Char) : Option Nat :=
  if '0' ≤ c ∧ c ≤ '9' then some (c.toNat - '0'.toNat)
  else if 'a' ≤ c ∧ c ≤ 'f' then some (c.toNat - 'a'.toNat + 10)
  else if 'A' ≤ c ∧ c ≤ 'F' then some (c.toNat - 'A'.toNat + 10)
  else none

/-- Four hexadecimal digits. -/
def hex4? : List Char → Option (Nat × List Char)
  | a :: b :: c :: d :: rest => do
    let a ← hexDigit? a
    let b ← hexDigit? b
    let c ← hexDigit? c
    let d ← hexDigit? d
    pure (((a * 16 + b) * 16 + c) * 16 + d, rest)
  | _ => none

/-- The character of a code unit escape, whose second half follows if it is the first of a pair.
Half a pair alone stands for the replacement character. -/
def unicodeEscape? (cs : List Char) : Option (Char × List Char) := do
  let (high, rest) ← hex4? cs
  if 0xD800 ≤ high ∧ high < 0xDC00 then
    match rest with
    | '\\' :: 'u' :: after =>
      match hex4? after with
      | some (low, rest') =>
        if 0xDC00 ≤ low ∧ low < 0xE000 then
          pure (Char.ofNat (0x10000 + (high - 0xD800) * 0x400 + (low - 0xDC00)), rest')
        else pure ('\uFFFD', rest)
      | none => pure ('\uFFFD', rest)
    | _ => pure ('\uFFFD', rest)
  else if 0xDC00 ≤ high ∧ high < 0xE000 then pure ('\uFFFD', rest)
  else pure (Char.ofNat high, rest)

/-- The character of an escape, after its backslash. -/
def escape? : List Char → Option (Char × List Char)
  | '"' :: rest => some ('"', rest)
  | '\\' :: rest => some ('\\', rest)
  | '/' :: rest => some ('/', rest)
  | 'b' :: rest => some ('\x08', rest)
  | 'f' :: rest => some ('\x0c', rest)
  | 'n' :: rest => some ('\n', rest)
  | 'r' :: rest => some ('\r', rest)
  | 't' :: rest => some ('\t', rest)
  | 'u' :: rest => unicodeEscape? rest
  | _ => none

/-- The characters of a text up to its closing quote; `taken` holds those read already, last
first. -/
def stringBody (fuel : Nat) (taken : List Char) (cs : List Char) :
    Except ParseFault (String × List Char) :=
  match fuel, cs with
  | _, '"' :: rest => .ok (String.ofList taken.reverse, rest)
  | fuel + 1, '\\' :: rest =>
    match escape? rest with
    | some (c, rest') => stringBody fuel (c :: taken) rest'
    | none => .error .malformed
  | fuel + 1, c :: rest =>
    if c.toNat < 0x20 then .error .malformed else stringBody fuel (c :: taken) rest
  | _, _ => .error .malformed

/-- The exponent of a number, if one stands here. -/
def exponentPart (cs : List Char) : Option (Int × List Char) :=
  match cs with
  | c :: rest =>
    if c = 'e' ∨ c = 'E' then
      let (negative, body) := Binary64.takeSign rest
      let (digits, after) := Binary64.takeDigits body
      if digits.isEmpty then none
      else
        let n : Int := Binary64.digitsValue digits
        some (if negative then -n else n, after)
    else none
  | [] => none

/-- The places after the point of a number, if it has any. -/
def fractionPart : List Char → List Char × List Char
  | '.' :: rest =>
    let (digits, after) := Binary64.takeDigits rest
    if digits.isEmpty then ([], '.' :: rest) else (digits, after)
  | cs => ([], cs)

/-- The whole part of a number: one zero, or digits of which the first is none. -/
def wholePart (cs : List Char) : List Char × List Char :=
  match cs with
  | '0' :: rest => (['0'], rest)
  | _ => Binary64.takeDigits cs

/-- A number. -/
def number (cs : List Char) : Except ParseFault (Json × List Char) :=
  let (negative, body) := match cs with
    | '-' :: rest => (true, rest)
    | _ => (false, cs)
  let (whole, rest) := wholePart body
  if whole.isEmpty then .error .malformed
  else
    let (places, rest) := fractionPart rest
    match exponentPart rest with
    | some (e, rest) =>
      .ok (.real (Binary64.ofDecimal negative (Binary64.digitsValue (whole ++ places))
        (e - places.length)), rest)
    | none =>
      if places.isEmpty then
        if maxIntegerDigits < whole.length then .error (.longInteger whole.length)
        else
          let n : Int := Binary64.digitsValue whole
          .ok (.int (if negative then -n else n), rest)
      else
        .ok (.real (Binary64.ofDecimal negative (Binary64.digitsValue (whole ++ places))
          (-(places.length : Int))), rest)

/-- The words that stand for a value, each with that value. -/
def words : List (String × Json) :=
  [("null", .null), ("true", .bool true), ("false", .bool false), ("NaN", .real .nan),
   ("Infinity", .real (.infinity false)), ("-Infinity", .real (.infinity true))]

/-- A word or a number. -/
def scalar (cs : List Char) : Except ParseFault (Json × List Char) :=
  match words.findSome? fun w => (word? w.1 cs).map fun rest => (w.2, rest) with
  | some found => .ok found
  | none => number cs

mutual
/-- A value, at the first character of it. The fuel bounds the depth of calls. -/
def value (fuel : Nat) (cs : List Char) : Except ParseFault (Json × List Char) :=
  match fuel, cs with
  | fuel + 1, '"' :: rest => do
    let (s, rest) ← stringBody fuel [] rest
    pure (.text s, rest)
  | fuel + 1, '[' :: rest =>
    match skipSpaces rest with
    | ']' :: rest => pure (.list [], rest)
    | rest => do
      let (items, rest) ← elements fuel rest
      pure (.list items, rest)
  | fuel + 1, '\x7b' :: rest =>
    match skipSpaces rest with
    | '\x7d' :: rest => pure (.object [], rest)
    | rest => do
      let (pairs, rest) ← members fuel rest
      pure (.object (Members.ofList pairs), rest)
  | _ + 1, cs => scalar cs
  | 0, _ => .error .malformed

/-- The items of a list from the first character of one up to the closing bracket. -/
def elements (fuel : Nat) (cs : List Char) : Except ParseFault (List Json × List Char) :=
  match fuel with
  | fuel + 1 => do
    let (v, rest) ← value fuel cs
    match skipSpaces rest with
    | ',' :: rest => do
      let (vs, rest) ← elements fuel (skipSpaces rest)
      pure (v :: vs, rest)
    | ']' :: rest => pure ([v], rest)
    | _ => .error .malformed
  | 0 => .error .malformed

/-- The members of an object from the quote of a name up to the closing bracket. -/
def members (fuel : Nat) (cs : List Char) :
    Except ParseFault (List (String × Json) × List Char) :=
  match fuel, cs with
  | fuel + 1, '"' :: rest => do
    let (k, rest) ← stringBody fuel [] rest
    match skipSpaces rest with
    | ':' :: rest => do
      let (v, rest) ← value fuel (skipSpaces rest)
      match skipSpaces rest with
      | ',' :: rest => do
        let (more, rest) ← members fuel (skipSpaces rest)
        pure ((k, v) :: more, rest)
      | '\x7d' :: rest => pure ([(k, v)], rest)
      | _ => .error .malformed
    | _ => .error .malformed
  | _, _ => .error .malformed
end

end Parser

/-- The value that a text writes. Two units of fuel for each character are enough, as every second
call at least takes one. -/
def parse (s : String) : Except ParseFault Json := do
  let cs := s.toList
  let (v, rest) ← Parser.value (2 * cs.length + 2) (Parser.skipSpaces cs)
  if (Parser.skipSpaces rest).isEmpty then pure v else .error .malformed

end TabCompletion.Json
