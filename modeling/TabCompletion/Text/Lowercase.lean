import TabCompletion.Text.CaseTable

/-!
# Lower case

Full lower-casing of a text. Each character maps by the case table, the dotted capital I becomes
two characters, and a capital sigma becomes a final sigma where it ends a word: after a cased
letter and not before one, characters of `caseIgnorableRanges` being passed over on both sides.
-/

namespace TabCompletion.Text

/-- The lower-case character of a capital with one; any other character is its own. -/
def lowerChar (c : Char) : Char :=
  if c.toNat < 0x80 then c.toLower
  else match capitalRuns.find? fun r =>
      r.first ≤ c.toNat && c.toNat ≤ r.last && (c.toNat - r.first) % r.step == 0 with
    | some r => Char.ofNat (c.toNat + r.shift).toNat
    | none => c

/-- Passed over when the surroundings of a sigma are looked at. -/
def isCaseIgnorable (c : Char) : Bool := caseIgnorableRanges.has c.toNat

/-- A letter that has a case. -/
def isCased (c : Char) : Bool := casedRanges.has c.toNat

/-- Whether the first character that is not passed over is a cased letter. -/
def meetsCased (cs : List Char) : Bool :=
  ((cs.dropWhile isCaseIgnorable).head?.map isCased).getD false

/-- Lower-casing of `cs`, whose text to the left is `before`, nearest character first. -/
def lowerFrom (before : List Char) : List Char → List Char
  | [] => []
  | c :: rest =>
    let here :=
      if c = 'Σ' then [if meetsCased before && !(meetsCased rest) then 'ς' else 'σ']
      else if c = 'İ' then ['i', '\u0307']
      else [lowerChar c]
    here ++ lowerFrom (c :: before) rest

/-- The text in lower case. -/
def lower (s : String) : String := String.ofList (lowerFrom [] s.toList)

/-- The text in capitals as far as the names written in ASCII capitals go: the two characters
above ASCII whose capital is an ASCII letter map to it. Other characters above ASCII stay. -/
def capitals (s : String) : String :=
  s.map fun c => if c = 'ı' then 'I' else if c = 'ſ' then 'S' else c.toUpper

end TabCompletion.Text
