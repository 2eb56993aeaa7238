import TabCompletion.Json.Parser
import TabCompletion.Text.NameChar

/-!
# Handlers in tags

A tag may hand a value to a handler: the name of the handler, arguments in brackets or both, or a
value alone. A value is literal: a number, a quoted text, one of the words `None`, `True` and
`False`, or a tuple, a set or a map of literal values, where members of a set and keys of a map are
no sets and maps themselves. A number may have a sign, and an imaginary one may be added to a real
one.

* `Handler.takeValue` reads a value.
* `Handler.isWellFormed` tells whether a text hands over what it may.
-/

namespace TabCompletion.Handler

/-! ## Numbers -/

/-- `cs` without the digits at its front, and without single low lines between two digits. -/
def dropDigits (isDigit : Char → Bool) : List Char → List Char
  | [] => []
  | c :: rest =>
    if isDigit c || (c = '_' && (rest.head?.map isDigit).getD false) then dropDigits isDigit rest
    else c :: rest

/-- What follows the digits at the front of a text, if there are any. -/
def afterDigits? (isDigit : Char → Bool) (cs : List Char) : Option (List Char) :=
  if (cs.head?.map isDigit).getD false then some (dropDigits isDigit cs) else none

/-- What follows the exponent at the front of a text, or all of it if there is none. -/
def afterExponent (cs : List Char) : List Char :=
  match cs with
  | 'e' :: rest | 'E' :: rest =>
    let digits := match rest with
      | '+' :: digits | '-' :: digits => digits
      | _ => rest
    (afterDigits? Char.isDigit digits).getD cs
  | _ => cs

/-- The digits of a base that a letter stands for. -/
def digitsOf? : Char → Option (Char → Bool)
  | 'x' | 'X' => some fun c => (Json.Parser.hexDigit? c).isSome
  | 'o' | 'O' => some fun c => '0' ≤ c && c ≤ '7'
  | 'b' | 'B' => some fun c => c = '0' || c = '1'
  | _ => none

/-- What a value is, as far as that decides where it may stand. -/
inductive Kind where
  /-- A real number without a sign. -/
  | real
  /-- An imaginary number without a sign. -/
  | imaginary
  /-- A real number with a sign. -/
  | signed
  /-- Any other value that may be a key. -/
  | key
  /-- A set, a map, or a tuple that holds one. -/
  | collection
  deriving DecidableEq, Repr

/-- The kind of the number whose digits are read, and what follows it. -/
def numberKind (cs : List Char) : Kind × List Char :=
  match cs with
  | 'j' :: rest | 'J' :: rest => (.imaginary, rest)
  | _ => (.real, cs)

/-- The kind of the decimal number at the front of a text, and what follows. A whole real number
starts with zero only if it is zero. -/
def takeDecimal (cs : List Char) : Option (Kind × List Char) :=
  match afterDigits? Char.isDigit cs, cs with
  | none, '.' :: digits =>
    (afterDigits? Char.isDigit digits).map fun rest => numberKind (afterExponent rest)
  | none, _ => none
  | some ('.' :: digits), _ =>
    some (numberKind (afterExponent ((afterDigits? Char.isDigit digits).getD digits)))
  | some rest, _ =>
    let after := afterExponent rest
    let number := numberKind after
    let zeros := (cs.take (cs.length - rest.length)).all fun c => c = '0' || c = '_'
    if after = rest ∧ number.1 = .real ∧ cs.head? = some '0' ∧ !zeros then none else some number

/-- The kind of the number at the front of a text, and what follows. -/
def takeNumber (cs : List Char) : Option (Kind × List Char) :=
  match cs with
  | '0' :: letter :: rest =>
    match digitsOf? letter with
    | some isDigit =>
      let digits := match rest with
        | '_' :: digits => digits
        | _ => rest
      (afterDigits? isDigit digits).map fun rest => (.real, rest)
    | none => takeDecimal cs
  | _ => takeDecimal cs

/-! ## Quoted texts -/

/-- How a text is quoted. -/
structure Quoting where
  quote : Char
  /-- Whether three quotes stand on both sides, between which lines may end. -/
  triple : Bool
  /-- Whether a backslash stands for itself. -/
  raw : Bool
  /-- Whether the text is one of bytes, with characters of ASCII only. -/
  bytes : Bool

/-- Whether a text starts with the code of a character in as many digits as its letter asks
for. -/
def startsWithCode (bytes : Bool) (letter : Char) (cs : List Char) : Bool :=
  let count := match letter with
    | 'x' => 2
    | 'u' => if bytes then 0 else 4
    | 'U' => if bytes then 0 else 8
    | _ => 0
  match (cs.take count).mapM Json.Parser.hexDigit? with
  | some digits => digits.length = count && digits.foldl (fun n d => 16 * n + d) 0 < 0x110000
  | none => false

/-- What follows the closing quote of a text. -/
def afterQuoted? (q : Quoting) : List Char → Option (List Char)
  | [] => none
  | c :: rest =>
    if q.bytes ∧ 0x7F < c.toNat then none
    else if c = q.quote then
      if !q.triple then some rest
      else if [q.quote, q.quote].isPrefixOf rest then some (rest.drop 2)
      else afterQuoted? q rest
    else if c = '\n' ∧ !q.triple then none
    else if c = '\\' then
      match rest with
      | [] => none
      | letter :: more =>
        if q.bytes ∧ 0x7F < letter.toNat then none
        else if q.raw ∨ startsWithCode q.bytes letter more then afterQuoted? q more
        else none
    else afterQuoted? q rest

/-- Whether the quoted text at the front of a text is one of bytes, and what follows it. -/
def takeQuoted (cs : List Char) : Option (Bool × List Char) :=
  let letters := (cs.takeWhile Char.isAlpha).map Char.toLower
  let known := ["", "r", "u", "b", "br", "rb"].contains (String.ofList letters)
  match cs.drop letters.length with
  | quote :: rest =>
    if !known ∨ (quote ≠ '"' ∧ quote ≠ '\'') then none
    else
      let triple := [quote, quote].isPrefixOf rest
      let bytes := letters.contains 'b'
      let q : Quoting := { quote, triple, raw := letters.contains 'r', bytes }
      (afterQuoted? q (if triple then rest.drop 2 else rest)).map fun rest => (bytes, rest)
  | [] => none

/-! ## Values -/

/-- A text without the blanks at its front. -/
def skipBlanks (cs : List Char) : List Char :=
  cs.dropWhile fun c => [' ', '\t', '\n', '\r', '\x0c'].contains c

/-- What follows the quoted texts at the front of a text, which are all of bytes or none. `fuel`
counts the texts. -/
def afterTexts? : Nat → List Char → Option (List Char)
  | 0, _ => none
  | fuel + 1, cs => do
    let (bytes, rest) ← takeQuoted cs
    match takeQuoted (skipBlanks rest) with
    | none => pure rest
    | some (more, _) => if bytes = more then afterTexts? fuel (skipBlanks rest) else none

/-- The kind of the word at the front of a text, and what follows. -/
def takeWord (cs : List Char) : Option (Kind × List Char) :=
  match cs with
  | '.' :: '.' :: '.' :: rest => some (.key, rest)
  | _ =>
    let word := String.ofList (cs.takeWhile fun c => c.isAlphanum || c = '_')
    let rest := cs.drop word.length
    if ["None", "True", "False"].contains word then some (.key, rest)
    else if word = "set" then
      match skipBlanks rest with
      | '(' :: rest =>
        match skipBlanks rest with
        | ')' :: rest => some (.collection, rest)
        | _ => none
      | _ => none
    else none

/-- The kind of the number, text or word at the front of a text, and what follows. -/
def takePlain (cs : List Char) : Option (Kind × List Char) :=
  (takeNumber cs).or
    (((afterTexts? (cs.length + 1) cs).map fun rest => (.key, rest)).or (takeWord cs))

/-- The kind of a tuple. -/
def tupleKind (items : List Kind) : Kind :=
  if items.contains .collection then .collection else .key

mutual

/-- The kind of the value at the front of a text, and what follows. `fuel` counts the steps. -/
def takeValue : Nat → List Char → Option (Kind × List Char)
  | 0, _ => none
  | fuel + 1, cs => do
    let (left, rest) ← takeSigned fuel (skipBlanks cs)
    match skipBlanks rest with
    | '+' :: more | '-' :: more => do
      let (right, rest) ← takeSigned fuel (skipBlanks more)
      if (left = .real ∨ left = .signed) ∧ right = .imaginary then pure (.key, rest) else none
    | _ => pure (left, rest)

/-- The kind of the value, of a number with its sign, and what follows. -/
def takeSigned : Nat → List Char → Option (Kind × List Char)
  | 0, _ => none
  | fuel + 1, cs =>
    match cs with
    | '+' :: rest | '-' :: rest =>
      match takeUnit fuel (skipBlanks rest) with
      | some (.real, rest) => some (.signed, rest)
      | some (.imaginary, rest) => some (.key, rest)
      | _ => none
    | _ => takeUnit fuel cs

/-- The kind of the value without a sign, and what follows. -/
def takeUnit : Nat → List Char → Option (Kind × List Char)
  | 0, _ => none
  | fuel + 1, cs =>
    match cs with
    | '(' :: rest =>
      match skipBlanks rest with
      | ')' :: rest => some (.key, rest)
      | inner => do
        let (kind, rest) ← takeValue fuel inner
        match skipBlanks rest with
        | ')' :: rest => pure (kind, rest)
        | ',' :: rest => do
          let (items, rest) ← takeItems fuel ')' rest
          pure (tupleKind (kind :: items), rest)
        | _ => none
    | '{' :: rest =>
      match skipBlanks rest with
      | '}' :: rest => some (.collection, rest)
      | inner => do
        let (kind, rest) ← takeValue fuel inner
        if kind = .collection then none
        else match skipBlanks rest with
          | '}' :: rest => pure (.collection, rest)
          | ',' :: rest => do
            let (items, rest) ← takeItems fuel '}' rest
            if items.contains .collection then none else pure (.collection, rest)
          | ':' :: rest => do
            let (_, rest) ← takeValue fuel rest
            let rest ← afterEntries? fuel rest
            pure (.collection, rest)
          | _ => none
    | _ => takePlain cs

/-- The kinds of the values behind a comma up to a closing bracket, and what follows. -/
def takeItems : Nat → Char → List Char → Option (List Kind × List Char)
  | 0, _, _ => none
  | fuel + 1, close, cs =>
    let inner := skipBlanks cs
    if inner.head? = some close then some ([], inner.drop 1)
    else do
      let (kind, rest) ← takeValue fuel inner
      match skipBlanks rest with
      | c :: rest =>
        if c = ',' then do
          let (items, rest) ← takeItems fuel close rest
          pure (kind :: items, rest)
        else if c = close then pure ([kind], rest)
        else none
      | [] => none

/-- What follows the rest of a map, of which an entry is read. -/
def afterEntries? : Nat → List Char → Option (List Char)
  | 0, _ => none
  | fuel + 1, cs =>
    match skipBlanks cs with
    | '}' :: rest => some rest
    | ',' :: rest =>
      match skipBlanks rest with
      | '}' :: rest => some rest
      | inner => do
        let (kind, rest) ← takeValue fuel inner
        match skipBlanks rest with
        | ':' :: rest => do
          let (_, rest) ← takeValue fuel rest
          if kind = .collection then none else afterEntries? fuel rest
        | _ => none
    | _ => none

end

/-- Whether a text in brackets is a value. -/
def isValue (cs : List Char) : Bool :=
  match takeValue (4 * cs.length + 20) ('(' :: cs ++ [')']) with
  | some (_, []) => true
  | _ => false

/-- Whether a character may stand in the name of a handler. -/
def isNameChar (c : Char) : Bool := c.isAlphanum || c = '_' || c = '.' || (0x7F < c.toNat &&
  Text.isNameChar c)

/-- Whether a text hands over what it may: a name, or a value, which stands in brackets if there is
a name in front. -/
def isWellFormed (text : String) : Bool :=
  let cs := text.toList
  let arguments := cs.dropWhile isNameChar
  if arguments.isEmpty then true
  else if arguments.head? = some '(' ∧ arguments.getLast? = some ')' ∧ !arguments.contains '\n' then
    isValue arguments
  else isValue cs

end TabCompletion.Handler
