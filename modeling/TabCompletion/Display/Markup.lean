import TabCompletion.Json.Parser
import TabCompletion.Text.Lines
import TabCompletion.Text.NameChar

/-!
# Marked-up text

The text of a prompt, in which elements set the style of what they enclose. It has to be well
formed (XML 1.0 with namespaces): every element is closed inside the one that it was opened in, its
attributes have values in quotes and each its own name, prefixes are declared, and references stand
for characters. Comments, instructions and quoted sections have no style and are refused, and so
are colours with a blank in them.

* `Markup.pieces` cuts a text into pieces; `none` where it is not well formed.
* `Markup.nests` tells whether the pieces close what they open.
* `Markup.check` is the first fault of a text.
-/

namespace TabCompletion

/-- Why marked-up text cannot be shown. -/
inductive MarkupFault where
  | malformed
  /-- A comment, an instruction or a quoted section. -/
  | unstyled
  /-- A colour with a blank in it. -/
  | spacedColour (attribute_ : String)
  deriving DecidableEq, Repr

/-- The wording of a fault of marked-up text. -/
def MarkupFault.message : MarkupFault → String
  | .spacedColour attribute_ => "\"" ++ attribute_ ++ "\" attribute contains a space."
  | .malformed | .unstyled => ""

namespace Markup

/-! ## Characters and names -/

/-- Whether a character separates the parts of a tag. -/
def isSpace (c : Char) : Bool := c = ' ' || c = '\t' || c = '\n' || c = '\r'

/-- Whether a character may stand in marked-up text. -/
def isAllowed (c : Char) : Bool :=
  isSpace c || (0x20 ≤ c.toNat && c.toNat ≠ 0xFFFE && c.toNat ≠ 0xFFFF)

/-- A name without a colon at the front of a text, and what follows. -/
def takePlainName : List Char → Option (List Char × List Char)
  | [] => none
  | c :: rest =>
    if Text.isNameStart c then
      some (c :: rest.takeWhile Text.isNameChar, rest.dropWhile Text.isNameChar)
    else none

/-- A name, maybe behind a prefix and a colon, at the front of a text, and what follows. -/
def takeName (cs : List Char) : Option (String × List Char) := do
  let (first, rest) ← takePlainName cs
  match rest with
  | ':' :: rest => do
    let (second, rest) ← takePlainName rest
    pure (String.ofList (first ++ ':' :: second), rest)
  | rest => pure (String.ofList first, rest)

/-- The prefix and the rest of a name. -/
def splitName (name : String) : String × String :=
  match Text.splitOn ":" name with
  | [before, after] => (before, after)
  | _ => ("", name)

/-! ## References -/

/-- The names that stand for characters. -/
def namedCharacters : List (String × Char) :=
  [("amp", '&'), ("lt", '<'), ("gt", '>'), ("quot", '"'), ("apos", '\'')]

/-- The character with a number in the digits of a base. -/
def numberedCharacter (base : Nat) (digit? : Char → Option Nat) (cs : List Char) : Option Char := do
  let digits ← cs.mapM digit?
  let n := digits.foldl (fun n d => base * n + d) 0
  if h : n.isValidChar then
    let c := Char.ofNatAux n h
    if isAllowed c then some c else none
  else none

/-- The value of a decimal digit. -/
def decimalDigit? (c : Char) : Option Nat := if c.isDigit then some (c.toNat - 0x30) else none

/-- The character that a reference stands for, of which the ampersand is read, and what follows. -/
def takeReference (cs : List Char) : Option (Char × List Char) :=
  let body := cs.takeWhile (· ≠ ';')
  match body, cs.dropWhile (· ≠ ';') with
  | '#' :: 'x' :: digit :: digits, _ :: rest =>
    (numberedCharacter 16 Json.Parser.hexDigit? (digit :: digits)).map fun c => (c, rest)
  | '#' :: digit :: digits, _ :: rest =>
    (numberedCharacter 10 decimalDigit? (digit :: digits)).map fun c => (c, rest)
  | name, _ :: rest =>
    (namedCharacters.lookup (String.ofList name)).map fun c => (c, rest)
  | _, [] => none

/-! ## Tags -/

/-- The value of an attribute up to its closing quote, and what follows. Every separator counts as
a blank. `fuel` counts the characters. -/
def takeValue (quote : Char) : Nat → List Char → Option (List Char × List Char)
  | 0, _ | _, [] => none
  | fuel + 1, c :: rest =>
    if c = quote then some ([], rest)
    else if c = '<' then none
    else
      let first :=
        match c, rest with
        | '&', rest => takeReference rest
        | '\r', '\n' :: rest => some (' ', rest)
        | c, rest =>
          if isSpace c then some (' ', rest) else if isAllowed c then some (c, rest) else none
      do
        let (c, rest) ← first
        let (value, rest) ← takeValue quote fuel rest
        pure (c :: value, rest)

/-- The attributes of a tag by name. -/
abbrev Attributes := List (String × String)

/-- The attributes of a tag, whether the tag closes its element, and what follows. `fuel` counts
the characters. -/
def takeAttributes : Nat → List Char → Option (Attributes × Bool × List Char)
  | 0, _ => none
  | fuel + 1, cs =>
    match cs.dropWhile isSpace with
    | '>' :: rest => some ([], false, rest)
    | '/' :: '>' :: rest => some ([], true, rest)
    | inner =>
      if !(cs.head?.any isSpace) then none
      else do
        let (name, rest) ← takeName inner
        match rest.dropWhile isSpace with
        | '=' :: rest =>
          match rest.dropWhile isSpace with
          | quote :: rest =>
            if quote ≠ '"' ∧ quote ≠ '\'' then none
            else do
              let (value, rest) ← takeValue quote (rest.length + 1) rest
              let (more, closes, rest) ← takeAttributes fuel rest
              pure ((name, String.ofList value) :: more, closes, rest)
          | [] => none
        | _ => none

/-! ## Pieces -/

/-- A piece of marked-up text other than plain characters. -/
inductive Piece where
  | opening (name : String) (attributes_ : Attributes) (closes : Bool)
  | closing (name : String)
  /-- A comment, an instruction or a quoted section with anything in it. -/
  | aside
  deriving DecidableEq, Repr

/-- What follows the comment of which the start is read. -/
def afterComment : List Char → Option (List Char)
  | '-' :: '-' :: '>' :: rest => some rest
  | '-' :: '-' :: _ => none
  | c :: rest => if isAllowed c then afterComment rest else none
  | [] => none

/-- What follows the next `?>`. -/
def afterInstruction : List Char → Option (List Char)
  | '?' :: '>' :: rest => some rest
  | c :: rest => if isAllowed c then afterInstruction rest else none
  | [] => none

/-- What follows the next `]]>`. -/
def afterQuoted : List Char → Option (List Char)
  | ']' :: ']' :: '>' :: rest => some rest
  | c :: rest => if isAllowed c then afterQuoted rest else none
  | [] => none

/-- The piece behind a `<` at the front of a text, if it is one, and what follows. -/
def takePiece (cs : List Char) : Option (Option Piece × List Char) :=
  match cs with
  | '!' :: '-' :: '-' :: rest => (afterComment rest).map fun rest => (some .aside, rest)
  | '!' :: '[' :: 'C' :: 'D' :: 'A' :: 'T' :: 'A' :: '[' :: rest =>
    (afterQuoted rest).map fun after =>
      (if rest.length = after.length + 3 then none else some .aside, after)
  | '?' :: rest => do
    let (name, rest) ← takePlainName rest
    if name.map Char.toLower = "xml".toList then none
    else match rest with
      | '?' :: '>' :: rest => some (some .aside, rest)
      | c :: rest =>
        if isSpace c then (afterInstruction rest).map fun rest => (some .aside, rest) else none
      | [] => none
  | '/' :: rest => do
    let (name, rest) ← takeName rest
    match rest.dropWhile isSpace with
    | '>' :: rest => some (some (.closing name), rest)
    | _ => none
  | cs => do
    let (name, rest) ← takeName cs
    let (attributes_, closes, rest) ← takeAttributes (rest.length + 1) rest
    pure (some (.opening name attributes_ closes), rest)

/-- The pieces of a text, which is well formed piece by piece. `fuel` counts the characters. -/
def pieces : Nat → List Char → Option (List Piece)
  | _, [] => some []
  | 0, _ => none
  | _, ']' :: ']' :: '>' :: _ => none
  | fuel + 1, '<' :: rest => do
    let (piece, rest) ← takePiece rest
    let more ← pieces fuel rest
    pure (piece.toList ++ more)
  | fuel + 1, '&' :: rest => do
    let (_, rest) ← takeReference rest
    pieces fuel rest
  | fuel + 1, c :: rest => if isAllowed c then pieces fuel rest else none

/-! ## Nesting and names in scope -/

/-- The prefixes in scope with the namespaces they stand for. -/
abbrev Scope := List (String × String)

/-- The namespace of the prefix `xml`, which no other prefix may stand for. -/
def xmlNamespace : String := "http://www.w3.org/XML/1998/namespace"

/-- The namespace of declarations, which no prefix may stand for. -/
def xmlnsNamespace : String := "http://www.w3.org/2000/xmlns/"

/-- The prefix that an attribute declares, the empty one for the default, if it declares any. -/
def declared? (name : String) : Option String :=
  if name = "xmlns" then some ""
  else match splitName name with
    | ("xmlns", declared) => some declared
    | _ => none

/-- Whether a prefix may be declared for a namespace. -/
def mayDeclare (declared space : String) : Bool :=
  (declared = "" || space ≠ "") && declared ≠ "xmlns" &&
    ((declared = "xml") = (space = xmlNamespace)) && space ≠ xmlnsNamespace &&
    !space.toList.contains ' '

/-- The scope inside an element, if its declarations are allowed. -/
def Scope.enter (scope : Scope) : Attributes → Option Scope
  | [] => some scope
  | (name, value) :: rest =>
    match declared? name with
    | none => scope.enter rest
    | some declared =>
      if mayDeclare declared value then Scope.enter ((declared, value) :: scope) rest else none

/-- A name with its prefix replaced by the namespace; `none` for a prefix that is not declared. -/
def Scope.resolve (scope : Scope) (name : String) : Option (String × String) :=
  match splitName name with
  | ("", plain) => some ("", plain)
  | (before, after) => (scope.lookup before).map fun space => (space, after)

/-- Whether the attributes of an element have different names, whose prefixes are declared. -/
def Scope.admits (scope : Scope) (attributes_ : Attributes) : Bool :=
  let names := attributes_.map (·.1)
  let plain := names.filter fun name => (declared? name).isNone
  match plain.mapM scope.resolve with
  | some resolved => names.eraseDups.length = names.length &&
      resolved.eraseDups.length = resolved.length
  | none => false

/-- Whether the pieces close all elements that are open and those they open themselves. The open
elements come with the scopes outside them, the innermost first. -/
def nests (scope : Scope) : List (String × Scope) → List Piece → Bool
  | [], [] => true
  | _ :: _, [] => false
  | unclosed, .aside :: rest => nests scope unclosed rest
  | unclosed, .opening name attributes_ closes :: rest =>
    match scope.enter attributes_ with
    | none => false
    | some inner =>
      (inner.resolve name).isSome && inner.admits attributes_ &&
        (if closes then nests scope unclosed rest
        else nests inner ((name, scope) :: unclosed) rest)
  | [], .closing _ :: _ => false
  | (open_, outer) :: unclosed, .closing name :: rest =>
    open_ = name && nests outer unclosed rest

/-! ## The whole text -/

/-- The last of some attributes that has one of the names. -/
def lastOf (names : List String) (attributes_ : Attributes) : String :=
  attributes_.foldl (fun last (name, value) => if names.contains name then value else last) ""

/-- The fault of a piece, if it has one. -/
def pieceFault? : Piece → Option MarkupFault
  | .aside => some .unstyled
  | .closing _ => none
  | .opening _ attributes_ _ =>
    if (lastOf ["fg", "color"] attributes_).toList.contains ' ' then some (.spacedColour "fg")
    else if (lastOf ["bg"] attributes_).toList.contains ' ' then some (.spacedColour "bg")
    else none

/-- The first fault of a text: that it is not well formed, or that of a piece. -/
def check (text : String) : Except MarkupFault Unit :=
  match pieces (text.length + 1) text.toList with
  | none => .error .malformed
  | some ps =>
    if nests [("xml", xmlNamespace)] [] ps then
      match ps.findSome? pieceFault? with
      | some f => .error f
      | none => .ok ()
    else .error .malformed

end Markup

end TabCompletion
