import TabCompletion.Display.Handler
import TabCompletion.Query
import TabCompletion.Style.Screen
import TabCompletion.Text.Symbol

/-!
# Tags in texts

Texts on the screen may hold tags: `[name]` sets a style for what follows, `[/name]` ends it, and
`[/]` ends the one that was set last. A backslash in front keeps a tag as text, and two stand for
one. A style that is told in other words ends as well, as long as it is the same one. A tag whose
name starts with `@` hands what follows `=` to a handler, where the tag ends.

* `Tags.pieces` cuts a text into tags and what stands between them.
* `Tags.checkNesting` refuses tags that end what was not set, or that hand over no value.
* `Tags.shown` is a text without its tags, and with symbols in the place of their names.
-/

namespace TabCompletion.Tags

/-- A piece of a text with tags. -/
inductive Piece where
  | plain (text : String)
  /-- A tag with what follows `=` in it. -/
  | tag (name value : String)
  deriving DecidableEq, Repr

/-- Whether a character may stand first in a tag. -/
def isTagStart (c : Char) : Bool := ('a' ≤ c && c ≤ 'z') || ['#', '/', '@'].contains c

/-- The backslashes at the front of a text and the content of the tag behind them, if there is a
tag. -/
def tagAhead? (cs : List Char) : Option (Nat × List Char) :=
  let slashes := (cs.takeWhile (· = '\\')).length
  match cs.drop slashes with
  | '[' :: first :: rest =>
    let inner := rest.takeWhile fun c => c ≠ '[' && c ≠ ']'
    if isTagStart first && rest[inner.length]? = some ']' then some (slashes, first :: inner)
    else none
  | _ => none

/-- The piece of some characters between tags, last character first, if there are any. -/
def plainPiece (taken : List Char) : List Piece :=
  if taken.isEmpty then [] else [.plain (String.ofList taken.reverse)]

/-- The pieces of a backslashed tag with a content. An even number of backslashes stands for half
as many, and a further one keeps the tag as text. -/
def tagPieces (slashes : Nat) (content : List Char) : List Piece :=
  plainPiece (List.replicate (slashes / 2) '\\') ++
    [if slashes % 2 = 1 then .plain (String.ofList ('[' :: content ++ [']']))
    else .tag (String.ofList (content.takeWhile (· ≠ '=')))
      (String.ofList ((content.dropWhile (· ≠ '=')).drop 1))]

/-- The pieces of `cs`, after as many characters as the number says that are left out. Of the
piece in front `taken` was read already, last character first. -/
def piecesFrom (taken : List Char) : Nat → List Char → List Piece
  | _, [] => plainPiece taken
  | skip + 1, _ :: rest => piecesFrom taken skip rest
  | 0, c :: rest =>
    match tagAhead? (c :: rest) with
    | some (slashes, content) =>
      plainPiece taken ++ tagPieces slashes content ++
        piecesFrom [] (slashes + content.length + 1) rest
    | none => piecesFrom (c :: taken) 0 rest

/-- The pieces of a text. -/
def pieces (s : String) : List Piece := piecesFrom [] 0 s.toList

/-- The name of a style in one and the same form; one that tells no style is only trimmed. -/
def styleName (name : String) : Except Fault String :=
  match ScreenStyle.ofText name with
  | .ok style => .ok style.text
  | .error .unknown => .ok (Text.lower (Text.trim name))
  | .error f => .error (.style f)

/-- A tag that is open. -/
structure OpenTag where
  style : String
  value : String
  deriving DecidableEq, Repr

/-- The innermost open tag of a style, and the others. -/
def takeOpen? (style : String) : List OpenTag → Option (OpenTag × List OpenTag)
  | [] => none
  | t :: rest =>
    if t.style = style then some (t, rest)
    else (takeOpen? style rest).map fun (found, others) => (found, t :: others)

/-- Whether a tag may end: one that hands over something hands over a value. -/
def OpenTag.mayEnd (t : OpenTag) : Bool :=
  t.style.toList.head? ≠ some '@' || Handler.isWellFormed (Text.trim t.value)

/-- Refuses a tag that ends what is not among the open tags, the innermost of which is first, and
one that may not end. -/
def checkNesting (opened : List OpenTag) : List Piece → Except Fault Unit
  | [] => .ok ()
  | .plain _ :: rest => checkNesting opened rest
  | .tag name value :: rest =>
    match name.toList with
    | '/' :: closing => do
      let closing := Text.trim (String.ofList closing)
      let found ←
        if closing = "" then pure (opened.head?.map fun t => (t, opened.drop 1))
        else (styleName closing).map fun style => takeOpen? style opened
      match found with
      | some (t, others) =>
        if t.mayEnd then checkNesting others rest else .error (.tag .noValue)
      | none => .error (.tag .unopened)
    | _ => do
      let style ← styleName name
      checkNesting ({ style, value } :: opened) rest

/-- A piece as it is shown. An opening bracket behind a backslash is no tag. -/
def Piece.shown : Piece → String
  | .plain text => Text.withSymbols ("[".intercalate (Text.splitOn "\\[" text))
  | .tag _ _ => ""

/-- A text as it is shown: without its tags, and with symbols in the place of their names. -/
def shown (s : String) : Except Fault String := do
  let ps := pieces s
  checkNesting [] ps
  pure (String.join (ps.map Piece.shown))

end TabCompletion.Tags
