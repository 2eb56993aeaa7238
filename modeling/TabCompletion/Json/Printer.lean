import TabCompletion.Json.Basic
import TabCompletion.Binary64.Decimal
import TabCompletion.Text.Quoted

/-!
# Writing JSON

Two layouts of one value: `compact` on a single line and `pretty` with one item or member to a
line, two blanks deeper for each level. Characters above ASCII are written as they are; quotes,
backslashes and controls are escaped. Numbers that have no digits are written as words.
-/

namespace TabCompletion.Json

/-- A character inside a JSON text. -/
def escapedChar (c : Char) : List Char :=
  if c = '"' then ['\\', '"']
  else if c = '\\' then ['\\', '\\']
  else if c = '\n' then ['\\', 'n']
  else if c = '\r' then ['\\', 'r']
  else if c = '\t' then ['\\', 't']
  else if c = '\x08' then ['\\', 'b']
  else if c = '\x0c' then ['\\', 'f']
  else if c.toNat < 0x20 then '\\' :: 'u' :: Text.hex 4 c.toNat
  else [c]

/-- A JSON text with its quotes. -/
def stringText (s : String) : String :=
  String.ofList ('"' :: s.toList.flatMap escapedChar ++ ['"'])

/-- A double. -/
def realText : Binary64 → String
  | .nan => "NaN"
  | .infinity negative => (if negative then "-" else "") ++ "Infinity"
  | x => x.text

mutual
/-- A value on one line, a blank after each comma and colon. -/
def compact : Json → String
  | .null => "null"
  | .bool b => if b then "true" else "false"
  | .int n => toString n
  | .real x => realText x
  | .text s => stringText s
  | .list items => "[" ++ ", ".intercalate (compactItems items) ++ "]"
  | .object members => "\x7b" ++ ", ".intercalate (compactMembers members) ++ "\x7d"

/-- The items of a list. -/
def compactItems : List Json → List String
  | [] => []
  | v :: rest => compact v :: compactItems rest

/-- The members of an object. -/
def compactMembers : List (String × Json) → List String
  | [] => []
  | (k, v) :: rest => (stringText k ++ ": " ++ compact v) :: compactMembers rest
end

/-- A bracketed block, its entries one to a line; the closing bracket is `depth` levels deep. -/
def block (opening closing : String) (depth : Nat) (entries : List String) : String :=
  let margin (n : Nat) := String.ofList (List.replicate (2 * n) ' ')
  if entries.isEmpty then opening ++ closing
  else opening ++ "\n" ++ ",\n".intercalate (entries.map (margin (depth + 1) ++ ·)) ++
    "\n" ++ margin depth ++ closing

mutual
/-- A value laid out at a depth. -/
def prettyAt (depth : Nat) : Json → String
  | .list items => block "[" "]" depth (prettyItems (depth + 1) items)
  | .object members => block "\x7b" "\x7d" depth (prettyMembers (depth + 1) members)
  | .null => "null"
  | .bool b => if b then "true" else "false"
  | .int n => toString n
  | .real x => realText x
  | .text s => stringText s

/-- The items of a list. -/
def prettyItems (depth : Nat) : List Json → List String
  | [] => []
  | v :: rest => prettyAt depth v :: prettyItems depth rest

/-- The members of an object. -/
def prettyMembers (depth : Nat) : List (String × Json) → List String
  | [] => []
  | (k, v) :: rest => (stringText k ++ ": " ++ prettyAt depth v) :: prettyMembers depth rest
end

/-- A value with one item or member to a line. -/
def pretty (v : Json) : String := prettyAt 0 v

end TabCompletion.Json
