import TabCompletion.Text.Blank

/-!
# The half-typed command line

Only the last command of a line counts: what follows its last `||`, `&&` or `;`, quoted or not.
That segment is read as tokens. Blanks separate tokens, single and double quotes group characters
and are dropped, and a backslash outside single quotes takes the next character as it is. A token
that a blank follows is complete; the one under the cursor is not.

* `lastSegment` is the last command of a line, `tokens` its tokens.
* `Pending.feed` reads one character into the token that is open.
* `Token.rawLength` counts the typed characters, quotes and backslashes too: it is what a host
  replaces when a candidate is taken.

These are `last_segment` and `parse_command`. Out of scope: lines with half of a surrogate pair.
-/

namespace TabCompletion

/-- One token of a command line. -/
structure Token where
  text : String
  complete : Bool
  isOption : Bool
  rawLength : Nat
  deriving DecidableEq, Repr

/-! ## The last segment -/

/-- The segment at the end of a line of which `taken`, last character first, is read already. -/
def segmentFrom (taken : List Char) : List Char → List Char
  | '|' :: '|' :: rest => segmentFrom [] rest
  | '&' :: '&' :: rest => segmentFrom [] rest
  | ';' :: rest => segmentFrom [] rest
  | c :: rest => segmentFrom (c :: taken) rest
  | [] => taken.reverse

/-- What follows the last delimiter of a line. -/
def lastSegment (line : String) : String := String.ofList (segmentFrom [] line.toList)

/-! ## Tokens of a segment -/

/-- Where a character stands inside a token. -/
inductive Mode where
  /-- Outside quotes. -/
  | plain
  /-- Between single quotes. -/
  | single
  /-- Between double quotes. -/
  | double
  /-- After a backslash, outside quotes. -/
  | escaped
  /-- After a backslash between double quotes. -/
  | escapedDouble
  deriving DecidableEq, Repr

/-- A token that is being read; its characters are held last first. -/
structure Pending where
  text : List Char := []
  quoted : Bool := false
  length : Nat := 0
  mode : Mode := .plain
  deriving DecidableEq, Repr

namespace Pending

/-- The next character as part of the token. -/
def feed (p : Pending) (c : Char) : Pending :=
  let p := { p with length := p.length + 1 }
  match p.mode with
  | .escaped => { p with text := c :: p.text, mode := .plain }
  | .escapedDouble => { p with text := c :: p.text, mode := .double }
  | .single => if c = '\'' then { p with mode := .plain } else { p with text := c :: p.text }
  | .double =>
    if c = '\\' then { p with mode := .escapedDouble }
    else if c = '"' then { p with mode := .plain }
    else { p with text := c :: p.text }
  | .plain =>
    if c = '\\' then { p with mode := .escaped }
    else if c = '\'' then { p with mode := .single, quoted := true }
    else if c = '"' then { p with mode := .double, quoted := true }
    else { p with text := c :: p.text }

/-- Whether a character ends the token: a blank outside quotes and escapes. -/
def endsAt (p : Pending) (c : Char) : Bool := p.mode = .plain && Text.isBlank c

/-- The token that was read. It names an option if it starts with a hyphen and no part of it was
quoted. -/
def token (p : Pending) (complete : Bool) : Token where
  text := String.ofList p.text.reverse
  complete := complete
  isOption := !p.quoted && p.text.getLast? = some '-'
  rawLength := p.length

end Pending

/-- The tokens of a segment, of which a token may be open already. -/
def tokensFrom : Option Pending → List Char → List Token
  | none, [] => []
  | some p, [] => [p.token false]
  | none, c :: rest =>
    if Text.isBlank c then tokensFrom none rest else tokensFrom (some (Pending.feed {} c)) rest
  | some p, c :: rest =>
    if p.endsAt c then p.token true :: tokensFrom none rest else tokensFrom (some (p.feed c)) rest

/-- The tokens of the last segment of a line. -/
def tokens (line : String) : List Token := tokensFrom none (segmentFrom [] line.toList)

end TabCompletion
