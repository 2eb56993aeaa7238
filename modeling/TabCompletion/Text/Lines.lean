/-!
# Lines of a text

A text is cut at every line break; a break at the very end opens no further line. A carriage
return followed by a line feed is one break.
-/

namespace TabCompletion.Text

/-- The characters that end a line. -/
def isLineBreak (c : Char) : Bool :=
  ['\n', '\r', '\x0b', '\x0c', '\x1c', '\x1d', '\x1e', '\u0085', '\u2028', '\u2029'].contains c

/-- The lines of `cs`, of whose first line `taken` was read already, last character first. -/
def linesFrom (taken : List Char) : List Char → List (List Char)
  | [] => if taken.isEmpty then [] else [taken.reverse]
  | '\r' :: '\n' :: rest => taken.reverse :: linesFrom [] rest
  | c :: rest =>
    if isLineBreak c then taken.reverse :: linesFrom [] rest else linesFrom (c :: taken) rest

/-- The lines of a text, without their ends. -/
def lines (s : String) : List String := (linesFrom [] s.toList).map String.ofList

/-- The pieces of `cs` between the occurrences of a non-empty separator, of whose first piece
`taken` was read already, last character first. With `skip`, that many characters still belong to
the separator met last. -/
def splitFrom (sep : List Char) (taken : List Char) : Nat → List Char → List (List Char)
  | _, [] => [taken.reverse]
  | skip + 1, _ :: rest => splitFrom sep taken skip rest
  | 0, c :: rest =>
    if sep.isPrefixOf (c :: rest) then taken.reverse :: splitFrom sep [] (sep.length - 1) rest
    else splitFrom sep (c :: taken) 0 rest

/-- The pieces of a text between the occurrences of a separator, found from left to right. -/
def splitOn (sep s : String) : List String :=
  (splitFrom sep.toList [] 0 s.toList).map String.ofList

end TabCompletion.Text
