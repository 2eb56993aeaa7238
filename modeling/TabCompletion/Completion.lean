import TabCompletion.Answer

/-!
# Completions in a prompt

A suggestion as a prompt takes it: what to insert and where, what its menu shows, and a note beside
it. The note is the description: a text stands for itself, and a list for its fragments, of which
each has a style first and a text second.

* `Json.noteText` is the note of a description.
* `Answer.completions` are the completions of an answer.
-/

namespace TabCompletion

/-- A suggestion as a prompt takes it: the text to insert, where it starts relative to the cursor,
the text in the menu, and a note beside it. -/
structure Completion where
  text : String
  start : Int
  display : String
  note : String
  deriving DecidableEq, Repr

/-- The style of fragments that are not shown. -/
def hiddenStyle : String := "[ZeroWidthEscape]"

/-- The texts of the fragments that are shown. -/
def shownTexts : List Json → Except Misuse (List Json)
  | [] => .ok []
  | fragment :: rest => do
    let style ← fragment.partAt 0
    if ← style.holds hiddenStyle then shownTexts rest
    else do
      let text ← fragment.partAt 1
      let more ← shownTexts rest
      pure (text :: more)

/-- The note of a description. One that counts as no has none, and one that is neither a text nor
a list of fragments cannot be shown. -/
def Json.noteText (v : Json) : Except Fault String :=
  if !v.truthy then .ok ""
  else match v with
    | .text s => .ok s
    | .list fragments => ((shownTexts fragments).bind (joined 0)).mapError .misuse
    | v => .error (.notFormattable v)

/-- A suggestion as a completion of a text of which it replaces so many characters. -/
def Suggestion.completion (s : Suggestion) (replaced : Int) : Except Fault Completion := do
  let note ← s.description.noteText
  pure {
    text := s.name
    start := -replaced
    display := if s.icon.truthy then s.icon.plainText ++ " " ++ s.name else s.name
    note }

/-- The completions of an answer. -/
def Answer.completions (a : Answer) : Except Fault (List Completion) :=
  a.suggestions.mapM fun s => s.completion a.replaced

end TabCompletion
