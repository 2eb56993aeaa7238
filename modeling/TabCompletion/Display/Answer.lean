import TabCompletion.Answer
import TabCompletion.Display.Panel
import TabCompletion.Json.Printer

/-!
# Printed answers

What is printed for an answer, for the known commands, and at the start and the end of a session.
Every text ends its last line, and on a screen without a width nothing is printed.
-/

namespace TabCompletion

/-- The version of the program. -/
def version : String := "0.1.0"

/-- Lines as a printed text. -/
def unlines (ls : List String) : String := String.join (ls.map (· ++ "\n"))

/-- A value as the text of a cell: null is blank, and any value but a text cannot be shown. -/
def Json.cellText : Json → Except Fault String
  | .text s => .ok s
  | .null => .ok ""
  | v => .error (.notDisplayable v)

/-- The table of some suggestions. -/
def suggestionTable (ss : List Suggestion) : Except Fault Table := do
  let rows ← ss.mapM fun s => do
    let icon ← s.icon.cellText
    let description ← s.description.cellText
    pure [icon, s.name, description]
  pure { columns := [⟨"", false⟩, ⟨"Name", false⟩, ⟨"Description", true⟩], rows }

/-- The title over an answer. -/
def Answer.title (a : Answer) : String :=
  Text.quoted a.line ++ "  (replace " ++ toString a.replaced ++ " chars)"

/-- An answer as panels: its suggestions, or the hint, or that there is nothing. -/
def Answer.printed (a : Answer) (c : Settings) (screen : Nat) : Except Fault String := do
  if a.suggestions.isEmpty then
    let body := if a.hint = "" then .prose "" "no suggestions" else .prose "expects: " a.hint
    let lines ← c.panelLines "warning" a.title true body screen
    pure (unlines lines)
  else
    let table ← suggestionTable a.suggestions
    let lines ← c.panelLines "info" a.title false (.table table) screen
    pure (unlines lines)

/-- An answer as JSON. -/
def Answer.toJson (a : Answer) : Json :=
  .object [
    ("command", .text a.line),
    ("suggestions", .list (a.suggestions.map fun s => .object [
      ("name", .text s.name), ("name_prefix", s.icon), ("description", s.description)])),
    ("argument_description", .text a.hint),
    ("char_count", .int a.replaced)]

/-- An answer as printed JSON, whose lines are as long as they are. -/
def Answer.printedJson (a : Answer) (screen : Nat) : String :=
  if screen = 0 then "" else a.toJson.pretty ++ "\n"

/-- The known commands by their shortest names, in order. -/
def sortedCommands (cs : List Command) : List Command :=
  cs.mergeSort fun a b => shortestName a.names ≤ shortestName b.names

/-- The table of the known commands. -/
def commandTable (cs : List Command) : Except Fault Table := do
  let rows ← (sortedCommands cs).mapM fun c => do
    let name := shortestName c.names
    let description ← c.description.cellText
    pure [name, ", ".intercalate (c.names.filter (· ≠ name)), description]
  pure { columns := [⟨"Command", false⟩, ⟨"Aliases", true⟩, ⟨"Description", true⟩], rows }

/-- The known commands as a panel. -/
def printedCommands (c : Settings) (screen : Nat) (cs : List Command) : Except Fault String := do
  if cs.isEmpty then
    let lines ← c.panelLines "warning" "" false (.prose "" "No specs registered") screen
    pure (unlines lines)
  else
    let table ← commandTable cs
    let lines ← c.panelLines "info" "Known commands" true (.table table) screen
    pure (unlines lines)

/-- The greeting at the start of a session. -/
def greeting (c : Settings) (screen : Nat) (cs : List Command) : Except Fault String := do
  let names := (cs.map fun command => shortestName command.names).mergeSort (· ≤ ·)
  let known := if names.isEmpty then "(none)" else ", ".intercalate names
  let lines ← c.panelLines "info" "" true (.tagged ("\n".intercalate [
    "termspec " ++ version ++ " playground",
    "",
    "Type a command line and press Tab to see suggestions.",
    "Enter shows the resolved candidates; Ctrl+D exits.",
    "",
    "Known commands: " ++ known])) screen
  pure (unlines (lines ++ if screen = 0 then [] else [""]))

/-- The farewell at the end of a session. -/
def farewell (screen : Nat) : String := unlines (Text.flow screen .fold "Goodbye!")

end TabCompletion
