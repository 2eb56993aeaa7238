import TabCompletion.Display.Answer
import TabCompletion.Grammar.Shipped
import TabCompletion.Registry.Files
import TabCompletion.Settings.Files
import TabCompletion.Style.Menu

/-!
# Interactive sessions

A session completes command lines without running them. It prints what it has to say line by line:
the host shows the prompt, hands over a line, and gets the text to print and the session after it,
if it goes on.

* `Registry.standard` is the registry of shipped grammars and those of the user.
* `Session.enter` is one line of a session.
-/

namespace TabCompletion

/-- The registry of the shipped grammars and those in the user's directories. -/
def Registry.standard (c : Settings) (h : Host) (paths : ConfigPaths) : Loaded :=
  let shipped := Registry.ofCommands Shipped.commands
  match c.specDirs h paths with
  | .ok directories => shipped.loadDirectories h directories
  | .error f => { registry := shipped, result := .error f }

/-- An interactive session between two lines. -/
structure Session where
  settings : Settings
  host : Host
  registry : Registry
  screen : Nat
  engine : Engine := {}
  /-- What the cursor was last told to expect. -/
  hint : String := ""

namespace Session

/-- The prompt as marked-up text. -/
def prompt (s : Session) : String :=
  "<prompt_symbol>" ++ s.settings.promptSymbol.plainText ++ "</prompt_symbol> "

/-- Whether a character may stand in the name of a style. -/
def isStyleNameChar (c : Char) : Bool :=
  ('a' ≤ c && c ≤ 'z') || ('0' ≤ c && c ≤ '9') || ['.', '_', '-'].contains c || Text.isBlank c

/-- The fault of a style of completions, if any: its name is odd, it is no text, or it has a colour
that is none. -/
def styleFault? (name : String) (style : Json) : Option Fault :=
  if !(name.toList.all isStyleNameChar) then some .styleName
  else match style, style.holds "noinherit" with
    | .text text, _ => (MenuStyle.wrongColour? text).map .menuColour
    | _, .error m => some (.misuse m)
    | _, .ok _ => some (.misuse .noMembers)

/-- The first fault of what belongs to the prompt: the marked-up text that stands in an empty line,
the styles, then the prompt itself. -/
def checkPrompt (s : Session) : Except Fault Unit := do
  (Markup.check s.settings.promptPlaceholder.plainText).mapError .markup
  let styles ← s.settings.completionStyles.members.mapError .misuse
  match styles.findSome? fun (name, style) => styleFault? name style with
  | some f => throw f
  | none => pure ()
  (Markup.check s.prompt).mapError .markup

/-- The text below the prompt, if any. -/
def toolbar (s : Session) : Option String :=
  if s.hint = "" then none else some (" expects: " ++ s.hint)

/-- The answer to a line, and the session after it. -/
def resolve (s : Session) (line : String) : Except Fault (Answer × Session) :=
  match s.engine.ask s.registry { settings := s.settings, host := s.host } line with
  | (.ok a, engine) => .ok (a, { s with engine })
  | (.error f, _) => .error f

/-- Takes a line: the completer looks at it first, then it is answered, unless it is blank or ends
the session. The result is the text to print and the session after it, if it goes on. -/
def enter (s : Session) (line : String) : Except Fault (String × Option Session) := do
  let (a, s) ← s.resolve line
  let s := { s with hint := a.hint }
  let word := Text.trim line
  if word = "exit" ∨ word = "quit" then pure (farewell s.screen, none)
  else if word = "" then pure ("", some s)
  else do
    let (a, s) ← s.resolve line
    let text ← a.printed s.settings s.screen
    pure (text, some s)

end Session

end TabCompletion
