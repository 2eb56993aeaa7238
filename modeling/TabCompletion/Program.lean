import TabCompletion.Arguments
import TabCompletion.Session
import TabCompletion.Settings.Log

/-!
# The program

What the program does for its arguments: the configuration is read, then it prints its version or
help, reloads the configuration, lists the known commands, answers one line, or starts a session.
Of several requests the first in this order is served.
-/

namespace TabCompletion

/-- How the program starts: it has printed all it has to and ends with a code, or a session
begins. -/
inductive Started where
  | ended (output errors : String) (code : Nat) (h : Host)
  | session (output : String) (s : Session)

namespace Program

/-- Ends well with an output. -/
def finish (output : String) (h : Host) : Started := .ended output "" 0 h

/-- The known commands, as they are printed. -/
def listCommands (c : Settings) (h : Host) (paths : ConfigPaths) (screen : Nat) :
    Except Fault String := do
  let loaded := Registry.standard c h paths
  let _ ← loaded.result
  printedCommands c screen loaded.registry.commands

/-- The answer to a question, as it is printed. -/
def answer (c : Settings) (h : Host) (paths : ConfigPaths) (screen : Nat) (subject : Subject)
    (json : Bool) : Except Fault String := do
  let loaded := Registry.standard c h paths
  let _ ← loaded.result
  match subject with
  | .nothing => throw .noLine
  | .line text => do
    let s : Session := { settings := c, host := h, registry := loaded.registry, screen }
    let (a, _) ← s.resolve text
    if json then pure (a.printedJson screen) else a.printed c screen

/-- The start of a session: the configuration is laid out, with an empty log if there is none. -/
def beginSession (c : Settings) (h : Host) (paths : ConfigPaths) (screen : Nat) :
    Except Fault Started := do
  match paths.ensure c h with
  | (_, some f) => throw f
  | (h, none) => do
    let h ← if c.logToFile.truthy then h.openLog paths.logFile else pure h
    let loaded := Registry.standard c h paths
    let _ ← loaded.result
    let output ← greeting c screen loaded.registry.commands
    let s : Session := { settings := c, host := h, registry := loaded.registry, screen }
    s.checkPrompt
    pure (.session output s)

/-- What the program does for what its arguments ask for. All but its version takes a log level. -/
def serve (a : Arguments) (c : Settings) (h : Host) (paths : ConfigPaths) (screen : Nat) :
    Except Fault Started := do
  if a.version then pure (finish ("termspec version " ++ version ++ "\n") h)
  else if (c.level? h.logLevel).isNone then throw .noLevel
  else if a.configReload then
    let (_, h, accepted) := c.reload h paths
    pure (finish (if ← accepted then "Configuration reloaded successfully\n"
      else "Failed to reload configuration\n") h)
  else if a.listSpecs then pure (finish (← listCommands c h paths screen) h)
  else match a.query with
    | some subject => pure (finish (← answer c h paths screen subject a.json) h)
    | none => beginSession c h paths screen

/-- The start of the program for its arguments, on a screen of a width. The settings `c` hold where
the configuration gives none. -/
def start (c : Settings) (arguments : List String) (h : Host) (paths : ConfigPaths)
    (screen : Nat) : Except Fault Started := do
  let (c, accepted) := c.readFrom h paths.file
  let _ ← accepted
  match Arguments.parse arguments with
  | .error f => pure (.ended "" f.report 2 h)
  | .ok .help => pure (finish helpText h)
  | .ok (.run a) => serve a c h paths screen

end Program

end TabCompletion
