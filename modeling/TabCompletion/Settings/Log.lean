import TabCompletion.Query
import TabCompletion.Text.Lowercase

/-!
# Log levels

The level from which notes are reported, and the two places that report them: the console, and a
file that takes everything from the lowest level on.
-/

namespace TabCompletion

/-- The named levels. -/
def namedLevels : List (String × Nat) :=
  [("CRITICAL", 50), ("FATAL", 50), ("ERROR", 40), ("WARN", 30), ("WARNING", 30), ("INFO", 20),
   ("DEBUG", 10), ("NOTSET", 0)]

/-- The level that a text names in any case, with blanks around it; warnings where it names none. -/
def levelOfText (s : String) : Nat :=
  (namedLevels.lookup (Text.capitals (Text.trim s))).getD 30

/-- The log level: that of the environment, unless it is unset or empty, else the configured one. A
configured value that counts as no stands for warnings, and any other that is no text for no
level. -/
def Settings.level? (c : Settings) (environment : Option String) : Option Nat :=
  match environment with
  | none | some "" =>
    match c.logLevel with
    | .text s => some (levelOfText (if s = "" then "WARNING" else s))
    | v => if v.truthy then none else some (levelOfText "WARNING")
  | some s => some (levelOfText s)

/-- The log: the level from which notes are taken, and the level of each place that reports. -/
structure Logger where
  level : Int := 30
  console : Option Int := none
  file : Option Int := none
  deriving DecidableEq, Repr

/-- Opens the log file at a path, which is empty if it is new. -/
def Host.openLog (h : Host) (path : String) : Except Fault Host :=
  match h.disk.create h.workingDir path with
  | .ok disk => .ok { h with disk }
  | .error f => .error (.file f)

/-- Sets the log up for a level, with a file at a path or without one. A place that reports already
keeps its level. The console reports even if the file cannot be opened. -/
def Logger.configure (l : Logger) (level : Int) (file : Option String) (h : Host) :
    Logger × Except Fault Host :=
  let onConsole := { l with
    level := if file.isSome then min level 10 else level
    console := l.console.or (some level) }
  match file, l.file with
  | some path, none =>
    match h.openLog path with
    | .ok h => ({ onConsole with file := some 10 }, .ok h)
    | .error f => (onConsole, .error f)
  | _, _ => (onConsole, .ok h)

end TabCompletion
