import TabCompletion.Display.Markup
import TabCompletion.Grammar.Loader
import TabCompletion.Json.Parts
import TabCompletion.Listing
import TabCompletion.Settings
import TabCompletion.Style.Colour

/-!
# Queries

What a query reads, what it leaves behind and how it may fail. A query reads the settings and its
host: the disk, the outcome of scripts, the processes. It leaves behind remembered listings and
events: the scripts run, the providers called and the notes for the log. A fault ends the query,
and what it left behind until then stays.

* `Fault` says why an operation of the program fails, and `Fault.message` in which words.
* `Host` is what lies outside the program. How a script ends (`Outcome`) depends on the script and
  on the seconds that it may take: with output and a code, or in a fault of running it. The faults
  that `run_script` takes for no output are `Outcome.failed`: a program that is missing or may not
  be run, and a time that is over. Any other ends the query (`Outcome.escaped`, `ScriptFault`).
* `Query` is a query with an answer, `Query.scan` the reading of a directory (`scan_directory`).

Out of scope: how far calls may be nested and how much memory they may take; texts with half of a
surrogate pair, which no `String` has, and so the faults of writing such a text; a list of processes
that cannot be read; what other programs do to the disk while a query goes on.
-/

namespace TabCompletion

/-! ## Faults -/

/-- Why a tag in a text on the screen is refused. -/
inductive TagFault where
  /-- It ends what is not open. -/
  | unopened
  /-- It hands over what is no value. -/
  | noValue
  deriving DecidableEq, Repr

/-- Why a script is not run to its end, if it is not that its program is missing or denied or that
its time is over. -/
inductive ScriptFault where
  /-- No program is named. -/
  | noProgram
  /-- The script has a null character. -/
  | nullInScript
  /-- The seconds that it may take are no number. -/
  | timeNan
  /-- It may take for ever. -/
  | timeInfinite
  /-- It may take longer than can be waited for. -/
  | timeRange
  /-- What it prints is no UTF-8 text. -/
  | outputNotText
  deriving DecidableEq, Repr

/-- Why an operation fails. -/
inductive Fault where
  /-- A grammar that cannot be read, with the name of its source. -/
  | load (fault : LoadFault) (source : String)
  /-- A value at which no output can be cut. -/
  | separator (v : Json)
  | file (fault : FileFault)
  | script (fault : ScriptFault)
  | notText
  /-- A number in a file with more digits than are read. -/
  | longInteger (digits : Nat)
  /-- A size beyond every double. -/
  | sizeRange
  /-- A value that no table shows. -/
  | notDisplayable (v : Json)
  /-- A value that no menu shows. -/
  | notFormattable (v : Json)
  /-- A padding with a wrong number of sides. -/
  | paddingSides (n : Nat)
  | misuse (m : Misuse)
  | markup (f : MarkupFault)
  /-- A name of styles with other characters than small letters, digits, blanks, dots and lines. -/
  | styleName
  | style (f : StyleFault)
  /-- A colour of the menu that is none. -/
  | menuColour (text : String)
  | tag (f : TagFault)
  /-- A log level that is no text. -/
  | noLevel
  /-- A question without a line. -/
  | noLine
  deriving DecidableEq, Repr

/-- The wording of a loading fault, after the name of its source. -/
def LoadFault.message (source : String) : LoadFault → String
  | .spec fault => (if source = "" then "" else source ++ ": ") ++ fault.message
  | .timeoutText s => "could not convert string to float: " ++ Text.quoted s
  | .timeoutType v =>
    "float() argument must be a string or a real number, not '" ++ v.typeWord ++ "'"
  | .timeoutRange => "int too large to convert to float"
  | .longInteger =>
    "Exceeds the limit (4300 digits) for integer string conversion; use " ++
      "sys.set_int_max_str_digits() to increase the limit"

/-- The wording of the fault of a number with too many digits. -/
def longIntegerMessage (digits : Nat) : String :=
  "Exceeds the limit (4300 digits) for integer string conversion: value has " ++
    toString digits ++ " digits; use sys.set_int_max_str_digits() to increase the limit"

/-- The wording of the fault of a style. -/
def StyleFault.message : StyleFault → String
  | .unknown => ""
  | .emptyPart => "invalid literal for int() with base 10: ''"
  | .longPart digits => longIntegerMessage digits

/-- The wording of a fault of running a script. -/
def ScriptFault.message : ScriptFault → String
  | .noProgram => "list index out of range"
  | .nullInScript => "embedded null byte"
  | .timeNan => "cannot convert float NaN to integer"
  | .timeInfinite => "cannot convert float infinity to integer"
  | .timeRange => "timeout is too large"
  | .outputNotText => ""

/-- The wording of a fault; file faults have none of their own. -/
def Fault.message : Fault → String
  | .load fault source => fault.message source
  | .separator v => "must be str or None, not " ++ v.typeWord
  | .file .nullInPath => "embedded null byte"
  | .script fault => fault.message
  | .longInteger digits => longIntegerMessage digits
  | .sizeRange => "int too large to convert to float"
  | .notDisplayable v =>
    "unable to render " ++ v.typeWord ++ "; a string or other renderable object is required"
  | .notFormattable v =>
    "No formatted text. Expecting a unicode object, HTML, ANSI or a FormattedText instance. Got " ++
      v.literal
  | .paddingSides n =>
    "1, 2 or 4 integers required for padding; " ++ toString n ++ " given"
  | .misuse m => m.message
  | .markup f => f.message
  | .style f => f.message
  | .menuColour text => "Wrong color format " ++ Text.quoted text
  | .noLine => "expected string or bytes-like object, got 'list'"
  | .file _ | .notText | .styleName | .tag _ | .noLevel => ""

/-! ## The host -/

/-- How a script ends. -/
inductive Outcome where
  | finished (output : String) (code : Int)
  /-- Its program is missing or may not be run, or its time is over. -/
  | failed
  /-- It cannot be run, waited for or read. -/
  | escaped (fault : ScriptFault)
  deriving DecidableEq, Repr

/-- Why a script is refused before anything is run, whatever the host. -/
def Script.refusal? : Script → Option ScriptFault
  | .program [] => some .noProgram
  | .program argv =>
    if argv.any (·.toList.contains '\x00') then some .nullInScript else none
  | .shell line => if line.toList.contains '\x00' then some .nullInScript else none

/-- How a script ends where there are no programs. -/
def Script.missing (s : Script) : Outcome := (s.refusal?.map .escaped).getD .failed

/-- A running process. -/
structure Process where
  number : Int
  name : String
  deriving DecidableEq, Repr

/-- What lies outside the program. -/
structure Host where
  disk : Disk := {}
  home : String
  /-- The home directories of the users by name. -/
  homes : List (String × String) := []
  workingDir : WorkingDir
  /-- The log level that the environment asks for. -/
  logLevel : Option String := none
  /-- How a script ends that may take so many seconds. -/
  outcome : Script → Json → Outcome := fun s _ => s.missing
  processes : List Process := []

/-- A path with the home directory of the user at work in the place of `~`, and that of another
user in the place of `~` and the name. A user who is not known leaves the path as it is; no user can
have a name with a null character. -/
def Host.expandHome (h : Host) (path : String) : Except Fault String :=
  match Path.homeOwner? path with
  | none => .ok path
  | some "" => .ok (Path.withHome h.home path)
  | some name =>
    if name.toList.contains '\x00' then .error (.file .nullInPath)
    else .ok (((h.homes.lookup name).map (Path.withHome · path)).getD path)

/-! ## Events -/

/-- The urgency of a note. -/
inductive Urgency where
  | debug | warning | error
  deriving DecidableEq, Repr

/-- The notes that go to the log. -/
inductive Note where
  | unknownCommand (name : String)
  | scriptFailed
  | functionFailed
  | readerFailed
  | skippedFile (path : String)
  | skippedSpec (message : String)
  | optionWithoutToken
  deriving DecidableEq, Repr

/-- The urgency of a note. -/
def Note.urgency : Note → Urgency
  | .unknownCommand _ | .scriptFailed | .functionFailed | .readerFailed => .debug
  | .skippedFile _ | .skippedSpec _ => .warning
  | .optionWithoutToken => .error

/-- The wording of a note. -/
def Note.text : Note → String
  | .unknownCommand name => "no spec known for " ++ Text.quoted name
  | .scriptFailed => "generator script"
  | .functionFailed => "generator function failed"
  | .readerFailed => "generator post-processing failed"
  | .skippedFile path => "skipping spec file " ++ path
  | .skippedSpec message => "skipping invalid spec: " ++ message
  | .optionWithoutToken => "invalid state reached, option with no tokens"

/-- What a query did that its answer does not show. -/
inductive Event where
  | script (s : Script) (timeout : Json)
  /-- The list of processes or of their names was called with the accepted tokens, and listed the
  processes with the named properties of each. -/
  | processes (properties accepted : List String)
  | function (accepted : List String)
  | note (n : Note)
  deriving DecidableEq, Repr

/-! ## The query itself -/

/-- What a query reads. -/
structure Context where
  settings : Settings := {}
  host : Host

/-- What a query leaves behind. -/
structure Memory where
  listings : Listings := []
  events : List Event := []
  deriving DecidableEq

/-- A query with an answer. -/
abbrev Query := ReaderT Context (ExceptT Fault (StateM Memory))

namespace Query

/-- Records an event. -/
def emit (e : Event) : Query Unit := modify fun m => { m with events := m.events ++ [e] }

/-- Records a note. -/
def log (n : Note) : Query Unit := emit (.note n)

/-- The listing of the directory at a path, from memory if it is unchanged. -/
def scan (path : String) : Query Listing := do
  let context ← read
  let memory ← get
  match memory.listings.scan context.host.disk context.host.workingDir path with
  | .ok (l, listings) => do
    set { memory with listings := listings }
    pure l
  | .error f => throw (.file f)

/-- The answer of a query, or its fault, and the memory after it. -/
def answer (q : Query α) (context : Context) (memory : Memory) : Except Fault α × Memory :=
  (q.run context).run.run memory

end Query

end TabCompletion
