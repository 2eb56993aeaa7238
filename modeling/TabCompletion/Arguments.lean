import TabCompletion.Text.Digit
import TabCompletion.Text.Quoted

/-!
# The arguments of the program

The options of the command line, read from the left. A long option may be cut short as long as it
stays the only one, and takes its value after `=` or in the next argument. What is written to an
option of one letter, directly or after `=`, is its value or, if it takes none, more letters of
such options. Asking for help ends the reading; arguments that belong to no option are reported at
the end.

* `Arguments.parse` reads all arguments.
* `Shape.ofArgument` is what one argument looks like by itself.
-/

namespace TabCompletion

/-- The options of the program. -/
inductive Flag where
  | help | version | query | json | listSpecs | configReload
  deriving DecidableEq, Repr

namespace Flag

/-- The spellings of an option. -/
def spellings : Flag → List String
  | .help => ["-h", "--help"]
  | .version => ["--version", "-v"]
  | .query => ["--query", "-q"]
  | .json => ["--json"]
  | .listSpecs => ["--list-specs"]
  | .configReload => ["--config-reload"]

/-- All options. -/
def all : List Flag := [.help, .version, .query, .json, .listSpecs, .configReload]

/-- Whether an option takes a value. -/
def takesValue (f : Flag) : Bool := f = .query

/-- Every spelling with its option. -/
def table : List (String × Flag) := all.flatMap fun f => f.spellings.map fun s => (s, f)

/-- The name of an option in messages. -/
def title (f : Flag) : String := "/".intercalate f.spellings

end Flag

/-- Why the arguments cannot be used. -/
inductive ArgumentFault where
  | ambiguous (argument : String) (matches_ : List String)
  | noValue (flag : Flag)
  | ignoredValue (flag : Flag) (value : String)
  | unrecognized (arguments : List String)
  deriving DecidableEq, Repr

/-- The wording of a fault. -/
def ArgumentFault.message : ArgumentFault → String
  | .ambiguous argument matches_ =>
    "ambiguous option: " ++ argument ++ " could match " ++ ", ".intercalate matches_
  | .noValue flag => "argument " ++ flag.title ++ ": expected one argument"
  | .ignoredValue flag value =>
    "argument " ++ flag.title ++ ": ignored explicit argument " ++ Text.quoted value
  | .unrecognized arguments => "unrecognized arguments: " ++ " ".intercalate arguments

/-- What an argument looks like. -/
inductive Shape where
  /-- A value, or an argument that nothing takes. -/
  | plain
  /-- The mark after which every argument is plain. -/
  | separator
  /-- An option of one letter, with the characters that are written to it. -/
  | short (flag : Flag) (written : Option (List Char))
  /-- An option with two hyphens, with the value that is assigned to it. -/
  | long (flag : Flag) (value : Option String)
  /-- An option that is not known. -/
  | unknown
  deriving DecidableEq, Repr

namespace Shape

/-- The text before the first `=` and the text after it. -/
def splitEquals (s : String) : Option (String × String) :=
  match s.toList.dropWhile (· ≠ '=') with
  | [] => none
  | _ :: value => some (String.ofList (s.toList.takeWhile (· ≠ '=')), String.ofList value)

/-- Whether a text starts with two hyphens. -/
def isLong (s : String) : Bool := "--".toList.isPrefixOf s.toList

/-- An option under a spelling of its own, with the value that is assigned to it. -/
def ofSpelling (flag : Flag) (spelling : String) (value : Option String) : Shape :=
  if isLong spelling then .long flag value else .short flag (value.map String.toList)

/-- The spellings that an argument with two hyphens may be short for. -/
def longMatches (start : String) : List (String × Flag) :=
  Flag.table.filter fun e => start.toList.isPrefixOf e.1.toList

/-- Whether an argument writes a negative number, which is a value; a line feed may follow it. -/
def isNegativeNumber (s : String) : Bool :=
  let isDigit (c : Char) := (Text.digitValue? c).isSome
  let body := if s.toList.getLast? = some '\n' then s.toList.dropLast else s.toList
  match body with
  | '-' :: body =>
    match body.dropWhile isDigit with
    | [] => !body.isEmpty
    | '.' :: places => !places.isEmpty && places.all isDigit
    | _ => false
  | _ => false

/-- What an argument looks like that is no full spelling. -/
def ofPart (s : String) : Except ArgumentFault Shape :=
  let other := if isNegativeNumber s || s.toList.contains ' ' then Shape.plain else .unknown
  if isLong s then
    let (start, value) := match splitEquals s with
      | some (start, value) => (start, some value)
      | none => (s, none)
    match longMatches start with
    | [] => .ok other
    | [(_, flag)] => .ok (.long flag value)
    | matches_ => .error (.ambiguous s (matches_.map (·.1)))
  else
    match Flag.table.lookup (String.ofList (s.toList.take 2)) with
    | some flag => .ok (.short flag (some (s.toList.drop 2)))
    | none => .ok other

/-- What one argument looks like. -/
def ofArgument (s : String) : Except ArgumentFault Shape :=
  let assigned := (splitEquals s).bind fun (start, value) =>
    (Flag.table.lookup start).map fun flag => ofSpelling flag start (some value)
  match s.toList, Flag.table.lookup s, assigned with
  | '-' :: _ :: _, some flag, _ => .ok (ofSpelling flag s none)
  | '-' :: _ :: _, none, some shape => .ok shape
  | '-' :: _ :: _, none, none => ofPart s
  | _, _, _ => .ok .plain

/-- What all arguments look like. -/
def ofArguments : List String → Except ArgumentFault (List (String × Shape))
  | [] => .ok []
  | "--" :: rest => .ok (("--", .separator) :: rest.map fun s => (s, .plain))
  | s :: rest => do
    let shape ← ofArgument s
    let more ← ofArguments rest
    pure ((s, shape) :: more)

end Shape

/-- What the program is asked about. -/
inductive Subject where
  | line (text : String)
  /-- The mark that separates options from plain arguments is dropped also where it is written to
  an option, which is then left without a line. -/
  | nothing
  deriving DecidableEq, Repr

/-- The subject that the value of an option stands for. -/
def Subject.ofValue (value : String) : Subject := if value = "--" then .nothing else .line value

/-- What the arguments ask for. -/
structure Arguments where
  version : Bool := false
  json : Bool := false
  listSpecs : Bool := false
  configReload : Bool := false
  query : Option Subject := none
  deriving DecidableEq, Repr

/-- How the reading of the arguments ends. -/
inductive Parsed where
  | help
  | run (a : Arguments)
  deriving DecidableEq, Repr

/-- What the options in one argument come to: the options with their values, and the arguments
that are left. -/
structure Taken where
  options : List (Flag × String)
  rest : List (String × Shape)

namespace Arguments

/-- An option to which nothing is written; its value is the next argument. -/
def takeAlone (flag : Flag) (rest : List (String × Shape)) : Except ArgumentFault Taken :=
  if flag.takesValue then
    match rest with
    | (value, .plain) :: rest => .ok { options := [(flag, value)], rest }
    | _ => .error (.noValue flag)
  else .ok { options := [(flag, "")], rest }

/-- An option to which a value is written. -/
def takeAssigned (flag : Flag) (value : String) (rest : List (String × Shape)) :
    Except ArgumentFault Taken :=
  if flag.takesValue then .ok { options := [(flag, value)], rest }
  else .error (.ignoredValue flag value)

/-- An option of one letter with what is written to it: its value if it takes one, else the letters
of more such options. -/
def takeWritten (rest : List (String × Shape)) (flag : Flag) :
    List Char → Except ArgumentFault Taken
  | [] => takeAssigned flag "" rest
  | letter :: letters =>
    let written := String.ofList (letter :: letters)
    if flag.takesValue then takeAssigned flag written rest
    else match Flag.table.lookup (String.ofList ['-', letter]) with
      | none => .error (.ignoredValue flag written)
      | some next => do
        let taken ← if letters.isEmpty then takeAlone next rest else takeWritten rest next letters
        pure { taken with options := (flag, "") :: taken.options }

/-- Sets an option; `none` if it asks for help. -/
def set (a : Arguments) : Flag × String → Option Arguments
  | (.help, _) => none
  | (.version, _) => some { a with version := true }
  | (.query, value) => some { a with query := some (.ofValue value) }
  | (.json, _) => some { a with json := true }
  | (.listSpecs, _) => some { a with listSpecs := true }
  | (.configReload, _) => some { a with configReload := true }

/-- Reads arguments from the left; `extra` are those that no option took, last one first. `fuel`
counts the arguments. -/
def readAll (fuel : Nat) (a : Arguments) (extra : List String) :
    List (String × Shape) → Except ArgumentFault Parsed
  | [] => if extra.isEmpty then .ok (.run a) else .error (.unrecognized extra.reverse)
  | (s, shape) :: rest =>
    match fuel with
    | 0 => .ok (.run a)
    | fuel + 1 => do
      let taken ← match shape with
        | .short flag (some written) => takeWritten rest flag written
        | .short flag none | .long flag none => takeAlone flag rest
        | .long flag (some value) => takeAssigned flag value rest
        | _ => pure { options := [], rest }
      match taken.options.foldlM set a with
      | none => pure .help
      | some a => readAll fuel a (if taken.options.isEmpty then s :: extra else extra) taken.rest

/-- Reads the arguments of the program. -/
def parse (arguments : List String) : Except ArgumentFault Parsed := do
  let shapes ← Shape.ofArguments arguments
  readAll arguments.length {} [] shapes

end Arguments

/-! ## Texts -/

/-- The line that says how the program is called. -/
def usage : String :=
  "usage: termspec [-h] [--version] [--query LINE] [--json] [--list-specs] [--config-reload]\n"

/-- What is reported when the arguments cannot be used. -/
def ArgumentFault.report (f : ArgumentFault) : String :=
  usage ++ "termspec: error: " ++ f.message ++ "\n"

/-- The answer to a call for help. -/
def helpText : String := usage ++ "
termspec: grammar-driven tab completion for shell command lines

options:
  -h, --help            show this help message and exit
  --version, -v         Show version information
  --query LINE, -q LINE
                        Resolve suggestions for LINE and exit
  --json                Print --query results as JSON
  --list-specs          List the commands that have a grammar and exit
  --config-reload       Reload configuration and exit

Examples:
  termspec                          # Start the interactive playground
  termspec --query \"git comm\"       # Show suggestions for a line
  termspec --query \"git commit -m \" --json
  termspec --list-specs             # List known commands
        \n"

end TabCompletion
