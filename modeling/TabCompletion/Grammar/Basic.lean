import TabCompletion.Candidate

/-!
# Command grammars

A grammar is a tree. A command has names, child commands, options and positional arguments; an
option has names and arguments of its own; an argument says where its values come from: a list in
the grammar, a generator, the files and folders of the disk. Descriptions are data that is handed
on as given.
-/

namespace TabCompletion

/-- How typed text selects candidates. An unset strategy leaves the choice to the settings. -/
inductive Strategy where
  | unset
  | leading
  | fuzzy
  deriving DecidableEq, Repr

/-- The word for a strategy in grammars and settings. -/
def Strategy.word : Strategy → String
  | .unset => "default"
  | .leading => "prefix"
  | .fuzzy => "fuzzy"

/-- The strategy that a word names. -/
def Strategy.ofWord? (w : String) : Option Strategy :=
  [Strategy.unset, .leading, .fuzzy].find? (·.word = w)

@[simp] theorem Strategy.ofWord?_word (s : Strategy) : ofWord? s.word = some s := by
  cases s <;> rfl

/-- The path values that an argument takes. -/
inductive Template where
  | filepaths
  | folders
  deriving DecidableEq, Repr

/-- The word for a template in grammars. -/
def Template.word : Template → String
  | .filepaths => "filepaths"
  | .folders => "folders"

/-- The template that a word names. -/
def Template.ofWord? (w : String) : Option Template :=
  [Template.filepaths, .folders].find? (·.word = w)

@[simp] theorem Template.ofWord?_word (t : Template) : ofWord? t.word = some t := by
  cases t <;> rfl

/-- A value listed in the grammar. -/
structure StaticValue where
  name : String
  description : Json := .text ""
  deriving DecidableEq, Repr

/-- What a generator runs: a line for the shell, or a program with its arguments. -/
inductive Script where
  | shell (line : String)
  | program (argv : List String)
  deriving DecidableEq, Repr

/-- What a generator calls: the list of processes, the list of their names, or a function of the
accepted tokens, which may fail. -/
inductive Provider where
  | processes
  | processNames
  | custom (call : List String → Except String (List Item))

/-- A source of candidates that is asked anew for every query. A provider goes before a script.
The output of a script is turned into items by `reader`, or cut at `splitOn`. -/
structure Generator where
  script : Option Script := none
  provider : Option Provider := none
  reader : Option (String → Except String (List Item)) := none
  splitOn : Json := .text "\n"
  /-- Seconds that the script may take; a value that counts as no leaves them to the settings. -/
  timeout : Json := .null

/-- Whether there is nothing to run or to call. -/
def Generator.isEmpty (g : Generator) : Bool := g.script.isNone && g.provider.isNone

/-- A positional argument of a command, or an argument of an option. -/
structure Arg where
  name : String := ""
  description : Json := .text ""
  optional : Bool := false
  variadic : Bool := false
  /-- The argument is itself a command line. -/
  command : Bool := false
  values : List StaticValue := []
  generator : Option Generator := none
  templates : List Template := []
  strategy : Strategy := .unset

/-- An option of a command. A persistent option holds for the commands below too. -/
structure Opt where
  names : List String
  description : Json := .text ""
  args : List Arg := []
  persistent : Bool := false
  hidden : Bool := false

/-- A command with its children. A hidden one is understood but not offered. -/
structure Command where
  names : List String
  description : Json := .text ""
  children : List Command := []
  options : List Opt := []
  args : List Arg := []
  strategy : Strategy := .unset
  hidden : Bool := false
  deriving Inhabited

/-! ## Looking up names -/

/-- The first option that has the name. -/
def Opt.find? (name : String) (options : List Opt) : Option Opt :=
  options.find? (·.names.contains name)

/-- The first child that has the name. -/
def Command.child? (c : Command) (name : String) : Option Command :=
  c.children.find? (·.names.contains name)

/-- The first among the longest of some names; of none, the empty name. -/
def longestName (names : List String) : String :=
  names.foldl (fun best n => if best.length < n.length then n else best) ""

/-- The first among the shortest of some names; of none, the empty name. -/
def shortestName : List String → String
  | [] => ""
  | n :: rest => rest.foldl (fun best m => if m.length < best.length then m else best) n

/-- Whether no argument of the list needs a value. -/
def allOptional (args : List Arg) : Bool := args.all (·.optional)

end TabCompletion
