import TabCompletion.Grammar.Basic
import TabCompletion.Text.Lowercase

/-!
# Grammars from data

A grammar is read from a JSON value. Keys of two words are accepted with an underscore or in camel
case, and a list of one element may be given as that element. What is read is well formed: every
command and option has names and none is empty, and a command argument stands last in its list.

* `Command.ofJson` reads a command with everything below it.
* `SpecFault` says why a value is no grammar; `LoadFault` adds the timeouts that are no numbers and
  the whole numbers that cannot be written out.
* Of several faults the first in reading order is reported: the parts of a node in the order of
  its fields, lists from the left, everything inside an element before the next one.

These are `load_spec`, `load_option` and `load_arg`. Out of scope: how far a grammar may be nested.
-/

namespace TabCompletion

/-- The nodes of a grammar that are objects with keys. -/
inductive NodeKind where
  | subcommand | option | arg
  deriving DecidableEq, Repr

/-- The word for a node in messages. -/
def NodeKind.word : NodeKind → String
  | .subcommand => "subcommand"
  | .option => "option"
  | .arg => "arg"

/-- Why a value is no grammar. -/
inductive SpecFault where
  | notObject (node : NodeKind)
  | noName (node : NodeKind)
  | unknownStrategy (v : Json)
  | unknownTemplate (v : Json)
  | invalidSuggestion (v : Json)
  | generatorNotObject
  | scriptShape
  /-- A command argument that is not the last one, with its place in the list. -/
  | commandNotLast (name : String) (position : Nat)
  deriving DecidableEq, Repr

/-- The wording of a fault. -/
def SpecFault.message : SpecFault → String
  | .notObject node => node.word ++ " must be an object"
  | .noName node => node.word ++ " requires a non-empty name"
  | .unknownStrategy v => "unknown filter strategy " ++ v.literal
  | .unknownTemplate v => "unknown template " ++ v.literal
  | .invalidSuggestion v => "invalid suggestion " ++ v.literal
  | .generatorNotObject => "generator must be an object"
  | .scriptShape => "generator script must be a string or a list"
  | .commandNotLast name position =>
    "arg " ++ (if name = "" then toString position else Text.quoted name) ++
      " is a command arg but not the last arg"

/-- Why a grammar cannot be read. -/
inductive LoadFault where
  | spec (fault : SpecFault)
  /-- A timeout text that writes no number. -/
  | timeoutText (s : String)
  /-- A timeout that is neither a number nor a text. -/
  | timeoutType (v : Json)
  /-- A whole timeout beyond every double. -/
  | timeoutRange
  /-- A whole number with too many digits in a value that is taken as a text. -/
  | longInteger
  deriving DecidableEq, Repr

/-! ## Keys -/

namespace Members

/-- The value under a key of two words, `first_second` or else `firstSecond`. -/
def getEither? (m : Members) (snake camel : String) : Option Json :=
  match get? m snake with
  | some v => some v
  | none => get? m camel

/-- Whether a key of two words holds a value that counts as yes. -/
def flag (m : Members) (snake camel : String) : Bool :=
  ((getEither? m snake camel).map Json.truthy).getD false

/-- The description, empty if there is none. -/
def description (m : Members) : Json := (get? m "description").getD (.text "")

end Members

/-- The elements of a list; null has none, and any other value is the only one. -/
def Json.elements : Json → List Json
  | .null => []
  | .list items => items
  | v => [v]

/-- A value taken as a text. -/
def loadText (v : Json) : Except LoadFault String :=
  if v.isShown then .ok v.plainText else .error .longInteger

/-- The fault of a value that is shown in its message. -/
def refuse (fault : Json → SpecFault) (v : Json) : LoadFault :=
  if v.isShown then .spec (fault v) else .longInteger

/-- A text that is not empty. -/
def Json.nonemptyText? : Json → Option String
  | .text s => if s = "" then none else some s
  | _ => none

/-- The names of a node. -/
def loadNames (node : NodeKind) (m : Members) : Except LoadFault (List String) :=
  match (Members.getOrNull m "name").elements.mapM Json.nonemptyText? with
  | some (n :: ns) => .ok (n :: ns)
  | _ => .error (.spec (.noName node))

/-- The strategy that a value names in any case; null leaves it unset. -/
def loadStrategy (v : Json) : Except LoadFault Strategy :=
  if v = .null then .ok .unset
  else match Strategy.ofWord? (Text.lower v.plainText) with
    | some s => .ok s
    | none => .error (refuse .unknownStrategy v)

/-- The strategy of a node. -/
def loadStrategyOf (m : Members) : Except LoadFault Strategy :=
  loadStrategy ((Members.getEither? m "filter_strategy" "filterStrategy").getD .null)

/-! ## Arguments -/

/-- The values that one entry lists: itself, or each name of an object under one description. -/
def loadStaticValues : Json → Except LoadFault (List StaticValue)
  | .text s => .ok [{ name := s }]
  | .object m => do
    let names ← (Members.getOrNull m "name").elements.mapM loadText
    pure (names.map fun name => { name, description := Members.description m })
  | v => .error (refuse .invalidSuggestion v)

/-- The template that a value names in any case. -/
def loadTemplate (v : Json) : Except LoadFault Template :=
  match Template.ofWord? (Text.lower v.plainText) with
  | some t => .ok t
  | none => .error (refuse .unknownTemplate v)

/-- The templates of an argument, under `template` or else `templates`. -/
def loadTemplates (m : Members) : Except LoadFault (List Template) :=
  ((Members.get? m "template").getD (Members.getOrNull m "templates")).elements.mapM loadTemplate

/-- A timeout: a number, or a text that writes one. -/
def loadTimeout : Json → Except LoadFault Binary64
  | .real x => .ok x
  | .int n => match Binary64.ofInt? n with
    | some x => .ok x
    | none => .error .timeoutRange
  | .bool b => .ok (if b then .one else .zero)
  | .text s => match Binary64.ofText? s with
    | some x => .ok x
    | none => .error (.timeoutText s)
  | v => .error (.timeoutType v)

/-- What a generator runs, if anything. -/
def loadScript : Json → Except LoadFault (Option Script)
  | .null => .ok none
  | .text line => .ok (some (.shell line))
  | .list parts => (parts.mapM loadText).map fun argv => some (.program argv)
  | _ => .error (.spec .scriptShape)

/-- A generator; null is none. -/
def loadGenerator : Json → Except LoadFault (Option Generator)
  | .null => .ok none
  | .object m => do
    let script ← loadScript (Members.getOrNull m "script")
    let splitOn := (Members.getEither? m "split_on" "splitOn").getD (.text "\n")
    let timeout ← match Members.getOrNull m "timeout" with
      | .null => pure .null
      | v => (loadTimeout v).map .real
    pure (some { script, splitOn, timeout })
  | _ => .error (.spec .generatorNotObject)

/-- One argument. -/
def Arg.ofJson : Json → Except LoadFault Arg
  | .object m => do
    let name ← loadText ((Members.get? m "name").getD (.text ""))
    let values ← (Members.getOrNull m "suggestions").elements.mapM loadStaticValues
    let generator ← loadGenerator (Members.getOrNull m "generator")
    let templates ← loadTemplates m
    let strategy ← loadStrategyOf m
    pure {
      name
      description := Members.description m
      optional := Members.flag m "is_optional" "isOptional"
      variadic := Members.flag m "is_variadic" "isVariadic"
      command := Members.flag m "is_command" "isCommand"
      values := values.flatten
      generator, templates, strategy }
  | _ => .error (.spec (.notObject .arg))

/-- The first command argument that is not the last of its list, with its place; `position` is the
place of the first. -/
def misplacedCommand? (position : Nat) : List Arg → Option (Arg × Nat)
  | a :: b :: rest =>
    if a.command then some (a, position) else misplacedCommand? (position + 1) (b :: rest)
  | _ => none

/-- The arguments of a node. -/
def loadArgs (m : Members) : Except LoadFault (List Arg) := do
  let args ← (Members.getOrNull m "args").elements.mapM Arg.ofJson
  match misplacedCommand? 0 args with
  | some (a, position) => .error (.spec (.commandNotLast a.name position))
  | none => pure args

/-! ## Options and commands -/

/-- One option. -/
def Opt.ofJson : Json → Except LoadFault Opt
  | .object m => do
    let names ← loadNames .option m
    let args ← loadArgs m
    pure {
      names, args
      description := Members.description m
      persistent := Members.flag m "is_persistent" "isPersistent"
      hidden := Members.flag m "is_hidden" "isHidden" }
  | _ => .error (.spec (.notObject .option))

/-- A command of an object whose children are read already. -/
def Command.ofMembers (m : Members) (children : Except LoadFault (List Command)) :
    Except LoadFault Command := do
  let names ← loadNames .subcommand m
  let children ← children
  let options ← (Members.getOrNull m "options").elements.mapM Opt.ofJson
  let args ← loadArgs m
  let strategy ← loadStrategyOf m
  pure {
    names, children, options, args, strategy
    description := Members.description m
    hidden := Members.flag m "is_hidden" "isHidden" }

mutual
/-- A command with everything below it. -/
def Command.ofJson : Json → Except LoadFault Command
  | .object m => Command.ofMembers m (childrenIn m)
  | _ => .error (.spec (.notObject .subcommand))

/-- The children among the members of an object. -/
def childrenIn : List (String × Json) → Except LoadFault (List Command)
  | [] => .ok []
  | (key, v) :: rest => if key = "subcommands" then childrenOf v else childrenIn rest

/-- The children that the value of the key lists. -/
def childrenOf : Json → Except LoadFault (List Command)
  | .null => .ok []
  | .list items => childrenOfItems items
  | .object m => (Command.ofMembers m (childrenIn m)).map fun c => [c]
  | _ => .error (.spec (.notObject .subcommand))

/-- The children that a list holds. -/
def childrenOfItems : List Json → Except LoadFault (List Command)
  | [] => .ok []
  | v :: rest => do
    let c ← Command.ofJson v
    let cs ← childrenOfItems rest
    pure (c :: cs)
end

end TabCompletion
