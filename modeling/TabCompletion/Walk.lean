import TabCompletion.CommandLine
import TabCompletion.Grammar.Persistent

/-!
# The walk through a grammar

The complete tokens of a line lead through the grammar of its command, token by token, to the
position of the cursor. A position is either at a command, where a child, an option or a first
value may follow, or at an argument that waits for its value.

* `Position.step` reads one token. It may lead on, it may name a nested command, whose own grammar
  is walked from then on, or it may be unknown.
* `walk` reads tokens until none is left or one is still typed; that is where it stops.
* Where every argument that is left is optional, options and children are read before values
  (`Level.escape?`); a variadic argument takes values until then.

This is the token resolver. Its handlers (`handle_subcommand`, `handle_option`, `handle_arg`,
`handle_command`) call each other with the tokens that are left, and a position is what a handler is
called with; the calls themselves are followed in `Proofs.Walk.Handlers`. Out of scope: how far
calls may be nested, which bounds the number of tokens. Here a line may have any number of them.
-/

namespace TabCompletion

/-- The command that the walk is in, the persistent options handed down to it, and the tokens
accepted so far. -/
structure Level where
  command : Command
  inForce : List Opt := []
  accepted : List Accepted := []

/-- A place in the grammar at which the walk may stop. -/
inductive Position where
  /-- At a command. After its arguments or those of an option are used up, `depleted` is set, and
  `positional` says which of the two. -/
  | atCommand (here : Level) (depleted positional : Bool)
  /-- At an argument, before those in `rest`. It belongs to an option if `ofOption` is set, and
  has taken a value already if `bound` is set. -/
  | atArg (here : Level) (arg : Arg) (rest : List Arg) (ofOption bound : Bool)

/-- Where one token leads. -/
inductive Move where
  /-- The token is unknown. -/
  | unknown
  /-- To the next position. -/
  | next (p : Position)
  /-- Into a nested command, which is entered once a token follows its name. -/
  | nested (p : Position)

/-- The start of a command. -/
def Position.start (here : Level) : Position := .atCommand here false false

/-- The position before a list of arguments; with none left, it is back at the command. -/
def Position.before (here : Level) (args : List Arg) (ofOption bound : Bool) : Position :=
  match args with
  | [] => .atCommand here true (!ofOption)
  | a :: rest => .atArg here a rest ofOption bound

namespace Level

/-- The level with the command's own persistent options among those in force. -/
def gathered (l : Level) : Level :=
  { l with inForce := mergePersistent l.inForce l.command.options }

/-- All options that may be typed here. -/
def options (l : Level) : List Opt := l.command.options ++ l.inForce

/-- The level after one more accepted token. -/
def accept (l : Level) (text : String) (persist : Bool) : Level :=
  { l with accepted := l.accepted ++ [{ text, persist }] }

/-- After an option: at its arguments if it has any. -/
def afterOption (l : Level) (o : Opt) (text : String) : Position :=
  let l := l.accept text (isPersistentName text l.inForce)
  match o.args with
  | [] => .start l
  | a :: rest => .atArg l a rest true false

/-- At a child: what is in force stays, and of the accepted tokens the persistent ones. -/
def descend (l : Level) (child : Command) : Position :=
  .start { command := child, inForce := l.inForce, accepted := keptBelow l.accepted }

/-- Reads a token as an option or a child; `none` if it is neither and may be a value. -/
def escape? (l : Level) (t : Token) : Option Move :=
  if t.isOption then
    match Opt.find? t.text l.options with
    | some o => some (.next (l.afterOption o t.text))
    | none => some .unknown
  else (l.command.child? t.text).map fun c => .next (l.descend c)

/-- The nested command that a name stands for: a root command, which starts afresh, or else a
child of the command. -/
def nested (l : Level) (roots : String → Option Command) (name : String) : Move :=
  match roots name with
  | some c => .nested (.start { command := c })
  | none =>
    match l.command.child? name with
    | some c => .nested (.start { command := c, inForce := l.inForce })
    | none => .unknown

/-- Reads a token as the value of an argument. -/
def takeValue (l : Level) (roots : String → Option Command) (text : String) (a : Arg)
    (rest : List Arg) (ofOption : Bool) : Move :=
  let after := l.accept text false
  if a.variadic then .next (.atArg after a rest ofOption true)
  else if a.command then l.nested roots text
  else .next (.before after rest ofOption false)

end Level

/-- Reads one complete token. -/
def Position.step (roots : String → Option Command) (p : Position) (t : Token) : Move :=
  match p with
  | .atCommand here _ _ =>
    let here := here.gathered
    match here.escape? t, here.command.args with
    | some move, _ => move
    | none, [] => .unknown
    | none, a :: rest => here.takeValue roots t.text a rest false
  | .atArg here a rest ofOption _ =>
    match if allOptional (a :: rest) then here.escape? t else none with
    | some move => move
    | none => here.takeValue roots t.text a rest ofOption

/-- Where a walk ends. -/
inductive Stop where
  /-- A token was unknown, or a nested command is named but not entered. -/
  | nowhere
  /-- An option was to be read where no token is left. -/
  | noToken
  /-- At a position, where `typed` is the text of the token under the cursor. -/
  | reached (p : Position) (typed : Option String)

/-- Walks from a position until the tokens end or one of them is not complete. -/
def walk (roots : String → Option Command) : Position → List Token → Stop
  | p, [] => .reached p none
  | p, t :: rest =>
    if t.complete then
      match p.step roots t with
      | .unknown => .nowhere
      | .next q => walk roots q rest
      | .nested q => if rest.isEmpty then .nowhere else walk roots q rest
    else .reached p (some t.text)

/-- Walks the tokens that follow the name of a root command. -/
def Command.walk (c : Command) (roots : String → Option Command) (tokens : List Token) : Stop :=
  TabCompletion.walk roots (.start { command := c }) tokens

/-- Walks tokens of which the first names the option `o`. -/
def Level.walkOption (l : Level) (roots : String → Option Command) (o : Opt) : List Token → Stop
  | [] => .noToken
  | t :: rest => TabCompletion.walk roots (l.afterOption o t.text) rest

/-- Walks tokens of which the first names a nested command. -/
def Level.walkNested (l : Level) (roots : String → Option Command) : List Token → Stop
  | t :: next :: rest =>
    match l.nested roots t.text with
    | .nested q => TabCompletion.walk roots q (next :: rest)
    | _ => .nowhere
  | _ => .nowhere

end TabCompletion
