import TabCompletion.Source.Generator
import TabCompletion.Source.Template
import TabCompletion.Walk

/-!
# What is offered

The candidates at a position of the grammar, in the order in which they are offered: those of the
argument that waits for its value (its generator, its listed values, its files and folders, and
root commands if it is a command), then children, then options. Each name is offered once, and
none that an accepted token has.

* `distinct_nodup`, `mem_distinct_iff`: names are offered once, and no other name is lost.
* At an argument for which nothing is offered, its name is the hint.

This is the dispatcher: `Level.offerAtCommand` is `subcommand_driven`, and the offer at an argument
is `arg_driven`.
-/

namespace TabCompletion

/-- Candidates, or a hint for the value that is expected. -/
structure Offer where
  candidates : List Candidate := []
  hint : String := ""
  deriving DecidableEq, Repr

/-- The root commands: their grammars by name, and the names that pass a filter as candidates. -/
structure Roots where
  lookup : String → Option Command := fun _ => none
  names : Settings → Option String → Strategy → List Candidate := fun _ _ _ => []

/-! ## Children and options -/

/-- The name under which a node is offered: the first among the longest of its names that pass
the filter. -/
def Settings.offeredName (c : Settings) (s : Strategy) (typed : Option String)
    (names : List String) : String :=
  longestName (names.filter (c.admits s typed))

/-- A candidate for a node, if one of its names passes the filter. -/
def Settings.offerNode (c : Settings) (s : Strategy) (typed : Option String) (kind : Kind)
    (names : List String) (description : Json) : Option Candidate :=
  let name := c.offeredName s typed names
  if name = "" then none else some { name, kind, description }

/-- The children of a command that are offered. -/
def Command.childCandidates (command : Command) (c : Settings) (s : Strategy)
    (typed : Option String) : List Candidate :=
  (command.children.filter (!·.hidden)).filterMap fun child =>
    c.offerNode s typed .subcommand child.names child.description

/-- Whether an option is among the accepted tokens under any of its names. -/
def Opt.used (o : Opt) (accepted : List Accepted) : Bool :=
  accepted.any fun t => o.names.contains t.text

/-- The options of a list that are offered. -/
def Opt.candidates (options : List Opt) (c : Settings) (s : Strategy) (typed : Option String)
    (accepted : List Accepted) : List Candidate :=
  (options.filter fun o => !o.hidden && !(o.used accepted)).filterMap fun o =>
    c.offerNode s typed .option o.names o.description

/-- The children and options of a level that are offered. -/
def Level.nodeCandidates (l : Level) (c : Settings) (s : Strategy) (typed : Option String) :
    List Candidate :=
  l.command.childCandidates c s typed ++ Opt.candidates l.options c s typed l.accepted

/-! ## Each name once -/

/-- The candidates whose name is not in `seen`, each name once. -/
def distinctFrom (seen : List String) : List Candidate → List Candidate
  | [] => []
  | c :: rest =>
    if seen.contains c.name then distinctFrom seen rest
    else c :: distinctFrom (c.name :: seen) rest

/-- The candidates that no accepted token names, each name once, where it comes first. -/
def distinct (accepted : List Accepted) (candidates : List Candidate) : List Candidate :=
  distinctFrom (accepted.map (·.text)) candidates

theorem mem_names_distinctFrom_iff {seen : List String} {cs : List Candidate} {name : String} :
    name ∈ (distinctFrom seen cs).map (·.name) ↔ name ∈ cs.map (·.name) ∧ name ∉ seen := by
  induction cs generalizing seen with
  | nil => simp [distinctFrom]
  | cons c rest ih =>
    simp only [distinctFrom]
    split
    · rename_i h
      have h : c.name ∈ seen := by simpa using h
      rw [ih]
      grind
    · rename_i h
      have h : c.name ∉ seen := by simpa using h
      simp only [List.map_cons, List.mem_cons, ih]
      grind

theorem nodup_names_distinctFrom (seen : List String) (cs : List Candidate) :
    ((distinctFrom seen cs).map (·.name)).Nodup := by
  induction cs generalizing seen with
  | nil => simp [distinctFrom]
  | cons c rest ih =>
    simp only [distinctFrom]
    split
    · exact ih seen
    · refine List.nodup_cons.2 ⟨fun h => ?_, ih _⟩
      exact (mem_names_distinctFrom_iff.1 h).2 (by simp)

theorem distinct_nodup (accepted : List Accepted) (cs : List Candidate) :
    ((distinct accepted cs).map (·.name)).Nodup := nodup_names_distinctFrom _ cs

theorem mem_distinct_iff {accepted : List Accepted} {cs : List Candidate} {name : String} :
    name ∈ (distinct accepted cs).map (·.name) ↔
      name ∈ cs.map (·.name) ∧ name ∉ accepted.map (·.text) := mem_names_distinctFrom_iff

/-! ## Offers at a position -/

/-- What the sources of an argument offer: its generator, its listed values, its paths. -/
def Arg.sourced (a : Arg) (typed : Option String) (s : Strategy) (accepted : List Accepted) :
    Query (List Candidate) := do
  let settings := (← read).settings
  let generated ← a.generated typed s accepted
  let paths ← a.paths typed s
  pure (generated ++ a.listed settings typed s ++ paths)

/-- What is offered for the value of an argument: its sources, and root commands if it is a
command. -/
def Arg.candidates (a : Arg) (roots : Roots) (typed : Option String) (s : Strategy)
    (accepted : List Accepted) : Query (List Candidate) := do
  let settings := (← read).settings
  let sourced ← a.sourced typed s accepted
  pure (if a.command then sourced ++ roots.names settings typed s else sourced)

/-- The offer at a command, by its own strategy: values of its first argument and, unless its
arguments are used up, its children and options. -/
def Level.offerAtCommand (l : Level) (roots : Roots) (depleted positional : Bool)
    (typed : Option String) : Query Offer := do
  if depleted && positional then pure {}
  else do
    let settings := (← read).settings
    let s := l.command.strategy
    let values ← match l.command.args with
      | [] => pure []
      | a :: _ => a.candidates roots typed s l.accepted
    let nodes := if positional then [] else l.nodeCandidates settings s typed
    pure { candidates := distinct l.accepted (values ++ nodes) }

/-- The offer at an argument, by its own strategy: its values and, if it may be left out and has
not taken a value, children and options. -/
def Level.offerAtArg (l : Level) (roots : Roots) (a : Arg) (bound : Bool)
    (typed : Option String) : Query Offer := do
  let settings := (← read).settings
  let values ← a.candidates roots typed a.strategy l.accepted
  let nodes :=
    if a.optional && !(a.variadic && bound) then l.nodeCandidates settings a.strategy typed else []
  let candidates := distinct l.accepted (values ++ nodes)
  pure { candidates, hint := if candidates.isEmpty then a.name else "" }

/-- The offer at a position. -/
def Position.offer (p : Position) (roots : Roots) (typed : Option String) : Query Offer :=
  match p with
  | .atCommand here depleted positional => here.offerAtCommand roots depleted positional typed
  | .atArg here a _ _ bound => here.offerAtArg roots a bound typed

/-- The offer where a walk ends. -/
def Stop.offer (stop : Stop) (roots : Roots) : Query Offer :=
  match stop with
  | .nowhere => pure {}
  | .noToken => do
    Query.log .optionWithoutToken
    pure {}
  | .reached p typed => p.offer roots typed

/-- The offer for the tokens that follow the name of a root command. -/
def Command.offer (c : Command) (roots : Roots) (tokens : List Token) : Query Offer :=
  (c.walk roots.lookup tokens).offer roots

end TabCompletion
