import TabCompletion.Filter
import TabCompletion.Grammar.Persistent
import TabCompletion.Query
import TabCompletion.Text.Lines

/-!
# Candidates of generators

A generator is asked for every query anew. It calls its provider or, without one, runs its script;
it never does both. A provider or script that fails offers nothing and leaves a note. What keeps a
script from being run or its output from being read ends the query.

These are `generate` and `run_script`: `Generator.candidates` and `Generator.output`. Of the faults
of running a script `run_script` catches those of the system and of the time; the others
(`ScriptFault`) it lets pass. Out of scope: what a script prints beside its output, how long it
really takes, and a list of processes that cannot be read.
-/

namespace TabCompletion

/-- A process by its number. -/
def Process.candidate (p : Process) : Candidate :=
  { name := toString p.number, kind := .arg, description := .text p.name }

/-- The names of some processes, each once and in order. -/
def Process.names (ps : List Process) : List String :=
  ((ps.map (·.name)).filter (· ≠ "")).eraseDups.mergeSort (· ≤ ·)

/-- What a provider offers for the accepted tokens. -/
def Provider.call (p : Provider) (accepted : List String) :
    Query (Except String (List Item)) := do
  let host := (← read).host
  match p with
  | .processes => do
    Query.emit (.processes ["pid", "name"] accepted)
    pure (.ok (host.processes.map fun p => .candidate p.candidate))
  | .processNames => do
    Query.emit (.processes ["name"] accepted)
    pure (.ok ((Process.names host.processes).map fun name =>
      .candidate { name, kind := .arg, description := .text "process" }))
  | .custom call => do
    Query.emit (.function accepted)
    pure (call accepted)

namespace Generator

/-- The seconds that the script may take: the generator's own, unless it has none or they are
zero, else the configured ones. -/
def patience (g : Generator) (c : Settings) : Json :=
  if g.timeout.truthy then g.timeout else c.generatorTimeout

/-- How the script ends in the time that the generator has for it. -/
def outcome (g : Generator) (context : Context) (s : Script) : Outcome :=
  context.host.outcome s (g.patience context.settings)

/-- The output of a script that ends well within its time. -/
def output (g : Generator) (s : Script) : Query (Option String) := do
  let context ← read
  Query.emit (.script s (g.patience context.settings))
  match g.outcome context s with
  | .finished output 0 => pure (some output)
  | .escaped f => throw (.script f)
  | _ => do
    Query.log .scriptFailed
    pure none

/-- The text at which output is cut; line feeds unless another text is given. -/
def separator (g : Generator) : Except Fault String :=
  if g.splitOn.truthy then
    match g.splitOn with
    | .text s => .ok s
    | v => .error (.separator v)
  else .ok "\n"

/-- What the generator offers for the accepted tokens. -/
def candidates (g : Generator) (accepted : List String) : Query (List Candidate) := do
  match g.provider, g.script with
  | some p, _ => do
    match ← p.call accepted with
    | .ok items => pure (candidatesOf items)
    | .error _ => do
      Query.log .functionFailed
      pure []
  | none, none => pure []
  | none, some s => do
    match ← g.output s with
    | none => pure []
    | some output =>
      match g.reader with
      | some reader =>
        match reader output with
        | .ok items => pure (candidatesOf items)
        | .error _ => do
          Query.log .readerFailed
          pure []
      | none =>
        match g.separator with
        | .ok sep => pure (candidatesOf ((Text.splitOn sep output).map fun s => .value (.text s)))
        | .error f => throw f

end Generator

namespace Arg

/-- The candidates of an argument's generator that pass the filter. -/
def generated (a : Arg) (typed : Option String) (s : Strategy) (accepted : List Accepted) :
    Query (List Candidate) := do
  match a.generator with
  | none => pure []
  | some g => do
    let settings := (← read).settings
    let offered ← g.candidates (accepted.map (·.text))
    pure (offered.filter fun c => settings.admits s typed c.name)

/-- The values listed in the grammar that pass the filter. -/
def listed (a : Arg) (settings : Settings) (typed : Option String) (s : Strategy) :
    List Candidate :=
  (a.values.filter fun v => settings.admits s typed v.name).map fun v =>
    { name := v.name, kind := .arg, description := v.description }

end Arg

end TabCompletion
