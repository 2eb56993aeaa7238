import TabCompletion.Proofs.Offer
import TabCompletion.Proofs.Query.Sources
import TabCompletion.Answer

/-!
# What a query does

What a query does depends on its context and on what is seen of the disk, not on which listings
happen to be remembered: memories that show the same (`Listings.Alike`) lead to the same answer, the
same new events and memories that show the same again (`Query.Does`).

Of the events some are runs: a script that is run, the processes that are listed, a function that is
called (`Event.isRun`). The rest are notes. A generator runs once or not at all (`Generator.run?`),
and only the argument that is asked for values where the walk of a line stops has its generator run.

Results:
* `does_bind_ok`, `does_bind_error`: what a sequence does. `runs_bind` counts the runs of one.
* `does_scan`: reading a directory shows nothing else afterwards.
* `candidates_runs`, `sourced_runs`, `offer_runs`: the runs of a generator, of the sources of an
  argument and of the offer at a position.
* **`answer_runs`**: what the answer to a line does, and which runs it makes.
-/

namespace TabCompletion

/-! ## What is seen -/

/-- Of every directory the remembered listings show the same. -/
def Listings.Alike (h : Host) (known other : Listings) : Prop :=
  ∀ path, known.seen h.disk h.workingDir path = other.seen h.disk h.workingDir path

/-- Whether something outside the program was run or called. -/
def Event.isRun : Event → Bool
  | .script .. | .processes .. | .function _ => true
  | .note _ => false

/-- The texts with which a provider was called. -/
def Event.texts? : Event → Option (List String)
  | .processes _ texts | .function texts => some texts
  | .script .. | .note _ => none

namespace Query

variable {α β : Type} {context : Context} {known : Listings} {new new' : List Event}
  {runs : List Event}

/-- With any memory that shows what `known` does, the query ends in `r`, adds the events `new` and
leaves a memory that shows the same. -/
def Does (q : Query α) (context : Context) (known : Listings) (r : Except Fault α)
    (new : List Event) : Prop :=
  ∀ memory, memory.listings.Alike context.host known →
    ∃ after, q.answer context memory = (r, after) ∧ after.listings.Alike context.host known ∧
      after.events = memory.events ++ new

theorem does_pure (a : α) : (pure a : Query α).Does context known (.ok a) [] :=
  fun memory h => ⟨memory, rfl, h, (List.append_nil _).symm⟩

theorem does_throw (f : Fault) : (throw f : Query α).Does context known (.error f) [] :=
  fun memory h => ⟨memory, rfl, h, (List.append_nil _).symm⟩

theorem does_liftM (r : Except Fault α) : (liftM r : Query α).Does context known r [] :=
  fun memory h => ⟨memory, answer_liftM r context memory, h, (List.append_nil _).symm⟩

theorem does_emit (e : Event) : (emit e).Does context known (.ok ()) [e] :=
  fun memory h => ⟨_, answer_emit e context memory, h, rfl⟩

/-- After a query that answers, the next one goes on. -/
theorem does_bind_ok {q : Query α} {next : α → Query β} {a : α} {r : Except Fault β}
    (hq : q.Does context known (.ok a) new) (hnext : (next a).Does context known r new') :
    (q >>= next).Does context known r (new ++ new') := by
  intro memory h
  obtain ⟨mid, hanswer, halike, hevents⟩ := hq memory h
  obtain ⟨after, hanswer', halike', hevents'⟩ := hnext mid halike
  refine ⟨after, ?_, halike', ?_⟩
  · rw [answer_bind, hanswer]
    exact hanswer'
  · rw [hevents', hevents, List.append_assoc]

/-- A fault ends a sequence. -/
theorem does_bind_error {q : Query α} {next : α → Query β} {f : Fault}
    (hq : q.Does context known (.error f) new) :
    (q >>= next).Does context known (.error f) new := by
  intro memory h
  obtain ⟨after, hanswer, halike, hevents⟩ := hq memory h
  refine ⟨after, ?_, halike, hevents⟩
  rw [answer_bind, hanswer]

/-- **Reading a directory shows nothing else afterwards.** -/
theorem does_scan (path : String) : ∃ r, (scan path).Does context known r [] := by
  refine ⟨(known.seen context.host.disk context.host.workingDir path).mapError .file, ?_⟩
  intro memory h
  rw [← h path, answer_scan, Listings.seen]
  cases hscan : memory.listings.scan context.host.disk context.host.workingDir path with
  | error f => exact ⟨memory, rfl, h, (List.append_nil _).symm⟩
  | ok found =>
    obtain ⟨l, after⟩ := found
    refine ⟨{ memory with listings := after }, rfl, fun other => ?_, (List.append_nil _).symm⟩
    exact (Listings.seen_of_scan hscan other).trans (h other)

/-! ## Runs -/

/-- The query does the same with all memories that show what `known` does, and its new events have
the given runs among them. -/
def Runs (q : Query α) (context : Context) (known : Listings) (runs : List Event) : Prop :=
  ∃ r new, q.Does context known r new ∧ new.filter (·.isRun) = runs

theorem runs_pure (a : α) : (pure a : Query α).Runs context known [] := ⟨_, _, does_pure a, rfl⟩

theorem runs_throw (f : Fault) : (throw f : Query α).Runs context known [] :=
  ⟨_, _, does_throw f, rfl⟩

theorem runs_liftM (r : Except Fault α) : (liftM r : Query α).Runs context known [] :=
  ⟨_, _, does_liftM r, rfl⟩

theorem runs_log (n : Note) : (log n).Runs context known [] := ⟨_, _, does_emit (.note n), rfl⟩

theorem runs_emit {e : Event} (h : e.isRun = true) : (emit e).Runs context known [e] :=
  ⟨_, _, does_emit e, by rw [List.filter_cons_of_pos h, List.filter_nil]⟩

theorem runs_scan (path : String) : (scan path).Runs context known [] := by
  obtain ⟨r, h⟩ := does_scan path
  exact ⟨r, [], h, rfl⟩

theorem runs_read_bind {next : Context → Query β} (h : (next context).Runs context known runs) :
    (read >>= next).Runs context known runs := h

/-- A sequence makes the runs of its first query, if what follows makes none. -/
theorem runs_bind {q : Query α} {next : α → Query β} (hq : q.Runs context known runs)
    (hnext : ∀ a, (next a).Runs context known []) : (q >>= next).Runs context known runs := by
  obtain ⟨r, new, hdoes, hruns⟩ := hq
  cases r with
  | error f => exact ⟨_, _, does_bind_error hdoes, hruns⟩
  | ok a =>
    obtain ⟨r, new', hdoes', hruns'⟩ := hnext a
    refine ⟨r, new ++ new', does_bind_ok hdoes hdoes', ?_⟩
    rw [List.filter_append, hruns, hruns', List.append_nil]

/-- A brief query makes no run. -/
theorem Brief.noRuns {q : Query α} (h : q.Brief) : q.Runs context known [] := by
  cases h with
  | answered a => exact runs_pure a
  | failed f => exact runs_throw f
  | noted n a => exact runs_bind (runs_log n) fun _ => runs_pure a

end Query

/-! ## Generators -/

variable {context : Context} {known : Listings}

/-- The event of calling a provider with the accepted tokens. -/
def Provider.event (accepted : List String) : Provider → Event
  | .processes => .processes ["pid", "name"] accepted
  | .processNames => .processes ["name"] accepted
  | .custom _ => .function accepted

/-- The one run that a generator makes for the accepted tokens, if any. -/
def Generator.run? (g : Generator) (settings : Settings) (accepted : List String) : Option Event :=
  match g.provider, g.script with
  | some p, _ => some (p.event accepted)
  | none, some s => some (.script s (g.patience settings))
  | none, none => none

/-- A provider is called with the accepted tokens. -/
@[simp] theorem Provider.texts_event (p : Provider) (accepted : List String) :
    (p.event accepted).texts? = some accepted := by
  cases p <;> rfl

theorem call_runs (p : Provider) (accepted : List String) :
    (p.call accepted).Runs context known [p.event accepted] := by
  cases p with
  | processes | processNames | custom call =>
    exact Query.runs_read_bind (Query.runs_bind (Query.runs_emit rfl) fun _ => Query.runs_pure _)

theorem output_runs (g : Generator) (s : Script) :
    (g.output s).Runs context known [.script s (g.patience context.settings)] := by
  rw [output_eq]
  refine Query.runs_read_bind (Query.runs_bind (Query.runs_emit rfl) fun _ => ?_)
  exact (afterRun_brief _).noRuns

/-- **A generator runs once**: its provider is called or, without one, its script is run. -/
theorem candidates_runs (g : Generator) (accepted : List String) :
    (g.candidates accepted).Runs context known (g.run? context.settings accepted).toList := by
  rw [candidates_eq]
  unfold Generator.run?
  cases g.provider with
  | some p =>
    exact Query.runs_bind (call_runs p accepted) fun items => (afterCall_brief items).noRuns
  | none =>
    cases g.script with
    | none => exact Query.runs_pure []
    | some s =>
      exact Query.runs_bind (output_runs g s) fun output => (afterOutput_brief g output).noRuns

/-! ## Arguments -/

/-- The run that an argument makes when it is asked for values. -/
def Arg.run? (a : Arg) (settings : Settings) (accepted : List Accepted) : Option Event :=
  a.generator.bind fun g => g.run? settings (accepted.map (·.text))

theorem generated_runs (a : Arg) (typed : Option String) (s : Strategy)
    (accepted : List Accepted) :
    (a.generated typed s accepted).Runs context known
      (a.run? context.settings accepted).toList := by
  unfold Arg.generated Arg.run?
  cases a.generator with
  | none => exact Query.runs_pure []
  | some g =>
    exact Query.runs_read_bind (Query.runs_bind (candidates_runs g _) fun _ => Query.runs_pure _)

/-- Paths are read, not run. -/
theorem paths_runs (a : Arg) (typed : Option String) (s : Strategy) :
    (a.paths typed s).Runs context known [] := by
  unfold Arg.paths Arg.pathsFrom
  split
  · exact Query.runs_pure []
  · refine Query.runs_read_bind (Query.runs_bind (Query.runs_liftM _) fun start => ?_)
    refine Query.runs_bind (Query.runs_liftM _) fun path => ?_
    exact Query.runs_bind (Query.runs_scan path) fun _ => Query.runs_pure _

theorem sourced_runs (a : Arg) (typed : Option String) (s : Strategy) (accepted : List Accepted) :
    (a.sourced typed s accepted).Runs context known
      (a.run? context.settings accepted).toList := by
  unfold Arg.sourced
  refine Query.runs_read_bind (Query.runs_bind (generated_runs a typed s accepted) fun _ => ?_)
  exact Query.runs_bind (paths_runs a typed s) fun _ => Query.runs_pure _

theorem argCandidates_runs (a : Arg) (roots : Roots) (typed : Option String) (s : Strategy)
    (accepted : List Accepted) :
    (a.candidates roots typed s accepted).Runs context known
      (a.run? context.settings accepted).toList := by
  unfold Arg.candidates
  exact Query.runs_read_bind
    (Query.runs_bind (sourced_runs a typed s accepted) fun _ => Query.runs_pure _)

/-! ## Positions and lines -/

/-- The run that is made at a position: that of the argument which is asked for values. -/
def Position.run? (p : Position) (settings : Settings) : Option Event :=
  p.asked?.bind fun a => a.run? settings p.level.accepted

/-- The run that is made where a walk ends. -/
def Stop.run? (settings : Settings) : Stop → Option Event
  | .nowhere | .noToken => none
  | .reached p _ => p.run? settings

/-- Where the walk for the tokens of a line ends, if their command is known and complete. -/
def Registry.stop? (reg : Registry) : List Token → Option Stop
  | [] => none
  | first :: rest =>
    if first.complete then (reg.lookup first.text).map fun c => c.walk reg.lookup rest else none

/-- The run that is made for the tokens of a line. -/
def Registry.run? (reg : Registry) (settings : Settings) (tokens : List Token) : Option Event :=
  (reg.stop? tokens).bind (Stop.run? settings)

/-- **Only the argument that is asked for values** has its generator run. -/
theorem offer_runs (p : Position) (roots : Roots) (typed : Option String) :
    (p.offer roots typed).Runs context known (p.run? context.settings).toList := by
  rw [offer_eq]
  refine Query.runs_read_bind (Query.runs_bind ?_ fun _ => Query.runs_pure _)
  unfold Position.values Position.run?
  cases p.asked? with
  | none => exact Query.runs_pure []
  | some a => exact argCandidates_runs a roots typed p.strategy p.level.accepted

theorem stopOffer_runs (stop : Stop) (roots : Roots) :
    (stop.offer roots).Runs context known (stop.run? context.settings).toList := by
  cases stop with
  | nowhere => exact Query.runs_pure _
  | noToken => exact (Query.Brief.noted _ _).noRuns
  | reached p typed => exact offer_runs p roots typed

theorem offerForTokens_runs (reg : Registry) (tokens : List Token) :
    (reg.offerForTokens tokens).Runs context known
      (reg.run? context.settings tokens).toList := by
  unfold Registry.offerForTokens Registry.run? Registry.stop?
  cases tokens with
  | nil => exact Query.runs_pure _
  | cons first rest =>
    dsimp only
    cases first.complete with
    | false => exact Query.runs_read_bind (Query.runs_pure _)
    | true =>
      rw [if_pos rfl, if_pos rfl]
      cases reg.lookup first.text with
      | none => exact (Query.Brief.noted _ _).noRuns
      | some c => exact stopOffer_runs (c.walk reg.lookup rest) reg.roots

theorem offerFor_runs (reg : Registry) (line : String) :
    (reg.offerFor line).Runs context known
      (reg.run? context.settings (tokens line)).toList :=
  Query.runs_bind (offerForTokens_runs reg (tokens line)) fun _ => Query.runs_pure _

/-- **What the answer to a line does**: the same with all memories that show the same, with the run
of the argument that is asked for values. -/
theorem answer_runs (reg : Registry) (line : String) :
    (reg.answer line).Runs context known (reg.run? context.settings (tokens line)).toList := by
  unfold Registry.answer
  refine Query.runs_bind (offerFor_runs reg line) fun found => ?_
  obtain ⟨offer, replaced⟩ := found
  refine Query.runs_read_bind ?_
  split
  · exact Query.runs_pure _
  · exact Query.runs_throw _

end TabCompletion
