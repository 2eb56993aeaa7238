import TabCompletion.Proofs.Query.Sources

/-!
# Queries that nothing tells apart

The two lists of processes are called with the accepted tokens, as every provider is, and do not
look at them. So queries may differ in these texts only. Whoever asks them gets the same answers,
and what they leave behind differs in nothing but the texts that are recorded with such a call.

* `Event.unread` leaves these texts out, and `Memory.unread` does in all events.
* `Query.Alike` says that two queries give the same answer, or fail in the same way, and leave the
  same behind, but for such texts. It relates queries that are made alike of parts that are alike
  (`alike_bind`).
* `output_alike`, `paths_alike`: running a script and listing paths do not look at the events that
  are there already, and neither does a brief query.
-/

namespace TabCompletion

/-- An event without the texts that a list of processes was called with. -/
def Event.unread : Event → Event
  | .processes properties _ => .processes properties []
  | e => e

/-- What is left behind, without such texts. -/
def Memory.unread (m : Memory) : Memory := { m with events := m.events.map Event.unread }

theorem listings_eq_of_unread {m m' : Memory} (h : m.unread = m'.unread) :
    m.listings = m'.listings :=
  (Memory.mk.inj h).1

theorem events_eq_of_unread {m m' : Memory} (h : m.unread = m'.unread) :
    m.events.map Event.unread = m'.events.map Event.unread :=
  (Memory.mk.inj h).2

namespace Query

variable {α β : Type}

/-- From memories that are the same but for such texts, the queries give the same answer, or fail
in the same way, and leave memories that are. -/
def Alike (q q' : Query α) : Prop :=
  ∀ context memory memory', memory.unread = memory'.unread →
    (q.answer context memory).1 = (q'.answer context memory').1 ∧
    (q.answer context memory).2.unread = (q'.answer context memory').2.unread

theorem alike_liftM (r : Except Fault α) : (liftM r : Query α).Alike (liftM r) :=
  fun _ _ _ h => ⟨rfl, h⟩

theorem alike_pure (a : α) : (pure a : Query α).Alike (pure a) := alike_liftM (.ok a)

theorem alike_throw (f : Fault) : (throw f : Query α).Alike (throw f) := alike_liftM (.error f)

theorem alike_emit {e e' : Event} (he : e.unread = e'.unread) : (emit e).Alike (emit e') := by
  intro context memory memory' h
  refine ⟨rfl, ?_⟩
  simp only [answer_emit, Memory.unread, List.map_append, List.map_singleton,
    listings_eq_of_unread h, events_eq_of_unread h, he]

theorem alike_read_bind {next next' : Context → Query β}
    (h : ∀ context, (next context).Alike (next' context)) :
    (read >>= next).Alike (read >>= next') :=
  fun context => h context context

/-- Sequences are alike if their parts are. -/
theorem alike_bind {q q' : Query α} {next next' : α → Query β} (hq : q.Alike q')
    (hnext : ∀ a, (next a).Alike (next' a)) : (q >>= next).Alike (q' >>= next') := by
  intro context memory memory' h
  obtain ⟨hresult, hafter⟩ := hq context memory memory' h
  rw [answer_bind, answer_bind]
  rcases hanswer : q.answer context memory with ⟨r, after⟩
  rcases hanswer' : q'.answer context memory' with ⟨r', after'⟩
  rw [hanswer, hanswer'] at hresult hafter
  obtain rfl : r = r' := hresult
  cases r with
  | ok a => exact hnext a context after after' hafter
  | error f => exact ⟨rfl, hafter⟩

/-- Reading a directory looks at the remembered listings only. -/
theorem alike_scan (path : String) : (scan path).Alike (scan path) := by
  intro context memory memory' h
  rw [answer_scan, answer_scan, listings_eq_of_unread h]
  cases memory'.listings.scan context.host.disk context.host.workingDir path with
  | error f => exact ⟨rfl, h⟩
  | ok found =>
    refine ⟨rfl, ?_⟩
    simp only [Memory.unread, events_eq_of_unread h]

theorem Brief.alike {q : Query α} (h : q.Brief) : q.Alike q := by
  cases h with
  | answered a => exact alike_pure a
  | failed f => exact alike_throw f
  | noted n a => exact alike_bind (alike_emit rfl) fun _ => alike_pure a

end Query

/-! ## Sources -/

theorem output_alike (g : Generator) (s : Script) : (g.output s).Alike (g.output s) := by
  rw [output_eq]
  refine Query.alike_read_bind fun context => ?_
  exact Query.alike_bind (Query.alike_emit rfl) fun _ => (afterRun_brief _).alike

theorem paths_alike (a : Arg) (typed : Option String) (s : Strategy) :
    (a.paths typed s).Alike (a.paths typed s) := by
  unfold Arg.paths Arg.pathsFrom
  split
  · exact Query.alike_pure []
  · refine Query.alike_read_bind fun context => ?_
    refine Query.alike_bind (Query.alike_liftM _) fun start => ?_
    refine Query.alike_bind (Query.alike_liftM _) fun path => ?_
    exact Query.alike_bind (Query.alike_scan path) fun _ => Query.alike_pure _

end TabCompletion
