import TabCompletion.Query

/-!
# Queries that fail

A query reads its context, changes the memory, and gives an answer or a fault. Whether it fails is
found out part by part: a sequence fails if its first query does, or if that answers and the query
made of its answer fails in the memory left behind.

* `answer_bind`: the answer of a sequence. What only reads, records or answers is gone through.
* **`fails_bind_iff`**: when a sequence fails.
* `Unscanned`: queries that leave the remembered listings alone.
* `Brief`: queries that answer or fail at once, or note one thing and answer. What is said of such
  a query is said in three cases.
-/

namespace TabCompletion.Query

variable {α β : Type} {context : Context} {memory : Memory}

/-- The query ends in a fault. -/
def Fails (q : Query α) (context : Context) (memory : Memory) : Prop :=
  ∃ f, (q.answer context memory).1 = .error f

/-- The query leaves the remembered listings as they are. -/
def Unscanned (q : Query α) : Prop :=
  ∀ context memory, (q.answer context memory).2.listings = memory.listings

/-- The query answers, fails, or notes one thing and answers. -/
inductive Brief : Query α → Prop
  | answered (a : α) : Brief (pure a)
  | failed (f : Fault) : Brief (throw f)
  | noted (n : Note) (a : α) : Brief (log n >>= fun _ => pure a)

/-! ## Answers -/

@[simp] theorem answer_liftM (r : Except Fault α) (context : Context) (memory : Memory) :
    (liftM r : Query α).answer context memory = (r, memory) := rfl

@[simp] theorem answer_read (context : Context) (memory : Memory) :
    (read : Query Context).answer context memory = (.ok context, memory) := rfl

@[simp] theorem answer_emit (e : Event) (context : Context) (memory : Memory) :
    (emit e).answer context memory = (.ok (), { memory with events := memory.events ++ [e] }) := rfl

/-- The answer of a sequence. -/
theorem answer_bind (q : Query α) (next : α → Query β) (context : Context) (memory : Memory) :
    (q >>= next).answer context memory =
      match q.answer context memory with
      | (.ok a, memory) => (next a).answer context memory
      | (.error f, memory) => (.error f, memory) := by
  show (((q >>= next).run context).run).run memory = _
  rw [ReaderT.run_bind, ExceptT.run_bind, StateT.run_bind]
  unfold answer
  generalize ((q.run context).run).run memory = r
  obtain ⟨r, memory'⟩ := r
  cases r <;> rfl

/-- An answer that is made of another. -/
theorem exists_answer_of_bind_pure {q : Query α} {f : α → β} {b : β}
    (h : ((q >>= fun a => pure (f a)).answer context memory).1 = .ok b) :
    ∃ a, (q.answer context memory).1 = .ok a ∧ f a = b := by
  rw [answer_bind] at h
  rcases hq : q.answer context memory with ⟨r, after⟩
  rw [hq] at h
  cases r with
  | ok a => exact ⟨a, rfl, Except.ok.inj h⟩
  | error f => cases h

theorem answer_bind_pure_of_ok {q : Query α} {f : α → β} {a : α}
    (h : (q.answer context memory).1 = .ok a) :
    ((q >>= fun a => pure (f a)).answer context memory).1 = .ok (f a) := by
  rw [answer_bind]
  rcases hq : q.answer context memory with ⟨r, after⟩
  rw [hq] at h
  dsimp only at h
  rw [h]
  rfl

/-- The answer of a scan: from the listings that are remembered, which it may add to. -/
theorem answer_scan (path : String) (context : Context) (memory : Memory) :
    (scan path).answer context memory =
      match memory.listings.scan context.host.disk context.host.workingDir path with
      | .ok (l, listings) => (.ok l, { memory with listings })
      | .error f => (.error (.file f), memory) := by
  unfold scan
  rw [answer_bind, answer_read]
  dsimp only
  rw [answer_bind]
  have hget : (get : Query Memory).answer context memory = (.ok memory, memory) := rfl
  rw [hget]
  dsimp only
  cases memory.listings.scan context.host.disk context.host.workingDir path with
  | ok r =>
    obtain ⟨l, listings⟩ := r
    rfl
  | error f => rfl

/-! ## Faults -/

@[simp] theorem fails_pure (a : α) : ¬ (pure a : Query α).Fails context memory := nofun

@[simp] theorem fails_throw (f : Fault) : (throw f : Query α).Fails context memory := ⟨f, rfl⟩

/-- **When a sequence fails.** -/
theorem fails_bind_iff {q : Query α} {next : α → Query β} :
    (q >>= next).Fails context memory ↔
      q.Fails context memory ∨
      ∃ a after, q.answer context memory = (.ok a, after) ∧ (next a).Fails context after := by
  unfold Fails
  rw [answer_bind]
  rcases hq : q.answer context memory with ⟨r, after⟩
  cases r with
  | error f => simp
  | ok a =>
    refine ⟨fun hf => .inr ⟨a, after, rfl, hf⟩, fun hf => ?_⟩
    rcases hf with ⟨f, hf⟩ | ⟨a', after', ha, hf⟩
    · cases hf
    · cases ha
      exact hf

/-- What is done with an answer does not matter, if it cannot fail. -/
theorem fails_bind_of_never {q : Query α} {next : α → Query β}
    (h : ∀ a after, ¬ (next a).Fails context after) :
    (q >>= next).Fails context memory ↔ q.Fails context memory := by
  rw [fails_bind_iff]
  exact ⟨fun hf => hf.resolve_right fun ⟨a, after, _, hnext⟩ => h a after hnext, .inl⟩

/-- After a query that answers, a sequence fails where the next query does. -/
theorem fails_bind_of_answer {q : Query α} {next : α → Query β} {a : α} {after : Memory}
    (h : q.answer context memory = (.ok a, after)) :
    (q >>= next).Fails context memory ↔ (next a).Fails context after := by
  unfold Fails
  rw [answer_bind, h]

/-- A sequence fails where its first query does. -/
theorem fails_bind_of_fault {q : Query α} {next : α → Query β} {f : Fault} {after : Memory}
    (h : q.answer context memory = (.error f, after)) : (q >>= next).Fails context memory :=
  fails_bind_iff.mpr (.inl ⟨f, congrArg Prod.fst h⟩)

@[simp] theorem fails_read_bind {next : Context → Query β} :
    (read >>= next).Fails context memory ↔ (next context).Fails context memory := Iff.rfl

@[simp] theorem fails_log_bind {n : Note} {next : Unit → Query β} :
    (log n >>= next).Fails context memory ↔
      (next ()).Fails context { memory with events := memory.events ++ [.note n] } := Iff.rfl

theorem fails_scan_iff {path : String} :
    (scan path).Fails context memory ↔
      ∃ f, memory.listings.scan context.host.disk context.host.workingDir path = .error f := by
  unfold Fails
  rw [answer_scan]
  cases memory.listings.scan context.host.disk context.host.workingDir path with
  | ok r => simp
  | error f => simp

/-! ## Queries that leave listings alone -/

theorem unscanned_pure (a : α) : (pure a : Query α).Unscanned := fun _ _ => rfl

theorem unscanned_throw (f : Fault) : (throw f : Query α).Unscanned := fun _ _ => rfl

theorem unscanned_read : (read : Query Context).Unscanned := fun _ _ => rfl

theorem unscanned_log (n : Note) : (log n).Unscanned := fun _ _ => rfl

theorem unscanned_bind {q : Query α} {next : α → Query β} (hq : q.Unscanned)
    (hnext : ∀ a, (next a).Unscanned) : (q >>= next).Unscanned := by
  intro context memory
  rw [answer_bind]
  have hfirst := hq context memory
  rcases hanswer : q.answer context memory with ⟨r, after⟩
  rw [hanswer] at hfirst
  cases r with
  | ok a => exact (hnext a context after).trans hfirst
  | error f => exact hfirst

theorem Brief.unscanned {q : Query α} (h : q.Brief) : q.Unscanned := by
  cases h with
  | answered a => exact unscanned_pure a
  | failed f => exact unscanned_throw f
  | noted n a => exact unscanned_bind (unscanned_log n) fun _ => unscanned_pure a

/-- If only the remembered listings decide whether the next query fails, a query that leaves them
alone does not matter for it. -/
theorem fails_bind_of_unscanned {q : Query α} {next : α → Query β} {P : Prop} (hq : q.Unscanned)
    (hnext : ∀ a after, after.listings = memory.listings → ((next a).Fails context after ↔ P)) :
    (q >>= next).Fails context memory ↔ q.Fails context memory ∨ P := by
  have hlistings := hq context memory
  rcases hanswer : q.answer context memory with ⟨r, after⟩
  rw [hanswer] at hlistings
  cases r with
  | ok a =>
    have hno : ¬ q.Fails context memory := by
      rintro ⟨f, hf⟩
      rw [hanswer] at hf
      cases hf
    rw [fails_bind_of_answer hanswer, or_iff_right hno]
    exact hnext a after hlistings
  | error f =>
    have hfails : q.Fails context memory := ⟨f, by rw [hanswer]⟩
    rw [fails_bind_iff]
    exact ⟨fun _ => .inl hfails, fun _ => .inl hfails⟩

end TabCompletion.Query
