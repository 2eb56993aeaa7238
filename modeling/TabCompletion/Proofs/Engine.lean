import TabCompletion.Answer
import TabCompletion.Proofs.Query.Fails

/-!
# Asking an engine

An engine answers a line from its slot or computes the answer. What is left of the engine is told
for both, and for a computation that fails: the memory is the one that the computation leaves, and
the slot has changed only if there is an answer to keep.

* `get_eq_some_iff`: the slot has the answer to one line only.
* `answer_request`: a query that is asked as a request leaves the slot alone.
* **`answer_getOrCompute`**: the answer to a line and the engine after it, whatever computes it.
* `ask_eq`, `ask_cases`: the same where the registry of an engine computes it.
-/

namespace TabCompletion

variable {α β : Type} {context : Context} {e : Engine} {slot : Slot} {line : String} {a : Answer}

/-- The slot has an answer to a line exactly if it keeps one that belongs to the line. -/
theorem get_eq_some_iff : slot.get? line = some a ↔ slot = some a ∧ a.line = line := by
  unfold Slot.get?
  rw [Option.filter_eq_some_iff]
  simp

/-! ## Requests -/

/-- A query leaves the slot alone, and its fault does too. -/
theorem answer_request (q : Query α) (context : Context) (e : Engine) :
    q.request.answer context e =
      ((q.answer context e.memory).1, { e with memory := (q.answer context e.memory).2 }) := rfl

/-- The answer of a sequence of requests. -/
theorem request_bind (r : Request α) (next : α → Request β) (context : Context) (e : Engine) :
    (r >>= next).answer context e =
      match r.answer context e with
      | (.ok a, e) => (next a).answer context e
      | (.error f, e) => (.error f, e) := by
  unfold Request.answer
  rw [ReaderT.run_bind, ExceptT.run_bind, StateT.run_bind, StateT.run_bind]
  rcases ((r.run context).run.run e.slot).run e.memory with ⟨⟨result, slot⟩, memory⟩
  cases result <;> rfl

/-- What comes of a computation: its answer, which is kept, or its fault, and the slot as it was. -/
def Slot.computed (slot : Slot) : Except Fault Answer × Memory → Except Fault Answer × Engine
  | (.ok a, memory) => (.ok a, { slot := some a, memory })
  | (.error f, memory) => (.error f, { slot, memory })

/-- **The answer to a line, whatever computes it.** The kept answer changes nothing. A computation
changes the memory; its answer is kept, and if it fails, the slot stays as it is. -/
theorem answer_getOrCompute (compute : String → Query Answer) (context : Context) (e : Engine)
    (line : String) :
    Request.answer (Slot.getOrCompute line fun line => (compute line).request) context e =
      match e.slot.get? line with
      | some a => (.ok a, e)
      | none => e.slot.computed ((compute line).answer context e.memory) := by
  unfold Slot.getOrCompute
  rw [request_bind]
  have hget : (getThe Slot : Request Slot).answer context e = (.ok e.slot, e) := rfl
  rw [hget]
  dsimp only
  cases e.slot.get? line with
  | some a => rfl
  | none =>
    dsimp only
    rw [request_bind, answer_request]
    rcases (compute line).answer context e.memory with ⟨result, memory⟩
    cases result <;> rfl

/-! ## Engines -/

/-- What an engine does with a line. -/
theorem ask_eq (reg : Registry) (context : Context) (e : Engine) (line : String) :
    e.ask reg context line =
      match e.slot.get? line with
      | some a => (.ok a, e)
      | none => e.slot.computed ((reg.answer line).answer context e.memory) :=
  answer_getOrCompute reg.answer context e line

/-- A line is answered from the slot, which stays as it is, or its answer is computed and kept, or
the computation fails, and the slot stays as it is. -/
theorem ask_cases (reg : Registry) (context : Context) (e : Engine) (line : String) :
    (∃ a, e.slot = some a ∧ a.line = line ∧ e.ask reg context line = (.ok a, e)) ∨
    (∃ a, ((reg.answer line).answer context e.memory).1 = .ok a ∧
      (e.ask reg context line).1 = .ok a ∧ (e.ask reg context line).2.slot = some a) ∨
    ∃ f, (e.ask reg context line).1 = .error f ∧ (e.ask reg context line).2.slot = e.slot := by
  rw [ask_eq]
  cases hget : e.slot.get? line with
  | some a =>
    obtain ⟨hslot, hline⟩ := get_eq_some_iff.mp hget
    exact .inl ⟨a, hslot, hline, rfl⟩
  | none =>
    dsimp only
    rcases (reg.answer line).answer context e.memory with ⟨_ | a, memory⟩
    · exact .inr (.inr ⟨_, rfl, rfl⟩)
    · exact .inr (.inl ⟨a, rfl, rfl, rfl⟩)

end TabCompletion
