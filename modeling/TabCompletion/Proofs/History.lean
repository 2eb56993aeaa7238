import TabCompletion.Proofs.Acceptance
import TabCompletion.Proofs.Query.Runs

/-!
# Keeping an answer changes no answer

An engine is asked line after line. It keeps the last answer it computed, and remembers listings of
directories. As long as its registry, the settings and the host stay, none of this shows: each line
is answered, or fails, as an engine answers it that keeps nothing yet.

* `Engine.turns` are the lines of a history, each with the engine before and after it.
* `Slot.Computes` and `Slot.Serves` tell the two ways to an answer apart by what happens to any
  computation that `Slot.getOrCompute` is given, and to the slot that it reads and writes.

Results:
* `computes_iff`: the slot decides which way it is.
* **`turn_cases`**: the ways a line can go. It is served, or it is computed, and then the computation
  succeeds or fails.
* `invariant_turn`: what one line preserves. The kept answer is that of the last line whose
  computation succeeded (`LastComputed`), and is what an engine that keeps nothing would answer.
* `invariant_turns`: what a history preserves, by induction on its lines.
* **`history_transparent`**: every answer of a history, when it is computed, and what a fault leaves
  behind.
-/

namespace TabCompletion

/-! ## Computing or serving -/

/-- Whatever computes answers, the answer to the line is computed. It is kept if the computation
succeeds, and the slot stays as it is if that fails. -/
def Slot.Computes (slot : Slot) (line : String) : Prop :=
  ∀ (compute : String → Query Answer) (context : Context) (memory : Memory),
    Request.answer (Slot.getOrCompute line fun line => (compute line).request) context
        { slot, memory } = slot.computed ((compute line).answer context memory)

/-- The answer to the line is `a`, and nothing is computed, whatever computes answers. -/
def Slot.Serves (slot : Slot) (line : String) (a : Answer) : Prop :=
  ∀ (compute : String → Query Answer) (context : Context) (memory : Memory),
    Request.answer (Slot.getOrCompute line fun line => (compute line).request) context
        { slot, memory } = (.ok a, { slot, memory })

variable {slot : Slot} {line : String} {a : Answer}

theorem computes_of_get (h : slot.get? line = none) : slot.Computes line := by
  intro compute context memory
  rw [answer_getOrCompute, h]

theorem serves_of_get (h : slot.get? line = some a) : slot.Serves line a := by
  intro compute context memory
  rw [answer_getOrCompute, h]

/-- A computation that fails tells whether the slot computes. -/
theorem not_computes_of_serves (h : slot.Serves line a) : ¬ slot.Computes line := by
  intro hcomputes
  let compute (_ : String) : Query Answer := throw .noLine
  let context : Context := { host := { home := "/", workingDir := { path := "/" } } }
  have hfails := hcomputes compute context {}
  rw [h compute context {}] at hfails
  cases hfails

theorem computes_iff : slot.Computes line ↔ slot.get? line = none := by
  refine ⟨fun h => ?_, computes_of_get⟩
  cases hget : slot.get? line with
  | none => rfl
  | some a => exact absurd h (not_computes_of_serves (serves_of_get hget))

/-! ## Engines and their histories -/

/-- A line that an engine was asked, with the engine before and after it. -/
structure Turn where
  line : String
  before : Engine
  result : Except Fault Answer
  after : Engine

/-- One turn of an engine. -/
def Engine.turn (reg : Registry) (context : Context) (e : Engine) (line : String) : Turn where
  line := line
  before := e
  result := (e.ask reg context line).1
  after := (e.ask reg context line).2

/-- The turns of an engine that is asked some lines, one after the other. -/
def Engine.turns (reg : Registry) (context : Context) : Engine → List String → List Turn
  | _, [] => []
  | e, line :: rest =>
    e.turn reg context line :: (e.turn reg context line).after.turns reg context rest

/-- The answer to the line was computed, and the computation succeeded. -/
def Turn.Succeeded (t : Turn) : Prop := t.before.slot.Computes t.line ∧ ∃ a, t.result = .ok a

/-- The line is the last one in the history whose computation succeeded. -/
def LastComputed (past : List Turn) (line : String) : Prop :=
  ∃ earlier t later, past = earlier ++ t :: later ∧ t.Succeeded ∧ t.line = line ∧
    ∀ u ∈ later, ¬ u.Succeeded

theorem not_lastComputed_nil : ¬ LastComputed [] line := by
  rintro ⟨earlier, t, later, h, -⟩
  cases earlier <;> cases h

/-- The last turn counts if its computation succeeded, else those before it do. -/
theorem lastComputed_concat {past : List Turn} {t : Turn} :
    LastComputed (past ++ [t]) line ↔
      t.Succeeded ∧ t.line = line ∨ ¬ t.Succeeded ∧ LastComputed past line := by
  constructor
  · rintro ⟨earlier, u, later, hpast, hu, hline, hlater⟩
    rcases List.eq_nil_or_concat' later with rfl | ⟨later, last, rfl⟩
    · obtain ⟨-, hlast⟩ := List.append_inj' hpast rfl
      obtain rfl := (List.cons.inj hlast).1
      exact .inl ⟨hu, hline⟩
    · rw [← List.cons_append, ← List.append_assoc] at hpast
      obtain ⟨rfl, hlast⟩ := List.append_inj' hpast rfl
      obtain rfl := (List.cons.inj hlast).1
      obtain ⟨hlater, hno⟩ := List.forall_mem_append.mp hlater
      exact .inr ⟨hno t List.mem_cons_self, earlier, u, later, rfl, hu, hline, hlater⟩
  · rintro (⟨h, hline⟩ | ⟨hno, earlier, u, later, rfl, hu, hline, hlater⟩)
    · exact ⟨past, t, [], rfl, h, hline, List.forall_mem_nil _⟩
    · refine ⟨earlier, u, later ++ [t], by rw [List.append_assoc, List.cons_append], hu, hline, ?_⟩
      exact List.forall_mem_append.mpr ⟨hlater, List.forall_mem_singleton.mpr hno⟩

/-! ## One line -/

variable {reg : Registry} {context : Context} {known : Listings} {e : Engine}
  {r : Except Fault Answer} {new : List Event} {past : List Turn}

/-- **A line that is computed** is answered as any memory that shows the same answers it. The answer
is kept, and a fault leaves the slot as it is. -/
theorem ask_of_computes (hget : e.slot.get? line = none)
    (hdoes : (reg.answer line).Does context known r new)
    (halike : e.memory.listings.Alike context.host known) :
    (e.ask reg context line).1 = r ∧
      (e.ask reg context line).2.memory.listings.Alike context.host known ∧
      (∀ a, r = .ok a → (e.ask reg context line).2.slot = some a) ∧
      ∀ f, r = .error f → (e.ask reg context line).2.slot = e.slot := by
  obtain ⟨after, hanswer, hafter, -⟩ := hdoes e.memory halike
  rw [ask_eq, hget, hanswer]
  cases r with
  | ok a =>
    refine ⟨rfl, hafter, fun b hb => ?_, nofun⟩
    exact congrArg some (Except.ok.inj hb)
  | error f => exact ⟨rfl, hafter, nofun, fun _ _ => rfl⟩

/-- **A line that is served** changes nothing. -/
theorem ask_of_serves (hget : e.slot.get? line = some a) :
    e.ask reg context line = (.ok a, e) := by
  rw [ask_eq, hget]

/-- What an engine that keeps nothing answers, if its memory shows what `known` does. -/
def FreshResult (reg : Registry) (context : Context) (known : Listings) (line : String)
    (r : Except Fault Answer) : Prop :=
  ∀ memory : Memory, memory.listings.Alike context.host known →
    (Engine.ask reg context { memory } line).1 = r

theorem freshResult_of_does (h : (reg.answer line).Does context known r new) :
    FreshResult reg context known line r :=
  fun _ halike => (ask_of_computes rfl h halike).1

/-- **The ways a line can go.** It is served, and nothing changes. Or it is computed, and answered as
an engine answers it that keeps nothing: then the answer is kept, or the computation fails, and the
slot stays as it is. -/
theorem turn_cases (halike : e.memory.listings.Alike context.host known) (line : String) :
    (∃ a, e.slot.get? line = some a ∧ (e.turn reg context line).result = .ok a ∧
      (e.turn reg context line).after = e) ∨
    (e.slot.get? line = none ∧
      FreshResult reg context known line (e.turn reg context line).result ∧
      (e.turn reg context line).after.memory.listings.Alike context.host known ∧
      ((∃ a, (e.turn reg context line).result = .ok a ∧ a.line = line ∧
          (e.turn reg context line).after.slot = some a) ∨
        ∃ f, (e.turn reg context line).result = .error f ∧
          (e.turn reg context line).after.slot = e.slot)) := by
  cases hget : e.slot.get? line with
  | some a =>
    have hask : e.ask reg context line = (.ok a, e) := ask_of_serves hget
    exact .inl ⟨a, rfl, congrArg Prod.fst hask, congrArg Prod.snd hask⟩
  | none =>
    obtain ⟨r, new, hdoes, -⟩ := @answer_runs context known reg line
    obtain ⟨hresult, hafter, hok, herror⟩ := ask_of_computes hget hdoes halike
    have hfresh : FreshResult reg context known line (e.ask reg context line).1 := by
      rw [hresult]
      exact freshResult_of_does hdoes
    refine .inr ⟨rfl, hfresh, hafter, ?_⟩
    cases r with
    | ok a =>
      have hanswer : ((reg.answer line).answer context e.memory).1 = .ok a := by
        obtain ⟨after, hafter, -⟩ := hdoes e.memory halike
        rw [hafter]
      exact .inl ⟨a, hresult, (replaced_of_answer hanswer).1, hok a rfl⟩
    | error f => exact .inr ⟨f, hresult, herror f rfl⟩

/-! ## Whole histories -/

/-- **The invariant** of an engine after the turns `past`. -/
structure Engine.Invariant (reg : Registry) (context : Context) (known : Listings)
    (past : List Turn) (e : Engine) : Prop where
  alike : e.memory.listings.Alike context.host known
  /-- What is kept is the answer to the last line whose computation succeeded. -/
  last : ∀ line, LastComputed past line ↔ ∃ a, e.slot = some a ∧ a.line = line
  fresh : ∀ a, e.slot = some a → FreshResult reg context known a.line (.ok a)

/-- The engine has no answer to a line exactly if the line is not the one computed last. -/
theorem get_eq_none_iff (hi : e.Invariant reg context known past) :
    e.slot.get? line = none ↔ ¬ LastComputed past line := by
  rw [hi.last line, Option.eq_none_iff_forall_ne_some, not_exists]
  exact forall_congr' fun a => not_congr get_eq_some_iff

/-- **What one line preserves.** -/
theorem invariant_turn (hi : e.Invariant reg context known past) (line : String) :
    (e.turn reg context line).after.Invariant reg context known
      (past ++ [e.turn reg context line]) := by
  rcases turn_cases hi.alike line with ⟨a, hget, -, hafter⟩ |
    ⟨hget, hfresh, halike, ⟨a, hresult, hline, hslot⟩ | ⟨f, hresult, hslot⟩⟩
  · have hno : ¬ (e.turn reg context line).Succeeded := fun h =>
      not_computes_of_serves (serves_of_get hget) h.1
    rw [hafter]
    refine ⟨hi.alike, fun other => ?_, hi.fresh⟩
    simpa [lastComputed_concat, hno] using hi.last other
  · have hsucceeded : (e.turn reg context line).Succeeded := ⟨computes_of_get hget, a, hresult⟩
    have hturn : (e.turn reg context line).line = a.line := hline.symm
    refine ⟨halike, fun other => ?_, fun b hb => ?_⟩
    · simp [lastComputed_concat, hsucceeded, hslot, hturn]
    · obtain rfl := Option.some.inj (hslot.symm.trans hb)
      rw [hline, ← hresult]
      exact hfresh
  · have hno : ¬ (e.turn reg context line).Succeeded := by
      rintro ⟨-, a, ha⟩
      cases hresult.symm.trans ha
    refine ⟨halike, fun other => ?_, fun b hb => hi.fresh b (hslot ▸ hb)⟩
    simpa [lastComputed_concat, hno, hslot] using hi.last other

/-- **What a history preserves**: before each of its turns there is an engine with the invariant. -/
theorem invariant_turns {lines : List String} {before after : List Turn} {t : Turn}
    (hi : e.Invariant reg context known past)
    (h : e.turns reg context lines = before ++ t :: after) :
    ∃ (e' : Engine) (line : String), t = e'.turn reg context line ∧
      e'.Invariant reg context known (past ++ before) := by
  induction lines generalizing e past before with
  | nil => cases before <;> cases h
  | cons line rest ih =>
    cases before with
    | nil =>
      obtain ⟨rfl, -⟩ := List.cons.inj h
      exact ⟨e, line, rfl, by rwa [List.append_nil]⟩
    | cons first before =>
      obtain ⟨rfl, hrest⟩ := List.cons.inj h
      obtain ⟨e', line', ht, hi'⟩ := ih (invariant_turn hi line) hrest
      rw [List.append_assoc, List.singleton_append] at hi'
      exact ⟨e', line', ht, hi'⟩

/-- An engine that keeps nothing has the invariant of an empty history. -/
theorem invariant_fresh (memory : Memory) :
    Engine.Invariant reg context memory.listings [] { memory } where
  alike := fun _ => rfl
  last := fun _ => ⟨fun h => absurd h not_lastComputed_nil, fun ⟨_, h, _⟩ => nomatch h⟩
  fresh := nofun

/-- One turn of an engine with the invariant. -/
theorem turn_transparent (hi : e.Invariant reg context known past) (line : String) :
    FreshResult reg context known line (e.turn reg context line).result ∧
      (e.slot.Computes line ↔ ¬ LastComputed past line) ∧
      (LastComputed past line → ∃ a, e.slot.Serves line a) ∧
      ∀ f, (e.turn reg context line).result = .error f →
        (e.turn reg context line).after.slot = e.slot := by
  have hnone : e.slot.get? line = none ↔ ¬ LastComputed past line := get_eq_none_iff hi
  have hcomputes : e.slot.Computes line ↔ ¬ LastComputed past line := computes_iff.trans hnone
  rcases turn_cases hi.alike line with ⟨a, hget, hresult, hafter⟩ |
    ⟨hget, hfresh, -, ⟨a, hresult, -, -⟩ | ⟨f, hresult, hslot⟩⟩
  · obtain ⟨hslot, hline⟩ := get_eq_some_iff.mp hget
    have hfresh : FreshResult reg context known line (e.turn reg context line).result := by
      rw [hresult, ← hline]
      exact hi.fresh a hslot
    refine ⟨hfresh, hcomputes, fun _ => ⟨a, serves_of_get hget⟩, fun f _ => ?_⟩
    rw [hafter]
  · refine ⟨hfresh, hcomputes, fun hlast => absurd hlast (hnone.mp hget), fun f hf => ?_⟩
    cases hresult.symm.trans hf
  · exact ⟨hfresh, hcomputes, fun hlast => absurd hlast (hnone.mp hget), fun _ _ => hslot⟩

/-- **Keeping an answer changes no answer.** An engine that keeps nothing yet is asked some lines,
one after the other, in settings and on a host that stay as they are. Every line is answered, or
fails, as an engine does that keeps nothing, whatever that engine remembers, as long as it shows the
same. The answer is computed exactly if the line is not the last one whose computation succeeded,
else the kept answer is given and nothing is computed. A line that fails leaves the slot as it
was. -/
theorem history_transparent (reg : Registry) (context : Context) (memory : Memory)
    (lines : List String) (past future : List Turn) (t : Turn)
    (h : Engine.turns reg context { memory } lines = past ++ t :: future) :
    (∀ memory' : Memory, memory'.listings.Alike context.host memory.listings →
      t.result = (Engine.ask reg context { memory := memory' } t.line).1) ∧
    t.before.memory.listings.Alike context.host memory.listings ∧
    (t.before.slot.Computes t.line ↔ ¬ LastComputed past t.line) ∧
    (LastComputed past t.line → ∃ a, t.before.slot.Serves t.line a) ∧
    ∀ f, t.result = .error f → t.after.slot = t.before.slot := by
  obtain ⟨e, line, rfl, hi⟩ := invariant_turns (invariant_fresh memory) h
  rw [List.nil_append] at hi
  obtain ⟨hfresh, hcomputes, hserves, hfault⟩ := turn_transparent hi line
  exact ⟨fun memory' halike => (hfresh memory' halike).symm, hi.alike, hcomputes, hserves, hfault⟩

/-- The host with a repository, in a working directory that was removed. -/
def removedHost : Host := { branchHost with workingDir := { path := "/", removed := true } }

/-- After `git checkout m` the line `cd ` fails, and `git checkout m` is served again. -/
theorem history_transparent_removed :
    let reg := Registry.ofCommands Shipped.commands
    let context : Context := { host := removedHost }
    let line := "git checkout m"
    let first := Engine.turn reg context {} line
    let second := first.after.turn reg context "cd "
    let third := second.after.turn reg context line
    Engine.turns reg context {} [line, "cd ", line] = [first, second] ++ third :: [] ∧
    first.result = .ok (branchAnswer line "main") ∧
    second.result = .error (.file .notFound) ∧
    third.result = (Engine.ask reg context {} line).1 ∧
    ∃ a, third.before.slot.Serves line a := by
  intro reg context line first second third
  have hfirst : (Engine.turn (Registry.ofCommands Shipped.commands) { host := removedHost } {}
      "git checkout m").result = .ok (branchAnswer "git checkout m" "main") := by
    rfl
  have hsecond : ((Engine.turn (Registry.ofCommands Shipped.commands) { host := removedHost } {}
      "git checkout m").after.turn (Registry.ofCommands Shipped.commands) { host := removedHost }
      "cd ").result = .error (.file .notFound) := by
    rfl
  have hturns : Engine.turns reg context {} [line, "cd ", line] =
      [first, second] ++ third :: [] := rfl
  have hlast : LastComputed [first, second] line := by
    have hsucceeded : first.Succeeded := ⟨computes_of_get rfl, _, hfirst⟩
    refine ⟨[], first, [second], rfl, hsucceeded, rfl, fun u hu => ?_⟩
    obtain rfl := List.mem_singleton.mp hu
    rintro ⟨-, a, ha⟩
    cases hsecond.symm.trans ha
  obtain ⟨hfresh, -, -, hserves, -⟩ :=
    history_transparent reg context {} [line, "cd ", line] [first, second] [] third hturns
  exact ⟨hturns, hfirst, hsecond, hfresh {} fun _ => rfl, hserves hlast⟩

end TabCompletion
