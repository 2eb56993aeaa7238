import TabCompletion.Proofs.Query.Runs
import TabCompletion.Proofs.Walk.Accepted

/-!
# One run for a line

A line has at most one generator run: a script that is executed, or a provider that is called.
Where the walk of the line ends, only one argument is asked for values, and its generator calls its
provider or, without one, runs its script. What is called gets the tokens that were accepted on the
way there.

Results:
* `run_of_unasked`: the lines for which nothing is run (`Registry.Unasked`).
* `value_of_depleted`: positional arguments are used up only behind a value of the last one.
* **`run_eq_some_iff`**: where a run comes from (`Registry.MakesRun`), and what it is made with
  (`accepted_of_makesRun`).
* **`one_run`**: for a line at most one generator is run, once, and with what.
-/

namespace TabCompletion

variable {reg : Registry} {settings : Settings} {ts : List Token} {e : Event}

/-! ## Lines for which nothing is run -/

/-- No argument is asked for values: the command is still typed or not known, or the walk ends at a
token that is not recognized or behind the last positional argument. -/
inductive Registry.Unasked (reg : Registry) : List Token → Prop
  | blank : Unasked reg []
  | typed {first rest} (hc : first.complete = false) : Unasked reg (first :: rest)
  | unknown {first rest} (hlookup : reg.lookup first.text = none) : Unasked reg (first :: rest)
  | unrecognized {first rest c} (hlookup : reg.lookup first.text = some c)
      (hwalk : c.walk reg.lookup rest = .nowhere) : Unasked reg (first :: rest)
  | depleted {first rest c here typed} (hlookup : reg.lookup first.text = some c)
      (hwalk : c.walk reg.lookup rest = .reached (.atCommand here true true) typed) :
      Unasked reg (first :: rest)

theorem run_of_unasked (h : reg.Unasked ts) : reg.run? settings ts = none := by
  have hcommand : ∀ {first : Token} {rest : List Token} {c : Command},
      reg.lookup first.text = some c → (c.walk reg.lookup rest).run? settings = none →
      reg.run? settings (first :: rest) = none := by
    intro first rest c hlookup hrun
    unfold Registry.run? Registry.stop?
    cases hc : first.complete with
    | false => simp [hc]
    | true => simpa [hc, hlookup] using hrun
  cases h with
  | blank => rfl
  | typed hc => simp [Registry.run?, Registry.stop?, hc]
  | unknown hlookup => simp [Registry.run?, Registry.stop?, hlookup]
  | unrecognized hlookup hwalk => exact hcommand hlookup (by rw [hwalk]; rfl)
  | depleted hlookup hwalk => exact hcommand hlookup (by rw [hwalk]; rfl)

section Depleted

variable {roots : String → Option Command} {c : Command} {tokens left : List Token}
  {rs : List Reading} {here : Level} {typed : Option String} {bound : Bool}

/-- The list of positional arguments gets empty only when the last one takes its value. -/
theorem value_of_exhausted (h : Reached roots c tokens rs (.args left [] here false bound)) :
    ∃ before t a, rs = before ++ [.value t a] ∧ here.command.args.getLast? = some a := by
  cases h with
  | @step rs call read _ hreached hn =>
    cases calls_of_next hn with
    | @value t _ a _ here' _ _ hc hu ha hcommand =>
      obtain ⟨front, hargs⟩ : [a] <:+ here'.command.args := (invariant_of_reached hreached).args
      have hlast : here'.command.args.getLast? = some a := by
        rw [← hargs, List.getLast?_append]
        rfl
      exact ⟨rs, t, a, rfl, hlast⟩

/-- A command is entered again behind its arguments or those of an option. -/
theorem exhausted_of_depleted {positional : Bool}
    (h : Reached roots c tokens rs (.command left here true positional)) :
    ∃ ofOption bound, positional = !ofOption ∧
      Reached roots c tokens rs (.args left [] here ofOption bound) := by
  cases h with
  | step hreached hn =>
    cases calls_of_next hn with
    | @exhausted _ _ ofOption bound =>
      rw [Option.toList_none, List.append_nil]
      exact ⟨ofOption, bound, rfl, hreached⟩

/-- **Positional arguments are used up** only behind a value of the last one. -/
theorem value_of_depleted (h : c.walk roots tokens = .reached (.atCommand here true true) typed) :
    ∃ before t a, c.reads roots tokens = before ++ [.value t a] ∧
      here.command.args.getLast? = some a := by
  obtain ⟨last, hreached, hstop⟩ := exists_reached_stop (@Reached.start roots c tokens)
  have hend : ((Call.start c tokens).run roots).2 = .reached (.atCommand here true true) typed :=
    (run_ends _).trans h
  rw [hend] at hstop
  have hlast : ∃ left, last = .command left here true true := by
    cases stops_of_next hstop with
    | commandEnd => exact ⟨[], rfl⟩
    | commandTyped hc => exact ⟨_, rfl⟩
  obtain ⟨left, rfl⟩ := hlast
  obtain ⟨ofOption, bound, hpositional, hexhausted⟩ := exhausted_of_depleted hreached
  obtain rfl : ofOption = false := by simpa using hpositional
  exact value_of_exhausted hexhausted

end Depleted

/-! ## Where a run comes from -/

/-- For the tokens of a line the run `e` is made at the position `p`: the walk of the line ends
there, and the argument that is asked for values has a generator that makes it, with the tokens
accepted there. -/
inductive Registry.MakesRun (reg : Registry) (settings : Settings) :
    List Token → Position → Event → Prop
  | asked {first rest c p typed a g e} (hc : first.complete = true)
      (hlookup : reg.lookup first.text = some c)
      (hwalk : c.walk reg.lookup rest = .reached p typed) (ha : p.asked? = some a)
      (hg : a.generator = some g)
      (hrun : g.run? settings (p.level.accepted.map (·.text)) = some e) :
      MakesRun reg settings (first :: rest) p e

variable {p : Position}

theorem run_of_makesRun (h : reg.MakesRun settings ts p e) : reg.run? settings ts = some e := by
  cases h with
  | asked hc hlookup hwalk ha hg hrun =>
    simp [Registry.run?, Registry.stop?, hc, hlookup, hwalk, Stop.run?, Position.run?, ha, Arg.run?,
      hg, hrun]

/-- **Where a run comes from.** -/
theorem run_eq_some_iff : reg.run? settings ts = some e ↔ ∃ p, reg.MakesRun settings ts p e := by
  refine ⟨fun h => ?_, fun ⟨p, h⟩ => run_of_makesRun h⟩
  obtain ⟨stop, hstop, hrun⟩ := Option.bind_eq_some_iff.mp h
  cases ts with
  | nil => cases hstop
  | cons first rest =>
    unfold Registry.stop? at hstop
    dsimp only at hstop
    by_cases hc : first.complete = true
    · rw [if_pos hc] at hstop
      obtain ⟨c, hlookup, rfl⟩ := Option.map_eq_some_iff.mp hstop
      cases hwalk : c.walk reg.lookup rest with
      | nowhere | noToken =>
        rw [hwalk] at hrun
        cases hrun
      | reached p typed =>
        rw [hwalk] at hrun
        obtain ⟨a, ha, harg⟩ := Option.bind_eq_some_iff.mp hrun
        obtain ⟨g, hg, hgenerator⟩ := Option.bind_eq_some_iff.mp harg
        exact ⟨p, .asked hc hlookup hwalk ha hg hgenerator⟩
    · rw [if_neg hc] at hstop
      cases hstop

/-- A provider that is called gets the accepted tokens, whether it is a function or one of the
lists of processes. -/
theorem accepted_of_run {g : Generator} {accepted texts : List String}
    (hrun : g.run? settings accepted = some e) (htexts : e.texts? = some texts) :
    texts = accepted := by
  unfold Generator.run? at hrun
  cases hprovider : g.provider with
  | some provider =>
    rw [hprovider] at hrun
    obtain rfl := Option.some.inj hrun
    rw [Provider.texts_event] at htexts
    exact (Option.some.inj htexts).symm
  | none =>
    rw [hprovider] at hrun
    cases hscript : g.script with
    | none =>
      rw [hscript] at hrun
      cases hrun
    | some s =>
      rw [hscript] at hrun
      obtain rfl := Option.some.inj hrun
      cases htexts

/-- What a run is made with. -/
theorem accepted_of_makesRun (h : reg.MakesRun settings ts p e) :
    (∀ texts, e.texts? = some texts → texts = p.level.accepted.map (·.text)) ∧
      (p.level.accepted.map (·.text)).Sublist (ts.tail.map (·.text)) := by
  cases h with
  | asked hc hlookup hwalk ha hg hrun =>
    exact ⟨fun texts htexts => accepted_of_run hrun htexts, accepted_sublist hwalk⟩

/-- **At most one run for a line.** Whatever the registry, the world and what is remembered, one
script is run or one provider is called, or nothing is. Nothing is if the command is still typed or
unknown, if the walk ends at a token that is not recognized, or if the positional arguments are used
up, which they are only behind a value of the last one. What is run is the generator of the argument
that is asked for values where the walk ends, and that one is run; a provider gets the texts of the
tokens accepted there, which stand in this order behind the command in the line. -/
theorem one_run (reg : Registry) (line : String) (context : Context) (memory : Memory) :
    ∃ new, ((reg.offerFor line).answer context memory).2.events = memory.events ++ new ∧
      (new.filter (·.isRun)).length ≤ 1 ∧
      (reg.Unasked (tokens line) → new.filter (·.isRun) = []) ∧
      (∀ first rest c here typed, tokens line = first :: rest → reg.lookup first.text = some c →
        c.walk reg.lookup rest = .reached (.atCommand here true true) typed →
        ∃ before t a, c.reads reg.lookup rest = before ++ [.value t a] ∧
          here.command.args.getLast? = some a) ∧
      (∀ e, (e ∈ new ∧ e.isRun = true) ↔
        ∃ p, reg.MakesRun context.settings (tokens line) p e) ∧
      ∀ p e, reg.MakesRun context.settings (tokens line) p e →
        (∀ texts, e.texts? = some texts → texts = p.level.accepted.map (·.text)) ∧
        (p.level.accepted.map (·.text)).Sublist ((tokens line).tail.map (·.text)) := by
  obtain ⟨r, new, hdoes, hruns⟩ := @offerFor_runs context memory.listings reg line
  obtain ⟨after, hanswer, -, hevents⟩ := hdoes memory fun _ => rfl
  refine ⟨new, by rw [hanswer, hevents], ?_, ?_, ?_, ?_, fun p e h => accepted_of_makesRun h⟩
  · rw [hruns]
    exact Option.length_toList_le
  · intro hunasked
    rw [hruns, run_of_unasked hunasked]
    rfl
  · intro first rest c here typed _ _ hwalk
    exact value_of_depleted hwalk
  · intro e
    have hmem : e ∈ new.filter (·.isRun) ↔ reg.run? context.settings (tokens line) = some e := by
      rw [hruns]
      exact Option.mem_toList
    rw [← run_eq_some_iff, ← hmem, List.mem_filter]

/-- A command whose second argument has a function for its values. -/
def composed : Command where
  names := ["compose"]
  options := [{ names := ["--force"] }]
  args := [
    { name := "action" },
    { name := "service", generator := some { provider := some (.custom fun _ => .ok []) } }]

/-- After `compose --force up` the function gets these two tokens. -/
theorem one_run_composed :
    let reg := Registry.ofCommands [composed]
    let line := "compose --force up "
    let context : Context := { host := { home := "/", workingDir := { path := "/" } } }
    ((reg.offerFor line).answer context {}).2.events = [.function ["--force", "up"]] ∧
    ["--force", "up"].Sublist ((tokens line).tail.map (·.text)) := by
  intro reg line context
  have hevents : ((reg.offerFor line).answer context {}).2.events =
      [.function ["--force", "up"]] := by
    decide
  obtain ⟨new, hnew, -, -, -, hiff, hmakes⟩ := one_run reg line context {}
  obtain rfl : new = [.function ["--force", "up"]] := hnew.symm.trans hevents
  obtain ⟨p, hp⟩ := (hiff (.function ["--force", "up"])).mp ⟨List.mem_cons_self, rfl⟩
  obtain ⟨htexts, hsublist⟩ := hmakes p _ hp
  refine ⟨hevents, ?_⟩
  rw [htexts _ rfl]
  exact hsublist

end TabCompletion
