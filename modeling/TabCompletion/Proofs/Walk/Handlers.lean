import TabCompletion.Proofs.Persistence
import TabCompletion.Walk

/-!
# The walk as handlers that call one another

`walk` goes from position to position. Seen from inside, four handlers do it: one at a command, one
at an option that the next token names, one at a list of arguments, one at a nested command. Each
looks at the tokens it was given and either ends the walk or calls a handler, with the token at the
head read or left where it is. `Call.next` is that one call; `Call.run` follows the calls to the
end and keeps how each token was read.

* `size_next`: a call leads to a smaller one. It reads a token, or passes the same tokens from used
  up arguments to the command, from there to an option or to arguments, from there to an option or
  to a nested command. So every run ends.
* **`next_eq_call_iff`**: the places at which a handler calls one (`Calls`).
* `stops_of_next`: the places at which it ends the walk (`Stops`).
* `run_of_stop`, `run_of_call`: a run, call by call.
* `walk_named_option`, `walk_child`: where the names of options and children lead.
* **`run_ends`**: the handlers and the walk end alike, from whichever handler a run starts.
-/

namespace TabCompletion

/-! ## Calls -/

/-- How a token was read. -/
inductive Reading where
  /-- As an option; `persist` tells whether a persistent option in force has that name. -/
  | option (t : Token) (o : Opt) (persist : Bool)
  /-- As the value of an argument. -/
  | value (t : Token) (a : Arg)
  /-- As a child, which is entered. -/
  | child (t : Token) (c : Command)
  /-- As a nested command that is a root command, which starts afresh. -/
  | root (t : Token) (c : Command)
  /-- As a nested command that is a child. -/
  | nestedChild (t : Token) (c : Command)

/-- The token that was read. -/
def Reading.token : Reading → Token
  | .option t _ _ | .value t _ | .child t _ | .root t _ | .nestedChild t _ => t

/-- A call of a handler, with the tokens that are left. -/
inductive Call where
  | command (tokens : List Token) (here : Level) (depleted positional : Bool)
  | option (tokens : List Token) (o : Opt) (here : Level)
  | args (tokens : List Token) (args : List Arg) (here : Level) (ofOption bound : Bool)
  | nested (tokens : List Token) (owner : Command) (inForce : List Opt)

/-- What a call comes to: the end of the walk, or another call. -/
inductive Call.Result where
  | stop (s : Stop)
  /-- Another call; `read` is how the first token was read, if it was. -/
  | call (read : Option Reading) (c : Call)

/-- The tokens that a call has left. -/
def Call.tokens : Call → List Token
  | .command tokens _ _ _ | .option tokens _ _ | .args tokens _ _ _ _ | .nested tokens _ _ => tokens

/-- The first call for the tokens that follow the name of a root command. -/
def Call.start (c : Command) (tokens : List Token) : Call :=
  .command tokens { command := c } false false

/-- The call of the handler at a position. -/
def Position.call : Position → List Token → Call
  | .atCommand here depleted positional, tokens => .command tokens here depleted positional
  | .atArg here a others ofOption bound, tokens => .args tokens (a :: others) here ofOption bound

/-- Reads the token `t`, with `rest` after it, as an option or a child; `none` if it is neither and
may be a value. -/
def Level.leave? (here : Level) (t : Token) (rest : List Token) : Option Call.Result :=
  if t.isOption then
    match Opt.find? t.text here.options with
    | some o => some (.call none (.option (t :: rest) o here))
    | none => some (.stop .nowhere)
  else
    match here.command.child? t.text with
    | some c =>
      some (.call (some (.child t c))
        (.command rest { here with command := c, accepted := keptBelow here.accepted } false false))
    | none => none

/-- Reads the token `t`, with `rest` after it, as the value of the argument `a`. -/
def Level.useValue (here : Level) (t : Token) (rest : List Token) (a : Arg) (others : List Arg)
    (ofOption : Bool) : Call.Result :=
  let after := here.accept t.text false
  if a.variadic then .call (some (.value t a)) (.args rest (a :: others) after ofOption true)
  else if a.command then .call none (.nested (t :: rest) here.command here.inForce)
  else .call (some (.value t a)) (.args rest others after ofOption false)

/-- One call. -/
def Call.next (roots : String → Option Command) : Call → Call.Result
  | .command [] here depleted positional =>
    .stop (.reached (.atCommand here depleted positional) none)
  | .command (t :: rest) here depleted positional =>
    if t.complete then
      match here.gathered.leave? t rest, here.command.args with
      | some r, _ => r
      | none, [] => .stop .nowhere
      | none, a :: others => .call none (.args (t :: rest) (a :: others) here.gathered false false)
    else .stop (.reached (.atCommand here depleted positional) (some t.text))
  | .option [] _ _ => .stop .noToken
  | .option (t :: rest) o here =>
    let persist := isPersistentName t.text here.inForce
    let after := here.accept t.text persist
    match o.args with
    | [] => .call (some (.option t o persist)) (.command rest after false false)
    | a :: others =>
      .call (some (.option t o persist)) (.args rest (a :: others) after true false)
  | .args tokens [] here ofOption _ => .call none (.command tokens here true (!ofOption))
  | .args [] (a :: others) here ofOption bound =>
    .stop (.reached (.atArg here a others ofOption bound) none)
  | .args (t :: rest) (a :: others) here ofOption bound =>
    if t.complete then
      match if allOptional (a :: others) then here.leave? t rest else none with
      | some r => r
      | none => here.useValue t rest a others ofOption
    else .stop (.reached (.atArg here a others ofOption bound) (some t.text))
  | .nested (t :: next :: rest) owner inForce =>
    match roots t.text with
    | some c => .call (some (.root t c)) (.command (next :: rest) { command := c } false false)
    | none =>
      match owner.child? t.text with
      | some c =>
        .call (some (.nestedChild t c))
          (.command (next :: rest) { command := c, inForce } false false)
      | none => .stop .nowhere
  | .nested _ _ _ => .stop .nowhere

/-! ## The places of a call -/

/-- A token that names neither an option nor a child where it stands, and may be a value. -/
def Command.Unnamed (c : Command) (t : Token) : Prop :=
  t.isOption = false ∧ c.child? t.text = none

/-- The places at which a handler calls one, each with all it takes to get there. From arguments that
are all optional `escapeOption` and `escapeChild` lead out. -/
inductive Calls (roots : String → Option Command) : Call → Option Reading → Call → Prop
  | option {t rest here depleted positional o} (hc : t.complete = true) (ho : t.isOption = true)
      (hf : Opt.find? t.text here.gathered.options = some o) :
      Calls roots (.command (t :: rest) here depleted positional) none
        (.option (t :: rest) o here.gathered)
  | child {t rest here depleted positional c} (hc : t.complete = true) (ho : t.isOption = false)
      (hf : here.command.child? t.text = some c) :
      Calls roots (.command (t :: rest) here depleted positional) (some (.child t c))
        (.command rest
          { here.gathered with command := c, accepted := keptBelow here.accepted } false false)
  | arguments {t rest here depleted positional a others} (hc : t.complete = true)
      (hu : here.command.Unnamed t) (ha : here.command.args = a :: others) :
      Calls roots (.command (t :: rest) here depleted positional) none
        (.args (t :: rest) (a :: others) here.gathered false false)
  | flag {t rest o here} (ha : o.args = []) :
      Calls roots (.option (t :: rest) o here)
        (some (.option t o (isPersistentName t.text here.inForce)))
        (.command rest (here.accept t.text (isPersistentName t.text here.inForce)) false false)
  | optionArguments {t rest o here a others} (ha : o.args = a :: others) :
      Calls roots (.option (t :: rest) o here)
        (some (.option t o (isPersistentName t.text here.inForce)))
        (.args rest (a :: others) (here.accept t.text (isPersistentName t.text here.inForce))
          true false)
  | exhausted {tokens here ofOption bound} :
      Calls roots (.args tokens [] here ofOption bound) none
        (.command tokens here true (!ofOption))
  | escapeOption {t rest a others here ofOption bound o} (hc : t.complete = true)
      (hopt : allOptional (a :: others) = true) (ho : t.isOption = true)
      (hf : Opt.find? t.text here.options = some o) :
      Calls roots (.args (t :: rest) (a :: others) here ofOption bound) none
        (.option (t :: rest) o here)
  | escapeChild {t rest a others here ofOption bound c} (hc : t.complete = true)
      (hopt : allOptional (a :: others) = true) (ho : t.isOption = false)
      (hf : here.command.child? t.text = some c) :
      Calls roots (.args (t :: rest) (a :: others) here ofOption bound) (some (.child t c))
        (.command rest { here with command := c, accepted := keptBelow here.accepted } false false)
  | variadic {t rest a others here ofOption bound} (hc : t.complete = true)
      (hu : allOptional (a :: others) = true → here.command.Unnamed t) (ha : a.variadic = true) :
      Calls roots (.args (t :: rest) (a :: others) here ofOption bound) (some (.value t a))
        (.args rest (a :: others) (here.accept t.text false) ofOption true)
  | commandArgument {t rest a others here ofOption bound} (hc : t.complete = true)
      (hu : allOptional (a :: others) = true → here.command.Unnamed t) (ha : a.variadic = false)
      (hn : a.command = true) :
      Calls roots (.args (t :: rest) (a :: others) here ofOption bound) none
        (.nested (t :: rest) here.command here.inForce)
  | value {t rest a others here ofOption bound} (hc : t.complete = true)
      (hu : allOptional (a :: others) = true → here.command.Unnamed t) (ha : a.variadic = false)
      (hn : a.command = false) :
      Calls roots (.args (t :: rest) (a :: others) here ofOption bound) (some (.value t a))
        (.args rest others (here.accept t.text false) ofOption false)
  | root {t next rest owner inForce c} (hr : roots t.text = some c) :
      Calls roots (.nested (t :: next :: rest) owner inForce) (some (.root t c))
        (.command (next :: rest) { command := c } false false)
  | nestedChild {t next rest owner inForce c} (hr : roots t.text = none)
      (hf : owner.child? t.text = some c) :
      Calls roots (.nested (t :: next :: rest) owner inForce) (some (.nestedChild t c))
        (.command (next :: rest) { command := c, inForce } false false)

/-- The places at which a handler ends the walk: no token is left, the next one is still typed, or it
is unknown. -/
inductive Stops (roots : String → Option Command) : Call → Stop → Prop
  | commandEnd {here depleted positional} :
      Stops roots (.command [] here depleted positional)
        (.reached (.atCommand here depleted positional) none)
  | commandTyped {t rest here depleted positional} (hc : t.complete = false) :
      Stops roots (.command (t :: rest) here depleted positional)
        (.reached (.atCommand here depleted positional) (some t.text))
  | unknownOption {t rest here depleted positional} (hc : t.complete = true)
      (ho : t.isOption = true) (hf : Opt.find? t.text here.gathered.options = none) :
      Stops roots (.command (t :: rest) here depleted positional) .nowhere
  | unknownValue {t rest here depleted positional} (hc : t.complete = true)
      (hu : here.command.Unnamed t) (ha : here.command.args = []) :
      Stops roots (.command (t :: rest) here depleted positional) .nowhere
  | noToken {o here} : Stops roots (.option [] o here) .noToken
  | argEnd {a others here ofOption bound} :
      Stops roots (.args [] (a :: others) here ofOption bound)
        (.reached (.atArg here a others ofOption bound) none)
  | argTyped {t rest a others here ofOption bound} (hc : t.complete = false) :
      Stops roots (.args (t :: rest) (a :: others) here ofOption bound)
        (.reached (.atArg here a others ofOption bound) (some t.text))
  | escapeUnknown {t rest a others here ofOption bound} (hc : t.complete = true)
      (hopt : allOptional (a :: others) = true) (ho : t.isOption = true)
      (hf : Opt.find? t.text here.options = none) :
      Stops roots (.args (t :: rest) (a :: others) here ofOption bound) .nowhere
  | nestedEnd {owner inForce} : Stops roots (.nested [] owner inForce) .nowhere
  | nestedName {t owner inForce} : Stops roots (.nested [t] owner inForce) .nowhere
  | nestedUnknown {t next rest owner inForce} (hr : roots t.text = none)
      (hf : owner.child? t.text = none) :
      Stops roots (.nested (t :: next :: rest) owner inForce) .nowhere

variable {roots : String → Option Command}

/-- What leaving for an option or a child comes to. -/
theorem leave_eq_call {here : Level} {t : Token} {rest : List Token} {read : Option Reading}
    {c : Call} (h : here.leave? t rest = some (.call read c)) :
    (∃ o, t.isOption = true ∧ Opt.find? t.text here.options = some o ∧ read = none ∧
      c = .option (t :: rest) o here) ∨
    (∃ d, t.isOption = false ∧ here.command.child? t.text = some d ∧ read = some (.child t d) ∧
      c = .command rest { here with command := d, accepted := keptBelow here.accepted }
        false false) := by
  unfold Level.leave? at h
  split at h
  · rename_i ho
    split at h
    · rename_i o hf
      simp only [Option.some.injEq, Call.Result.call.injEq] at h
      exact .inl ⟨o, ho, hf, h.1.symm, h.2.symm⟩
    · simp at h
  · rename_i ho
    split at h
    · rename_i d hf
      simp only [Option.some.injEq, Call.Result.call.injEq] at h
      exact .inr ⟨d, by simpa using ho, hf, h.1.symm, h.2.symm⟩
    · simp at h

theorem leave_eq_none_iff {here : Level} {t : Token} {rest : List Token} :
    here.leave? t rest = none ↔ here.command.Unnamed t := by
  unfold Level.leave? Command.Unnamed
  cases t.isOption with
  | true =>
    rw [if_pos rfl]
    cases Opt.find? t.text here.options <;> simp
  | false =>
    rw [if_neg Bool.false_ne_true]
    cases here.command.child? t.text <;> simp

/-- What a value comes to, at a complete token. -/
theorem useValue_eq_call {here : Level} {t : Token} {rest : List Token} {a : Arg}
    {others : List Arg} {ofOption bound : Bool} {read : Option Reading} {c : Call}
    (hc : t.complete = true) (hu : allOptional (a :: others) = true → here.command.Unnamed t)
    (h : here.useValue t rest a others ofOption = .call read c) :
    Calls roots (.args (t :: rest) (a :: others) here ofOption bound) read c := by
  unfold Level.useValue at h
  split at h
  · rename_i ha
    cases h
    exact .variadic hc hu ha
  · rename_i ha
    split at h
    · rename_i hn
      cases h
      exact .commandArgument hc hu (by simpa using ha) hn
    · rename_i hn
      cases h
      exact .value hc hu (by simpa using ha) (by simpa using hn)

/-- A token that leads out of no arguments is read as a value. -/
theorem next_args_of_unnamed {here : Level} {t : Token} {rest : List Token} {a : Arg}
    {others : List Arg} {ofOption bound : Bool} (hc : t.complete = true)
    (hu : allOptional (a :: others) = true → here.command.Unnamed t) :
    (Call.args (t :: rest) (a :: others) here ofOption bound).next roots =
      here.useValue t rest a others ofOption := by
  have hl : (if allOptional (a :: others) then here.leave? t rest else none) = none := by
    split
    · rename_i hopt
      exact leave_eq_none_iff.mpr (hu hopt)
    · rfl
  simp only [Call.next, hc, if_true, hl]

/-- A handler calls one only at these places. -/
theorem calls_of_next {c c' : Call} {read : Option Reading} (h : c.next roots = .call read c') :
    Calls roots c read c' := by
  cases c with
  | command tokens here depleted positional =>
    cases tokens with
    | nil => cases h
    | cons t rest =>
      simp only [Call.next] at h
      split at h
      · rename_i hc
        split at h
        · rename_i hl
          subst h
          obtain ⟨o, ho, hf, rfl, rfl⟩ | ⟨d, ho, hf, rfl, rfl⟩ := leave_eq_call hl
          · exact .option hc ho hf
          · exact .child hc ho hf
        · cases h
        · rename_i hl ha
          cases h
          have hu := leave_eq_none_iff.mp hl
          exact .arguments hc hu ha
      · cases h
  | option tokens o here =>
    cases tokens with
    | nil => cases h
    | cons t rest =>
      simp only [Call.next] at h
      split at h
      · rename_i ha
        cases h
        exact .flag ha
      · rename_i ha
        cases h
        exact .optionArguments ha
  | args tokens left here ofOption bound =>
    cases left with
    | nil =>
      cases h
      exact .exhausted
    | cons a others =>
      cases tokens with
      | nil => cases h
      | cons t rest =>
        simp only [Call.next] at h
        split at h
        · rename_i hc
          split at h
          · rename_i hl
            subst h
            split at hl
            · rename_i hopt
              obtain ⟨o, ho, hf, rfl, rfl⟩ | ⟨d, ho, hf, rfl, rfl⟩ := leave_eq_call hl
              · exact .escapeOption hc hopt ho hf
              · exact .escapeChild hc hopt ho hf
            · cases hl
          · rename_i hl
            refine useValue_eq_call hc (fun hopt => ?_) h
            rw [if_pos hopt] at hl
            exact leave_eq_none_iff.mp hl
        · cases h
  | nested tokens owner inForce =>
    rcases tokens with _ | ⟨t, _ | ⟨next, rest⟩⟩
    · cases h
    · cases h
    · simp only [Call.next] at h
      split at h
      · rename_i hr
        cases h
        exact .root hr
      · rename_i hr
        split at h
        · rename_i hf
          cases h
          exact .nestedChild hr hf
        · cases h

/-- **A handler calls one exactly at these places.** -/
theorem next_eq_call_iff {c c' : Call} {read : Option Reading} :
    c.next roots = .call read c' ↔ Calls roots c read c' := by
  refine ⟨calls_of_next, fun h => ?_⟩
  cases h with
  | option hc ho hf => simp [Call.next, Level.leave?, hc, ho, hf]
  | child hc ho hf => simp [Call.next, Level.leave?, Level.gathered, hc, ho, hf]
  | @arguments t rest here _ _ _ _ hc hu ha =>
    have hl : here.gathered.leave? t rest = none := leave_eq_none_iff.mpr hu
    simp [Call.next, hc, ha, hl]
  | flag ha => simp [Call.next, ha]
  | optionArguments ha => simp [Call.next, ha]
  | exhausted => simp [Call.next]
  | escapeOption hc hopt ho hf => simp [Call.next, Level.leave?, hc, hopt, ho, hf]
  | escapeChild hc hopt ho hf => simp [Call.next, Level.leave?, hc, hopt, ho, hf]
  | variadic hc hu ha => simp [next_args_of_unnamed hc hu, Level.useValue, ha]
  | commandArgument hc hu ha hn => simp [next_args_of_unnamed hc hu, Level.useValue, ha, hn]
  | value hc hu ha hn => simp [next_args_of_unnamed hc hu, Level.useValue, ha, hn]
  | root hr => simp [Call.next, hr]
  | nestedChild hr hf => simp [Call.next, hr, hf]

theorem leave_eq_stop {here : Level} {t : Token} {rest : List Token} {s : Stop}
    (h : here.leave? t rest = some (.stop s)) :
    s = .nowhere ∧ t.isOption = true ∧ Opt.find? t.text here.options = none := by
  unfold Level.leave? at h
  split at h
  · rename_i ho
    split at h
    · cases h
    · rename_i hf
      cases h
      exact ⟨rfl, ho, hf⟩
  · split at h <;> cases h

theorem useValue_ne_stop {here : Level} {t : Token} {rest : List Token} {a : Arg}
    {others : List Arg} {ofOption : Bool} {s : Stop} :
    here.useValue t rest a others ofOption ≠ .stop s := by
  unfold Level.useValue
  split
  · exact nofun
  · split <;> exact nofun

/-- **A handler ends the walk only at these places.** -/
theorem stops_of_next {c : Call} {s : Stop} (h : c.next roots = .stop s) : Stops roots c s := by
  cases c with
  | command tokens here depleted positional =>
    cases tokens with
    | nil =>
      cases h
      exact .commandEnd
    | cons t rest =>
      simp only [Call.next] at h
      split at h
      · rename_i hc
        split at h
        · rename_i hl
          subst h
          obtain ⟨rfl, ho, hf⟩ := leave_eq_stop hl
          exact .unknownOption hc ho hf
        · rename_i hl ha
          cases h
          have hu := leave_eq_none_iff.mp hl
          exact .unknownValue hc hu ha
        · cases h
      · rename_i hc
        cases h
        exact .commandTyped (by simpa using hc)
  | option tokens o here =>
    cases tokens with
    | nil =>
      cases h
      exact .noToken
    | cons t rest =>
      simp only [Call.next] at h
      split at h <;> cases h
  | args tokens left here ofOption bound =>
    cases left with
    | nil => cases h
    | cons a others =>
      cases tokens with
      | nil =>
        cases h
        exact .argEnd
      | cons t rest =>
        simp only [Call.next] at h
        split at h
        · rename_i hc
          split at h
          · rename_i hl
            subst h
            split at hl
            · rename_i hopt
              obtain ⟨rfl, ho, hf⟩ := leave_eq_stop hl
              exact .escapeUnknown hc hopt ho hf
            · cases hl
          · exact absurd h useValue_ne_stop
        · rename_i hc
          cases h
          exact .argTyped (by simpa using hc)
  | nested tokens owner inForce =>
    rcases tokens with _ | ⟨t, _ | ⟨next, rest⟩⟩
    · cases h
      exact .nestedEnd
    · cases h
      exact .nestedName
    · simp only [Call.next] at h
      split at h
      · cases h
      · rename_i hr
        split at h
        · cases h
        · rename_i hf
          cases h
          exact .nestedUnknown hr hf

/-! ## Runs -/

/-- What decreases from call to call: the tokens, then the way from handler to handler. -/
def Call.size : Call → Nat
  | .args tokens [] _ _ _ => 4 * tokens.length + 3
  | .command tokens _ _ _ => 4 * tokens.length + 2
  | .args tokens (_ :: _) _ _ _ => 4 * tokens.length + 1
  | .option tokens _ _ | .nested tokens _ _ => 4 * tokens.length

/-- **A call leads to a smaller one.** -/
theorem size_next {c c' : Call} {read : Option Reading} (h : c.next roots = .call read c') :
    c'.size < c.size := by
  cases calls_of_next h with
  | value hc hu ha hn =>
    rename_i others _ _ _
    cases others <;> simp only [Call.size, List.length_cons] <;> omega
  | _ =>
    simp only [Call.size, List.length_cons]
    omega

/-- Follows the calls to the end of the walk: how the tokens were read, and where it ended. -/
def Call.run (roots : String → Option Command) (c : Call) : List Reading × Stop :=
  match _h : c.next roots with
  | .stop s => ([], s)
  | .call read c' => ((read.toList ++ (c'.run roots).1), (c'.run roots).2)
termination_by c.size
decreasing_by exact size_next _h

theorem run_of_stop {c : Call} {s : Stop} (h : c.next roots = .stop s) :
    c.run roots = ([], s) := by
  rw [Call.run]
  split
  · rename_i hs
    rw [h] at hs
    cases hs
    rfl
  · rename_i hs
    rw [h] at hs
    cases hs

theorem run_of_call {c c' : Call} {read : Option Reading} (h : c.next roots = .call read c') :
    c.run roots = (read.toList ++ (c'.run roots).1, (c'.run roots).2) := by
  rw [Call.run]
  split
  · rename_i hs
    rw [h] at hs
    cases hs
  · rename_i hs
    rw [h] at hs
    cases hs
    rfl

/-! ## The handlers and the walk -/

/-- Where the walk ends from a call on. -/
def Call.ending (roots : String → Option Command) : Call → Stop
  | .command tokens here depleted positional =>
    walk roots (.atCommand here depleted positional) tokens
  | .option tokens o here => here.walkOption roots o tokens
  | .args tokens left here ofOption bound => walk roots (.before here left ofOption bound) tokens
  | .nested tokens owner inForce => Level.walkNested { command := owner, inForce } roots tokens

theorem walk_of_next {p q : Position} {t : Token} {rest : List Token} (hc : t.complete = true)
    (h : p.step roots t = .next q) : walk roots p (t :: rest) = walk roots q rest := by
  rw [walk, if_pos hc, h]

/-- Positions that read the next token alike end alike. -/
theorem walk_of_step_eq {p q : Position} {t : Token} {rest : List Token} (hc : t.complete = true)
    (h : p.step roots t = q.step roots t) : walk roots p (t :: rest) = walk roots q (t :: rest) := by
  rw [walk, if_pos hc, walk, if_pos hc, h]

theorem walk_of_nested {p q : Position} {t : Token} {rest : List Token} (hc : t.complete = true)
    (h : p.step roots t = .nested q) :
    walk roots p (t :: rest) = if rest.isEmpty then .nowhere else walk roots q rest := by
  rw [walk, if_pos hc, h]

theorem walk_of_unknown {p : Position} {t : Token} {rest : List Token} (hc : t.complete = true)
    (h : p.step roots t = .unknown) : walk roots p (t :: rest) = .nowhere := by
  rw [walk, if_pos hc, h]

theorem escape_of_unnamed {here : Level} {t : Token} (hu : here.command.Unnamed t) :
    here.escape? t = none := by
  unfold Level.escape?
  rw [hu.1, if_neg Bool.false_ne_true, hu.2]
  rfl

theorem escape_of_option {here : Level} {t : Token} {o : Opt} (ho : t.isOption = true)
    (hf : Opt.find? t.text here.options = some o) :
    here.escape? t = some (.next (here.afterOption o t.text)) := by
  unfold Level.escape?
  rw [if_pos ho, hf]

theorem escape_of_child {here : Level} {t : Token} {c : Command} (ho : t.isOption = false)
    (hf : here.command.child? t.text = some c) :
    here.escape? t = some (.next (here.descend c)) := by
  unfold Level.escape?
  rw [ho, if_neg Bool.false_ne_true, hf]
  rfl

theorem step_atCommand_of_escape {here : Level} {depleted positional : Bool} {t : Token} {m : Move}
    (h : here.gathered.escape? t = some m) :
    Position.step roots (.atCommand here depleted positional) t = m := by
  simp only [Position.step, h]

theorem step_atArg_of_escape {here : Level} {a : Arg} {others : List Arg} {ofOption bound : Bool}
    {t : Token} {m : Move} (hopt : allOptional (a :: others) = true)
    (h : here.escape? t = some m) :
    Position.step roots (.atArg here a others ofOption bound) t = m := by
  simp only [Position.step, hopt, if_true, h]

theorem step_atArg_of_unnamed {here : Level} {a : Arg} {others : List Arg} {ofOption bound : Bool}
    {t : Token} (hu : allOptional (a :: others) = true → here.command.Unnamed t) :
    Position.step roots (.atArg here a others ofOption bound) t =
      here.takeValue roots t.text a others ofOption := by
  have hl : (if allOptional (a :: others) then here.escape? t else none) = none := by
    split
    · rename_i hopt
      exact escape_of_unnamed (hu hopt)
    · rfl
  simp only [Position.step, hl]

theorem step_atCommand_of_unnamed {here : Level} {a : Arg} {others : List Arg}
    {depleted positional : Bool} {t : Token} (hu : here.command.Unnamed t)
    (ha : here.command.args = a :: others) :
    Position.step roots (.atCommand here depleted positional) t =
      here.gathered.takeValue roots t.text a others false := by
  have he : here.gathered.escape? t = none := escape_of_unnamed hu
  have ha' : here.gathered.command.args = a :: others := ha
  simp only [Position.step, he, ha']

/-- At a command the name of an option leads to its arguments. -/
theorem walk_named_option {here : Level} {t : Token} {o : Opt} (hc : t.complete = true)
    (ho : t.isOption = true) (hf : Opt.find? t.text here.gathered.options = some o)
    (depleted positional : Bool) (rest : List Token) :
    walk roots (.atCommand here depleted positional) (t :: rest) =
      walk roots (here.gathered.afterOption o t.text) rest :=
  walk_of_next hc (step_atCommand_of_escape (escape_of_option ho hf))

/-- At a command the name of a child leads to the child. -/
theorem walk_child {here : Level} {t : Token} {d : Command} (hc : t.complete = true)
    (ho : t.isOption = false) (hf : here.command.child? t.text = some d)
    (depleted positional : Bool) (rest : List Token) :
    walk roots (.atCommand here depleted positional) (t :: rest) =
      walk roots (here.gathered.descend d) rest := by
  have hf' : here.gathered.command.child? t.text = some d := hf
  exact walk_of_next hc (step_atCommand_of_escape (escape_of_child ho hf'))

/-- After a merge of the command's own options gathering changes nothing. -/
theorem gathered_of_merged {here : Level} {inForce : List Opt}
    (h : here.inForce = mergePersistent inForce here.command.options) : here.gathered = here := by
  unfold Level.gathered
  rw [h, mergePersistent_self, ← h]

/-- A position that reads the next token as the name of a nested command ends as the nested command
does. -/
theorem walk_of_nestedName {p : Position} {here : Level} {t : Token} {rest : List Token}
    (hc : t.complete = true) (h : p.step roots t = here.nested roots t.text) :
    walk roots p (t :: rest) = here.walkNested roots (t :: rest) := by
  cases hm : here.nested roots t.text with
  | unknown =>
    rw [walk_of_unknown hc (h.trans hm)]
    cases rest with
    | nil => rfl
    | cons next rest => rw [Level.walkNested, hm]
  | next q =>
    unfold Level.nested at hm
    split at hm
    · cases hm
    · split at hm <;> cases hm
  | nested q =>
    rw [walk_of_nested hc (h.trans hm)]
    cases rest with
    | nil => rfl
    | cons next rest =>
      rw [Level.walkNested, hm]
      rfl

/-- The walk goes the way of the calls. -/
theorem ending_of_calls {c c' : Call} {read : Option Reading} (h : Calls roots c read c') :
    c.ending roots = c'.ending roots := by
  cases h with
  | option hc ho hf => exact walk_named_option hc ho hf _ _ _
  | child hc ho hf => exact walk_child hc ho hf _ _ _
  | @arguments t rest here _ _ _ _ hc hu ha =>
    have hu' : here.gathered.command.Unnamed t := hu
    refine walk_of_step_eq hc ((step_atCommand_of_unnamed hu ha).trans ?_)
    exact (step_atArg_of_unnamed fun _ => hu').symm
  | flag ha => simp only [Call.ending, Level.walkOption, Level.afterOption, ha, Position.start]
  | optionArguments ha =>
    simp only [Call.ending, Level.walkOption, Level.afterOption, ha, Position.before]
  | exhausted => rfl
  | escapeOption hc hopt ho hf =>
    exact walk_of_next hc (step_atArg_of_escape hopt (escape_of_option ho hf))
  | escapeChild hc hopt ho hf =>
    exact walk_of_next hc (step_atArg_of_escape hopt (escape_of_child ho hf))
  | variadic hc hu ha =>
    refine walk_of_next hc ((step_atArg_of_unnamed hu).trans ?_)
    rw [Level.takeValue, if_pos ha]
    rfl
  | commandArgument hc hu ha hn =>
    refine walk_of_nestedName hc ((step_atArg_of_unnamed hu).trans ?_)
    rw [Level.takeValue, ha, if_neg Bool.false_ne_true, if_pos hn]
    rfl
  | value hc hu ha hn =>
    refine walk_of_next hc ((step_atArg_of_unnamed hu).trans ?_)
    rw [Level.takeValue, ha, if_neg Bool.false_ne_true, hn, if_neg Bool.false_ne_true]
  | root hr => simp only [Call.ending, Level.walkNested, Level.nested, hr, Position.start]
  | nestedChild hr hf =>
    simp only [Call.ending, Level.walkNested, Level.nested, hr, hf, Position.start]

theorem escape_of_unknown {here : Level} {t : Token} (ho : t.isOption = true)
    (hf : Opt.find? t.text here.options = none) : here.escape? t = some .unknown := by
  unfold Level.escape?
  rw [if_pos ho, hf]

/-- Where a call ends the walk, the walk ends. -/
theorem ending_of_stops {c : Call} {s : Stop} (h : Stops roots c s) : c.ending roots = s := by
  cases h with
  | commandEnd | argEnd | noToken | nestedEnd | nestedName => rfl
  | commandTyped hc | argTyped hc =>
    have hc' : ¬ _ = true := fun ht => Bool.false_ne_true (hc.symm.trans ht)
    simp only [Call.ending, Position.before, walk, if_neg hc']
  | unknownOption hc ho hf =>
    exact walk_of_unknown hc (step_atCommand_of_escape (escape_of_unknown ho hf))
  | @unknownValue t rest here depleted positional hc hu ha =>
    have he : here.gathered.escape? t = none := escape_of_unnamed hu
    have ha' : here.gathered.command.args = [] := ha
    exact walk_of_unknown hc (by simp only [Position.step, he, ha'])
  | escapeUnknown hc hopt ho hf =>
    exact walk_of_unknown hc (step_atArg_of_escape hopt (escape_of_unknown ho hf))
  | nestedUnknown hr hf => simp only [Call.ending, Level.walkNested, Level.nested, hr, hf]

/-- **The handlers and the walk end alike.** -/
theorem run_ends (c : Call) : (c.run roots).2 = c.ending roots := by
  induction hn : c.size using Nat.strongRecOn generalizing c with
  | ind n ih =>
    subst hn
    cases h : c.next roots with
    | stop s => rw [run_of_stop h, ending_of_stops (stops_of_next h)]
    | call read c' =>
      rw [run_of_call h, ending_of_calls (calls_of_next h)]
      exact ih c'.size (size_next h) c' rfl

end TabCompletion
