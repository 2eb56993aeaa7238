import TabCompletion.Offer
import TabCompletion.Proofs.Walk.Handlers

/-!
# Values take their arguments in order

Tokens that are neither options nor children are the values of a command's arguments. Each argument
takes one of them and is used up, up to the first variadic argument, which takes all that follow and
stays. With `v` the place of that argument, `n` values leave the arguments from place `min n v` on.

Results:
* `walk_argument`: one value at one argument.
* `walk_variadic`: a variadic argument takes every value.
* **`walk_positional`**: by induction on the arguments, where any number of values leads.
* `walk_singles`: the same without a variadic argument.
* **`positional_binding`**: which argument waits after the values that follow the name of a command,
  and what is offered there.

More values than arguments, where none is variadic, begin the arguments anew. That is left out
here.
-/

namespace TabCompletion

/-- A token that is a value of the command wherever it stands: it is complete, no option, and no
name of a child. -/
structure Command.IsValue (c : Command) (t : Token) : Prop where
  complete : t.complete = true
  unnamed : c.Unnamed t

/-- The level after some values, which are accepted in order and do not persist. -/
def Level.acceptAll (l : Level) (values : List Token) : Level :=
  { l with accepted := l.accepted ++ values.map fun t => { text := t.text, persist := false } }

theorem Level.acceptAll_nil (l : Level) : l.acceptAll [] = l := by
  unfold Level.acceptAll
  rw [List.map_nil, List.append_nil]

theorem Level.acceptAll_cons (l : Level) (t : Token) (values : List Token) :
    l.acceptAll (t :: values) = (l.accept t.text false).acceptAll values := by
  unfold Level.acceptAll Level.accept
  rw [List.map_cons, List.append_assoc, List.singleton_append]

variable (roots : String → Option Command) {here : Level} {ofOption : Bool}

/-! ## The walk over values -/

/-- A value at an argument: a variadic one stays, any other is used up. -/
theorem walk_argument {a : Arg} (hplain : a.command = false) {t : Token}
    (ht : here.command.IsValue t) (others : List Arg) (bound : Bool) (rest : List Token) :
    walk roots (.atArg here a others ofOption bound) (t :: rest) =
      walk roots (if a.variadic then .atArg (here.accept t.text false) a others ofOption true
        else .before (here.accept t.text false) others ofOption false) rest := by
  refine walk_of_next ht.complete ((step_atArg_of_unnamed fun _ => ht.unnamed).trans ?_)
  unfold Level.takeValue
  rw [hplain]
  cases a.variadic <;> rfl

/-- A variadic argument takes every value. -/
theorem walk_variadic {a : Arg} (hplain : a.command = false) (ha : a.variadic = true)
    {values : List Token} (hvalues : ∀ t ∈ values, here.command.IsValue t) (others : List Arg)
    (rest : List Token) :
    walk roots (.atArg here a others ofOption true) (values ++ rest) =
      walk roots (.atArg (here.acceptAll values) a others ofOption true) rest := by
  induction values generalizing here with
  | nil => rw [Level.acceptAll_nil, List.nil_append]
  | cons t values ih =>
    obtain ⟨ht, hvalues⟩ := List.forall_mem_cons.mp hvalues
    rw [List.cons_append, walk_argument roots hplain ht, if_pos ha, Level.acceptAll_cons]
    exact @ih (here.accept t.text false) hvalues

/-- **Values take their arguments in order.** `n` values leave the arguments from place `min n v` on,
where `v` is the place of the first variadic argument, and that argument has taken a value if `n` is
greater than `v`. -/
theorem walk_positional (here : Level) {args : List Arg} (hplain : ∀ a ∈ args, a.command = false)
    {values : List Token} (hvalues : ∀ t ∈ values, here.command.IsValue t)
    (hfit : values.length ≤ args.length ∨ ∃ a ∈ args, a.variadic = true) (rest : List Token) :
    let v := args.findIdx (·.variadic)
    walk roots (.before here args ofOption false) (values ++ rest) =
      walk roots (.before (here.acceptAll values) (args.drop (min values.length v)) ofOption
        (decide (v < values.length))) rest := by
  induction args generalizing here values with
  | nil =>
    have hlen : values.length ≤ 0 := hfit.resolve_right (by simp)
    obtain rfl := List.length_eq_zero_iff.mp (Nat.le_zero.mp hlen)
    exact congrArg (fun l => walk roots (.before l [] ofOption false) rest) here.acceptAll_nil.symm
  | cons a others ih =>
    obtain ⟨ha, hothers⟩ := List.forall_mem_cons.mp hplain
    cases values with
    | nil =>
      simp only [List.length_nil, Nat.zero_min, List.drop_zero, Nat.not_lt_zero, decide_false]
      rw [Level.acceptAll_nil, List.nil_append]
    | cons t values =>
      obtain ⟨ht, hvalues⟩ := List.forall_mem_cons.mp hvalues
      rw [Level.acceptAll_cons, List.cons_append]
      refine (walk_argument roots ha ht others false (values ++ rest)).trans ?_
      cases hvariadic : a.variadic with
      | true =>
        have hplace : (a :: others).findIdx (·.variadic) = 0 := by
          rw [List.findIdx_cons, hvariadic, cond_true]
        simp only [hplace, Nat.min_zero, List.drop_zero, List.length_cons, Nat.zero_lt_succ,
          decide_true, if_true]
        have hvalues' : ∀ u ∈ values, (here.accept t.text false).command.IsValue u := hvalues
        exact walk_variadic roots ha hvariadic hvalues' others rest
      | false =>
        have hplace : (a :: others).findIdx (·.variadic) = others.findIdx (·.variadic) + 1 := by
          rw [List.findIdx_cons, hvariadic, cond_false]
        have hfit' : values.length ≤ others.length ∨ ∃ b ∈ others, b.variadic = true := by
          simpa [hvariadic] using hfit
        simp only [hplace, List.length_cons, Nat.succ_min_succ, List.drop_succ_cons,
          Nat.add_lt_add_iff_right, if_neg Bool.false_ne_true]
        exact ih (here.accept t.text false) hothers hvalues hfit'

/-- Without a variadic argument each value uses up one argument. -/
theorem walk_singles (here : Level) {args : List Arg} (hplain : ∀ a ∈ args, a.command = false)
    (hsingle : ∀ a ∈ args, a.variadic = false) {values : List Token}
    (hvalues : ∀ t ∈ values, here.command.IsValue t) (hfit : values.length ≤ args.length)
    (rest : List Token) :
    walk roots (.before here args ofOption false) (values ++ rest) =
      walk roots (.before (here.acceptAll values) (args.drop values.length) ofOption false) rest := by
  have hplace : args.findIdx (·.variadic) = args.length := List.findIdx_eq_length_of_false hsingle
  have hbound : ¬ args.length < values.length := Nat.not_lt.mpr hfit
  have hwalk := @walk_positional roots ofOption here args hplain values hvalues (.inl hfit) rest
  simpa only [hplace, Nat.min_eq_left hfit, decide_eq_false hbound] using hwalk

/-! ## After the name of a command -/

/-- The level at which the values of a command are bound: its own persistent options are in force. -/
def Command.valueLevel (c : Command) : Level :=
  { command := c, inForce := mergePersistent [] c.options }

/-- A value finds a command where its arguments begin, even if they were used up before. -/
theorem walk_of_isValue {t : Token} (ht : here.command.IsValue t) (hargs : here.command.args ≠ [])
    (depleted positional : Bool) (rest : List Token) :
    walk roots (.atCommand here depleted positional) (t :: rest) =
      walk roots (.before here.gathered here.command.args false false) (t :: rest) := by
  obtain ⟨a, others, hargs⟩ := List.exists_cons_of_ne_nil hargs
  have hu : here.gathered.command.Unnamed t := ht.unnamed
  have hstep : Position.step roots (.atCommand here depleted positional) t =
      here.gathered.takeValue roots t.text a others false :=
    step_atCommand_of_unnamed ht.unnamed hargs
  rw [hargs]
  exact walk_of_step_eq ht.complete (hstep.trans (step_atArg_of_unnamed fun _ => hu).symm)

/-- The first value finds the command where its arguments begin. -/
theorem walk_of_values {c : Command} {values : List Token} (hsome : values ≠ [])
    (hvalues : ∀ t ∈ values, c.IsValue t) (hargs : c.args ≠ []) (rest : List Token) :
    c.walk roots (values ++ rest) =
      walk roots (.before c.valueLevel c.args false false) (values ++ rest) := by
  obtain ⟨t, values, rfl⟩ := List.exists_cons_of_ne_nil hsome
  have ht : ({ command := c } : Level).command.IsValue t := hvalues t List.mem_cons_self
  exact walk_of_isValue roots ht hargs false false (values ++ rest)

/-- A walk stops where no token is left, or only one that is still typed. -/
theorem walk_of_last {last : Option Token} (hlast : ∀ t ∈ last, t.complete = false)
    (p : Position) : walk roots p last.toList = .reached p (last.map (·.text)) := by
  cases last with
  | none => rfl
  | some t =>
    have ht : ¬ t.complete = true := by simp [hlast t rfl]
    show walk roots p [t] = .reached p (some t.text)
    rw [walk, if_neg ht]

/-- What is offered after the name of a command is what is offered where the tokens lead. -/
theorem Command.offer_of_walk {c : Command} {roots : Roots} {tokens : List Token} {p : Position}
    {typed : Option String} (hwalk : c.walk roots.lookup tokens = .reached p typed) :
    c.offer roots tokens = p.offer roots typed := by
  rw [Command.offer, hwalk]
  rfl

section Command

variable {c : Command} {values : List Token} {last : Option Token} (hsome : values ≠ [])
  (hvalues : ∀ t ∈ values, c.IsValue t) (hplain : ∀ a ∈ c.args, a.command = false)
  (hlast : ∀ t ∈ last, t.complete = false)

include hsome hvalues hplain hlast

/-- Where the values of a command lead. -/
theorem walk_of_values_last (hargs : c.args ≠ [])
    (hfit : values.length ≤ c.args.length ∨ ∃ a ∈ c.args, a.variadic = true) :
    let v := c.args.findIdx (·.variadic)
    c.walk roots (values ++ last.toList) =
      .reached (.before (c.valueLevel.acceptAll values) (c.args.drop (min values.length v)) false
        (decide (v < values.length))) (last.map (·.text)) := by
  intro v
  rw [walk_of_values roots hsome hvalues hargs, ← walk_of_last roots hlast]
  exact walk_positional roots c.valueLevel hplain hvalues hfit last.toList

/-- Where the values of a command without a variadic argument lead. -/
theorem walk_of_singles (hsingle : ∀ a ∈ c.args, a.variadic = false)
    (hfit : values.length ≤ c.args.length) :
    c.walk roots (values ++ last.toList) =
      .reached (.before (c.valueLevel.acceptAll values) (c.args.drop values.length) false false)
        (last.map (·.text)) := by
  have hargs : c.args ≠ [] := by
    rintro hargs
    rw [hargs] at hfit
    exact hsome (List.length_eq_zero_iff.mp (Nat.le_zero.mp hfit))
  rw [walk_of_values roots hsome hvalues hargs, ← walk_of_last roots hlast]
  exact walk_singles roots c.valueLevel hplain hsingle hvalues hfit last.toList

/-- With a variadic argument some argument is always left. -/
theorem walk_of_variadic {v : Nat} (hv : c.args.findIdx? (·.variadic) = some v) :
    ∃ a rest, c.args.drop (min values.length v) = a :: rest ∧
      c.walk roots (values ++ last.toList) =
        .reached (.atArg (c.valueLevel.acceptAll values) a rest false (decide (v < values.length)))
          (last.map (·.text)) := by
  obtain ⟨hlt, hplace⟩ := List.findIdx?_eq_some_iff_findIdx_eq.mp hv
  have hargs : c.args ≠ [] := List.ne_nil_of_length_pos (Nat.zero_lt_of_lt hlt)
  have hvariadic : ∃ a ∈ c.args, a.variadic = true :=
    List.findIdx_lt_length.mp (hplace ▸ hlt)
  have hwalk := walk_of_values_last roots hsome hvalues hplain hlast hargs (.inr hvariadic)
  have hleft : min values.length v < c.args.length := Nat.lt_of_le_of_lt (Nat.min_le_right _ _) hlt
  refine ⟨_, _, List.drop_eq_getElem_cons hleft, ?_⟩
  simpa only [hplace, List.drop_eq_getElem_cons hleft, Position.before] using hwalk

end Command

/-- **Positional binding.** After the name of a command come some values, and then nothing or a token
that is still typed. None of the arguments is a command. Without a variadic argument the `n` values
use up the first `n` arguments: the next one waits, and if none is left nothing is offered. With a
variadic argument at place `v` the argument at place `min n v` waits, and it has taken a value if `n`
is greater than `v`. The command's own persistent options are in force, and exactly the values are
accepted, in order, none of them persistent. -/
theorem positional_binding (c : Command) (roots : Roots) (values : List Token)
    (last : Option Token) (hsome : values ≠ []) (hvalues : ∀ t ∈ values, c.IsValue t)
    (hplain : ∀ a ∈ c.args, a.command = false) (hlast : ∀ t ∈ last, t.complete = false) :
    let n := values.length
    let here : Level :=
      { command := c
        inForce := mergePersistent [] c.options
        accepted := values.map fun t => { text := t.text, persist := false } }
    let tokens := values ++ last.toList
    let typed := last.map (·.text)
    ((∀ a ∈ c.args, a.variadic = false) →
      (n < c.args.length → ∃ a rest, c.args.drop n = a :: rest ∧
        c.walk roots.lookup tokens = .reached (.atArg here a rest false false) typed ∧
        c.offer roots tokens = here.offerAtArg roots a false typed) ∧
      (n = c.args.length → c.offer roots tokens = pure {})) ∧
    ∀ v, c.args.findIdx? (·.variadic) = some v →
      ∃ a rest, c.args.drop (min n v) = a :: rest ∧
        c.walk roots.lookup tokens =
          .reached (.atArg here a rest false (decide (v < n))) typed ∧
        c.offer roots tokens = here.offerAtArg roots a (decide (v < n)) typed := by
  intro n here tokens typed
  refine ⟨fun hsingle => ⟨fun hlt => ?_, fun hall => ?_⟩, fun v hv => ?_⟩
  · have hwalk : c.walk roots.lookup tokens =
        .reached (.before here (c.args.drop n) false false) typed :=
      walk_of_singles roots.lookup hsome hvalues hplain hlast hsingle (Nat.le_of_lt hlt)
    rw [List.drop_eq_getElem_cons hlt] at hwalk ⊢
    exact ⟨_, _, rfl, hwalk, Command.offer_of_walk hwalk⟩
  · have hwalk : c.walk roots.lookup tokens =
        .reached (.before here (c.args.drop n) false false) typed :=
      walk_of_singles roots.lookup hsome hvalues hplain hlast hsingle (Nat.le_of_eq hall)
    rw [List.drop_eq_nil_of_le (Nat.le_of_eq hall.symm)] at hwalk
    exact Command.offer_of_walk hwalk
  · obtain ⟨a, rest, hleft, hwalk⟩ :=
      walk_of_variadic roots.lookup hsome hvalues hplain hlast hv
    exact ⟨a, rest, hleft, hwalk, Command.offer_of_walk hwalk⟩

/-- A command that copies: from a host, at a port that may be left out, any number of files. -/
def copyCommand : Command where
  names := ["copy"]
  args := [{ name := "host" }, { name := "port", optional := true },
    { name := "files", variadic := true }]

/-- The fourth value of `copy` is the second file, and `server 22 a b ` waits for one more. -/
theorem positional_binding_copy :
    let word (text : String) : Token :=
      { text, complete := true, isOption := false, rawLength := text.length }
    let values := ["server", "22", "a", "b"].map word
    (∀ t ∈ values, copyCommand.IsValue t) ∧
    copyCommand.args.findIdx? (·.variadic) = some 2 ∧
    copyCommand.offer {} values =
      Level.offerAtArg
        { command := copyCommand
          accepted := ["server", "22", "a", "b"].map fun text => { text, persist := false } }
        {} { name := "files", variadic := true } true none := by
  intro word values
  have hvalues : ∀ t ∈ values, copyCommand.IsValue t := by
    intro t ht
    obtain ⟨text, -, rfl⟩ := List.mem_map.mp ht
    exact ⟨rfl, rfl, rfl⟩
  have hplain : ∀ a ∈ copyCommand.args, a.command = false := by decide
  obtain ⟨-, hvariadic⟩ := positional_binding copyCommand {} values none (by decide) hvalues hplain
    nofun
  obtain ⟨a, rest, hleft, -, hoffer⟩ := hvariadic 2 rfl
  obtain ⟨rfl, -⟩ := List.cons.inj hleft
  rw [Option.toList_none, List.append_nil] at hoffer
  exact ⟨hvalues, rfl, hoffer⟩

end TabCompletion
