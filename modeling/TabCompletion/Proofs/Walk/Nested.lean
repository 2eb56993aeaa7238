import TabCompletion.Answer
import TabCompletion.Grammar.Shipped
import TabCompletion.Proofs.CommandLine
import TabCompletion.Proofs.Walk.Positional

/-!
# Nested commands

A wrapper takes another command line as its only argument, as in `sudo git status`. What follows the
wrapper and its options is walked as if the line began there: a root command starts afresh, with
nothing of the commands around it.

Results:
* `walk_option`: one option with its values leads back to the command, with these accepted.
* `walk_optionRun`: so does any number of options.
* `walk_wrapper`: the first token that is no option names the nested command.
* `walk_of_wrapped`: through any number of wrappers the walk is that of the innermost command.
* **`nested_resolution`**: the same for what is offered, and for whole lines.
-/

namespace TabCompletion

/-- A command that takes a command line as its only argument, and has no children. -/
structure Command.IsWrapper (w : Command) : Prop where
  children : w.children = []
  args : ∃ a, w.args = [a] ∧ a.command = true ∧ a.variadic = false

/-- An argument that takes one value, whatever the value is. -/
structure Arg.TakesOne (a : Arg) : Prop where
  required : a.optional = false
  single : a.variadic = false
  plain : a.command = false

/-- Options of a command, each followed by the values that it requires. -/
inductive OptionRun (w : Command) : List Token → Prop
  | nil : OptionRun w []
  | option {t : Token} {o : Opt} {values more : List Token} (hc : t.complete = true)
      (ho : t.isOption = true) (hf : Opt.find? t.text w.options = some o)
      (hargs : ∀ a ∈ o.args, a.TakesOne) (hlen : values.length = o.args.length)
      (hvalues : ∀ v ∈ values, v.complete = true) (hmore : OptionRun w more) :
      OptionRun w (t :: (values ++ more))

/-- The tokens `ts` of the wrapper `w` hold, through any number of wrappers, the tokens `inner` of
the command `c`. -/
inductive Wrapped (roots : String → Option Command) :
    Command → List Token → Command → List Token → Prop
  | inner {c inner} : Wrapped roots c inner c inner
  | outer {w run t s next rest c inner} (hw : w.IsWrapper) (hrun : OptionRun w run)
      (hc : t.complete = true) (ho : t.isOption = false) (hs : roots t.text = some s)
      (h : Wrapped roots s (next :: rest) c inner) :
      Wrapped roots w (run ++ t :: next :: rest) c inner

variable (roots : String → Option Command)

/-! ## The walk through a wrapper -/

/-- One value of an argument that takes one. -/
theorem walk_value {a : Arg} (ha : a.TakesOne) {v : Token} (hv : v.complete = true) (here : Level)
    (others : List Arg) (ofOption bound : Bool) (rest : List Token) :
    walk roots (.atArg here a others ofOption bound) (v :: rest) =
      walk roots (.before (here.accept v.text false) others ofOption false) rest := by
  have hu : allOptional (a :: others) = true → here.command.Unnamed v := by
    intro hopt
    have ho := List.all_eq_true.mp hopt a List.mem_cons_self
    rw [ha.required] at ho
    cases ho
  refine walk_of_next hv ((step_atArg_of_unnamed hu).trans ?_)
  rw [Level.takeValue, ha.single, if_neg Bool.false_ne_true, ha.plain, if_neg Bool.false_ne_true]

/-- As many values as arguments lead back to the command. -/
theorem walk_values {args : List Arg} (hargs : ∀ a ∈ args, a.TakesOne) {values : List Token}
    (hlen : values.length = args.length) (hvalues : ∀ v ∈ values, v.complete = true)
    (here : Level) (rest : List Token) :
    walk roots (.before here args true false) (values ++ rest) =
      walk roots (.atCommand (here.acceptAll values) true false) rest := by
  induction args generalizing here values with
  | nil =>
    obtain rfl := List.length_eq_zero_iff.mp hlen
    rw [Level.acceptAll_nil]
    rfl
  | cons a others ih =>
    cases values with
    | nil => cases hlen
    | cons v values =>
      obtain ⟨ha, hothers⟩ := List.forall_mem_cons.mp hargs
      obtain ⟨hv, hvalues⟩ := List.forall_mem_cons.mp hvalues
      have hfirst := walk_value roots ha hv here others true false (values ++ rest)
      rw [Level.acceptAll_cons]
      exact hfirst.trans (ih hothers (Nat.succ.inj hlen) hvalues (here.accept v.text false))

/-- One option with its values leads back to the command, where the option and its values are
accepted in addition. -/
theorem walk_option {here : Level} {t : Token} {o : Opt} {values : List Token}
    (hc : t.complete = true) (ho : t.isOption = true)
    (hf : Opt.find? t.text here.gathered.options = some o) (hargs : ∀ a ∈ o.args, a.TakesOne)
    (hlen : values.length = o.args.length) (hvalues : ∀ v ∈ values, v.complete = true)
    (depleted positional : Bool) (rest : List Token) :
    walk roots (.atCommand here depleted positional) (t :: (values ++ rest)) =
      walk roots (.atCommand
        ((here.gathered.accept t.text (isPersistentName t.text here.gathered.inForce)).acceptAll
          values) (!o.args.isEmpty) false) rest := by
  rw [walk_named_option hc ho hf]
  cases hoargs : o.args with
  | nil =>
    rw [hoargs] at hlen
    obtain rfl := List.length_eq_zero_iff.mp hlen
    rw [Level.acceptAll_nil]
    simp only [Level.afterOption, hoargs]
    rfl
  | cons a others =>
    rw [hoargs] at hargs hlen
    simp only [Level.afterOption, hoargs]
    exact walk_values roots hargs hlen hvalues _ rest

/-- The options of a command come first of those that may be typed there. -/
theorem find_gathered_of_own {here : Level} {name : String} {o : Opt}
    (hf : Opt.find? name here.command.options = some o) :
    Opt.find? name here.gathered.options = some o := by
  unfold Opt.find? at hf ⊢
  unfold Level.options
  rw [List.find?_append]
  show ((here.command.options.find? _).or _) = _
  rw [hf, Option.some_or]

/-- **Options with their values lead back to the command.** -/
theorem walk_optionRun {w : Command} {run : List Token} (hrun : OptionRun w run) (here : Level)
    (hw : here.command = w) (depleted : Bool) (rest : List Token) :
    ∃ (after : Level) (depleted' : Bool), after.command = w ∧
      walk roots (.atCommand here depleted false) (run ++ rest) =
        walk roots (.atCommand after depleted' false) rest := by
  induction hrun generalizing here depleted with
  | nil => exact ⟨here, depleted, hw, rfl⟩
  | @option t o values more hc ho hf hargs hlen hvalues _ ih =>
    subst hw
    have hfirst := walk_option roots hc ho (find_gathered_of_own hf) hargs hlen hvalues depleted
      false (more ++ rest)
    let middle :=
      (here.gathered.accept t.text (isPersistentName t.text here.gathered.inForce)).acceptAll values
    obtain ⟨after, depleted', hafter, hmore⟩ := ih middle rfl (!o.args.isEmpty)
    refine ⟨after, depleted', hafter, ?_⟩
    rw [List.cons_append, List.append_assoc, hfirst, hmore]

/-- The first token that is no option names the nested command. -/
theorem walk_wrapper {here : Level} (hw : here.command.IsWrapper) {t : Token}
    (hc : t.complete = true) (ho : t.isOption = false) (depleted positional : Bool)
    (next : Token) (rest : List Token) :
    walk roots (.atCommand here depleted positional) (t :: next :: rest) =
      match roots t.text with
      | some s => s.walk roots (next :: rest)
      | none => .nowhere := by
  have hchild : here.command.child? t.text = none := by
    unfold Command.child?
    rw [hw.children]
    rfl
  obtain ⟨a, hargs, hcommand, hvariadic⟩ := hw.args
  have hstep : Position.step roots (.atCommand here depleted positional) t =
      here.gathered.nested roots t.text := by
    rw [step_atCommand_of_unnamed ⟨ho, hchild⟩ hargs, Level.takeValue, hvariadic,
      if_neg Bool.false_ne_true, if_pos hcommand]
  rw [walk_of_nestedName hc hstep, Level.walkNested]
  have hchild' : here.gathered.command.child? t.text = none := hchild
  cases hroot : roots t.text with
  | some s =>
    simp only [Level.nested, hroot]
    rfl
  | none => simp only [Level.nested, hroot, hchild']

/-- **The walk of a wrapper** is that of the command which its argument names. -/
theorem walk_of_wrapper {w : Command} (hw : w.IsWrapper) {run : List Token}
    (hrun : OptionRun w run) {t : Token} (hc : t.complete = true) (ho : t.isOption = false)
    (next : Token) (rest : List Token) :
    w.walk roots (run ++ t :: next :: rest) =
      match roots t.text with
      | some s => s.walk roots (next :: rest)
      | none => .nowhere := by
  obtain ⟨after, depleted, hafter, hwalk⟩ :=
    walk_optionRun roots hrun { command := w } rfl false (t :: next :: rest)
  subst hafter
  exact hwalk.trans (walk_wrapper roots hw hc ho depleted false next rest)

/-- **Through any number of wrappers** the walk is that of the innermost command. -/
theorem walk_of_wrapped {w c : Command} {ts inner : List Token}
    (h : Wrapped roots w ts c inner) : w.walk roots ts = c.walk roots inner := by
  induction h with
  | inner => rfl
  | outer hw hrun hc ho hs _ ih => rw [walk_of_wrapper roots hw hrun hc ho, hs, ← ih]

/-! ## Offers and lines -/

theorem offer_of_wrapper (reg : Registry) {w : Command} (hw : w.IsWrapper) {run : List Token}
    (hrun : OptionRun w run) {t : Token} (hc : t.complete = true) (ho : t.isOption = false)
    (next : Token) (rest : List Token) :
    w.offer reg.roots (run ++ t :: next :: rest) =
      match reg.lookup t.text with
      | some s => s.offer reg.roots (next :: rest)
      | none => pure {} := by
  unfold Command.offer
  rw [walk_of_wrapper reg.roots.lookup hw hrun hc ho]
  show Stop.offer (match reg.lookup t.text with
    | some s => s.walk reg.roots.lookup (next :: rest)
    | none => .nowhere) reg.roots = _
  cases reg.lookup t.text <;> rfl

/-- One more token in front changes nothing about what a candidate replaces. -/
theorem replacedBy_cons (t first : Token) (rest : List Token) :
    replacedBy (t :: first :: rest) = replacedBy (first :: rest) := by
  unfold replacedBy
  rw [List.getLast?_cons_cons]

/-- The offer for the tokens after the name of a wrapper. -/
theorem offerForTokens_wrapper (reg : Registry) {w : Command} {t first : Token}
    (hc : t.complete = true) (hw : reg.lookup t.text = some w) (hwrapper : w.IsWrapper)
    (hfirst : first.complete = true) (ho : first.isOption = false) (next : Token)
    (rest : List Token) :
    reg.offerForTokens (t :: first :: next :: rest) =
      match reg.lookup first.text with
      | some s => s.offer reg.roots (next :: rest)
      | none => pure {} := by
  simp only [Registry.offerForTokens, hc, if_true, hw]
  exact offer_of_wrapper reg hwrapper .nil hfirst ho next rest

/-- The answers to a line and to the same line after a wrapper differ in nothing that is offered. -/
theorem offerFor_wrapper (reg : Registry) {name line : String} {w : Command}
    (hname : PlainWord name) (hw : reg.lookup name = some w) (hwrapper : w.IsWrapper)
    (hline : DelimiterFree line.toList) {first next : Token} {rest : List Token}
    (htokens : tokens line = first :: next :: rest) (ho : first.isOption = false)
    (context : Context) (memory : Memory) :
    ((reg.offerFor (name ++ " " ++ line)).answer context memory).1 =
      ((reg.offerFor line).answer context memory).1 := by
  obtain ⟨t, ht, hline'⟩ := tokens_word hname hline
  rw [htokens] at hline'
  have hfirst : first.complete = true := complete_of_tokensFrom htokens
  have hlookup : reg.lookup t.text = some w := by rw [ht.text, hw]
  have hwrapped := offerForTokens_wrapper reg ht.complete hlookup hwrapper hfirst ho next rest
  have halone : reg.offerForTokens (first :: next :: rest) =
      match reg.lookup first.text with
      | some s => s.offer reg.roots (next :: rest)
      | none => Query.log (.unknownCommand first.text) >>= fun _ => pure {} :=
    if_pos hfirst
  unfold Registry.offerFor
  simp only [hline', htokens, replacedBy_cons]
  rw [hwrapped, halone]
  cases reg.lookup first.text <;> rfl

/-- **Nested commands are resolved as if the line began with them.** After the options of a wrapper,
each with its values, comes the command that it wraps. If that is registered, what is offered is
what its grammar offers for the tokens after it; if not, nothing is. The same holds through any
number of wrappers, and for whole lines, with the number of characters that a candidate replaces. -/
theorem nested_resolution (reg : Registry) :
    (∀ (w : Command) (run : List Token) (t next : Token) (rest : List Token), w.IsWrapper →
      OptionRun w run → t.complete = true → t.isOption = false →
      w.offer reg.roots (run ++ t :: next :: rest) =
        match reg.lookup t.text with
        | some s => s.offer reg.roots (next :: rest)
        | none => pure {}) ∧
    (∀ (w c : Command) (ts inner : List Token), Wrapped reg.lookup w ts c inner →
      w.offer reg.roots ts = c.offer reg.roots inner) ∧
    ∀ (name line : String) (w : Command) (first next : Token) (rest : List Token),
      PlainWord name → reg.lookup name = some w → w.IsWrapper → DelimiterFree line.toList →
      tokens line = first :: next :: rest → first.isOption = false →
      ∀ (context : Context) (memory : Memory),
        ((reg.offerFor (name ++ " " ++ line)).answer context memory).1 =
          ((reg.offerFor line).answer context memory).1 := by
  refine ⟨fun w run t next rest hw hrun hc ho => offer_of_wrapper reg hw hrun hc ho next rest,
    fun w c ts inner h => ?_,
    fun name line w first next rest hname hw hwrapper hline htokens ho context memory =>
      offerFor_wrapper reg hname hw hwrapper hline htokens ho context memory⟩
  unfold Command.offer
  exact congrArg (Stop.offer · reg.roots) (walk_of_wrapped reg.lookup h)

/-- `sudo` wraps `git`: after its options, through itself, and in a whole line. -/
theorem nested_resolution_superuser :
    let reg := Registry.ofCommands [Shipped.superuser, Shipped.git]
    let quiet : Token := { text := "-E", complete := true, isOption := true, rawLength := 2 }
    let wrapper : Token := { text := "sudo", complete := true, isOption := false, rawLength := 4 }
    let git : Token := { text := "git", complete := true, isOption := false, rawLength := 3 }
    let typed : Token := { text := "st", complete := false, isOption := false, rawLength := 2 }
    Shipped.superuser.offer reg.roots [quiet, git, typed] = Shipped.git.offer reg.roots [typed] ∧
    Shipped.superuser.offer reg.roots [wrapper, quiet, git, typed] =
      Shipped.git.offer reg.roots [typed] ∧
    ∀ context memory, ((reg.offerFor "sudo git st").answer context memory).1 =
      ((reg.offerFor "git st").answer context memory).1 := by
  intro reg quiet wrapper git typed
  have hw : Shipped.superuser.IsWrapper := ⟨rfl, _, rfl, rfl, rfl⟩
  have hrun : OptionRun Shipped.superuser [quiet] :=
    @OptionRun.option _ quiet _ [] [] rfl rfl rfl (fun a ha => absurd ha List.not_mem_nil) rfl
      (fun v hv => absurd hv List.not_mem_nil) .nil
  have hgit : reg.lookup git.text = some Shipped.git := by rfl
  have hself : reg.lookup wrapper.text = some Shipped.superuser := by rfl
  have hwrapped : Wrapped reg.lookup Shipped.superuser [wrapper, quiet, git, typed]
      Shipped.git [typed] :=
    .outer hw .nil rfl rfl hself (.outer hw hrun rfl rfl hgit .inner)
  have hname : PlainWord "sudo" :=
    ⟨by decide, plain_of_all (by rfl), delimiterFree_of_chars (by simp)⟩
  have hfree : DelimiterFree "git st".toList := delimiterFree_of_chars (by simp)
  obtain ⟨hone, hmany, hline⟩ := nested_resolution reg
  refine ⟨(hone _ [quiet] git typed [] hw hrun rfl rfl).trans ?_, hmany _ _ _ _ hwrapped,
    hline "sudo" "git st" _ git typed [] hname hself hw hfree (by rfl) rfl⟩
  rw [hgit]

end TabCompletion
