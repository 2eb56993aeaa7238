import TabCompletion.Grammar.Shipped
import TabCompletion.Proofs.CommandLine
import TabCompletion.Proofs.Offer
import TabCompletion.Proofs.OfferedName
import TabCompletion.Proofs.Walk.Invariants

/-!
# What is offered and what is read

An option or a child that is offered where a walk stops is typed next. Is it read as what it was
offered as? The offer looks at the argument that waits for its value: one that may be left out lets
options and children in. The walk looks at all arguments that are left: only if every one may be
left out an option or a child leads out of them (`Position.isOpen`).

Results:
* `reached_append`: tokens at the end change nothing about the calls before.
* `reached_of_walk`: where a walk stops with no token left, more tokens go on from there.
* **`offered_read`**: at an open position what is offered is read as an option or a child. At
  another it is taken as the value of the argument, or as the name of a nested command.
* `gapped_option_read_as_value`: an optional argument before a required one is such another.
-/

namespace TabCompletion

/-! ## Open positions -/

namespace Position

/-- The level of a position once the next token is read. -/
def gathered : Position → Level
  | .atCommand here _ _ => here.gathered
  | .atArg here _ _ _ _ => here

/-- Whether an option or a child may be read next: at a command, or if every argument that is left
may be left out. -/
def isOpen : Position → Bool
  | .atCommand .. => true
  | .atArg _ a others _ _ => allOptional (a :: others)

end Position

/-! ## Names that are offered -/

/-- What is offered as an option is a name of an option of the position. -/
theorem exists_option_of_candidate {p : Position} {settings : Settings} {typed : Option String}
    {cand : Candidate} (h : cand ∈ p.optionCandidates settings typed) :
    p.offersNodes = true ∧ ∃ o ∈ p.level.options, cand.name ∈ o.names := by
  unfold Position.optionCandidates at h
  split at h
  · rename_i hoffers
    obtain ⟨o, ho, hcand⟩ := List.mem_filterMap.mp h
    exact ⟨hoffers, o, (List.mem_filter.mp ho).1, name_mem_of_offerNode hcand⟩
  · exact absurd h List.not_mem_nil

/-- What is offered as a child is a name of a child of the position. -/
theorem exists_child_of_candidate {p : Position} {settings : Settings} {typed : Option String}
    {cand : Candidate} (h : cand ∈ p.childCandidates settings typed) :
    p.offersNodes = true ∧ ∃ d ∈ p.level.command.children, cand.name ∈ d.names := by
  unfold Position.childCandidates at h
  split at h
  · rename_i hoffers
    obtain ⟨d, hd, hcand⟩ := List.mem_filterMap.mp h
    exact ⟨hoffers, d, (List.mem_filter.mp hd).1, name_mem_of_offerNode hcand⟩
  · exact absurd h List.not_mem_nil

theorem find_isSome_of_mem {name : String} {options : List Opt} {o : Opt} (ho : o ∈ options)
    (hn : name ∈ o.names) : ∃ o', Opt.find? name options = some o' := by
  refine Option.isSome_iff_exists.mp (List.find?_isSome.mpr ⟨o, ho, ?_⟩)
  simpa using hn

theorem child_isSome_of_mem {c d : Command} {name : String} (hd : d ∈ c.children)
    (hn : name ∈ d.names) : ∃ d', c.child? name = some d' := by
  refine Option.isSome_iff_exists.mp (List.find?_isSome.mpr ⟨d, hd, ?_⟩)
  simpa using hn

/-- Gathering takes no option away. -/
theorem mem_gathered_options {p : Position} {o : Opt} (h : o ∈ p.level.options) :
    o ∈ p.gathered.options := by
  cases p with
  | atCommand here depleted positional =>
    rcases List.mem_append.mp h with h | h
    · exact List.mem_append_left _ h
    · exact List.mem_append_right _ (List.mem_append_left _ h)
  | atArg here a others ofOption bound => exact h

/-! ## More tokens at the end -/

/-- A call with more tokens at the end. -/
def Call.append : Call → List Token → Call
  | .command tokens here depleted positional, more =>
    .command (tokens ++ more) here depleted positional
  | .option tokens o here, more => .option (tokens ++ more) o here
  | .args tokens left here ofOption bound, more => .args (tokens ++ more) left here ofOption bound
  | .nested tokens owner inForce, more => .nested (tokens ++ more) owner inForce

@[simp] theorem append_call (p : Position) (tokens more : List Token) :
    (p.call tokens).append more = p.call (tokens ++ more) := by
  cases p <;> rfl

@[simp] theorem tokens_call (p : Position) (tokens : List Token) :
    (p.call tokens).tokens = tokens := by
  cases p <;> rfl

/-- How the tokens after the name of a root command are read. -/
def Command.reads (c : Command) (roots : String → Option Command) (tokens : List Token) :
    List Reading :=
  ((Call.start c tokens).run roots).1

variable {roots : String → Option Command} {c : Command} {tokens more : List Token}
  {rs : List Reading} {call call' : Call} {read : Option Reading}

/-- Where a handler calls one, it does so with more tokens too. -/
theorem calls_append (h : Calls roots call read call') (more : List Token) :
    Calls roots (call.append more) read (call'.append more) := by
  cases h with
  | option hc ho hf => exact .option hc ho hf
  | child hc ho hf => exact .child hc ho hf
  | arguments hc hu ha => exact .arguments hc hu ha
  | flag ha => exact .flag ha
  | optionArguments ha => exact .optionArguments ha
  | exhausted => exact .exhausted
  | escapeOption hc hopt ho hf => exact .escapeOption hc hopt ho hf
  | escapeChild hc hopt ho hf => exact .escapeChild hc hopt ho hf
  | variadic hc hu ha => exact .variadic hc hu ha
  | commandArgument hc hu ha hn => exact .commandArgument hc hu ha hn
  | value hc hu ha hn => exact .value hc hu ha hn
  | root hr => exact .root hr
  | nestedChild hr hf => exact .nestedChild hr hf

/-- **Tokens at the end change nothing about the calls before.** -/
theorem reached_append (h : Reached roots c tokens rs call) (more : List Token) :
    Reached roots c (tokens ++ more) rs (call.append more) := by
  induction h with
  | start => exact .start
  | step _ hn ih =>
    exact ih.step (next_eq_call_iff.mpr (calls_append (next_eq_call_iff.mp hn) more))

/-- The run from a call that is reached is the rest of the whole run. -/
theorem run_of_reached (h : Reached roots c tokens rs call) :
    (Call.start c tokens).run roots = (rs ++ (call.run roots).1, (call.run roots).2) := by
  induction h with
  | start => rfl
  | step _ hn ih => rw [ih, run_of_call hn, List.append_assoc]

theorem reads_of_reached (h : Reached roots c tokens rs call) :
    c.reads roots tokens = rs ++ (call.run roots).1 := by
  unfold Command.reads
  rw [run_of_reached h]

/-- A walk stops with no token left only where the handler at the position has none. -/
theorem eq_call_of_stops {p : Position} (h : Stops roots call (.reached p none)) :
    call = p.call [] := by
  cases h <;> rfl

/-- **Where a walk stops with no token left, more tokens go on from there.** -/
theorem reached_of_walk {p : Position} (h : c.walk roots tokens = .reached p none)
    (more : List Token) :
    ∃ rs, rs.map (·.token) = tokens ∧ Reached roots c (tokens ++ more) rs (p.call more) := by
  obtain ⟨last, hreached, hstop⟩ := exists_reached_stop (@Reached.start roots c tokens)
  have hend : ((Call.start c tokens).run roots).2 = .reached p none := (run_ends _).trans h
  rw [hend] at hstop
  obtain rfl := eq_call_of_stops (stops_of_next hstop)
  have htokens := (invariant_of_reached hreached).tokens_eq
  have happend := reached_append hreached more
  rw [tokens_call, List.append_nil] at htokens
  rw [append_call] at happend
  exact ⟨_, htokens, happend⟩

/-! ## What is offered is read -/

variable {p : Position} {t : Token}

/-- The first call at an open position for a token that names an option. -/
theorem calls_option_of_isOpen {o : Opt} (hopen : p.isOpen = true) (hc : t.complete = true)
    (ho : t.isOption = true) (hf : Opt.find? t.text p.gathered.options = some o) :
    Calls roots (p.call (t :: more)) none (.option (t :: more) o p.gathered) := by
  cases p with
  | atCommand here depleted positional => exact .option hc ho hf
  | atArg here a others ofOption bound => exact .escapeOption hc hopen ho hf

/-- The first call at an open position for a token that names a child. -/
theorem calls_child_of_isOpen {d : Command} (hopen : p.isOpen = true) (hc : t.complete = true)
    (ho : t.isOption = false) (hf : p.gathered.command.child? t.text = some d) :
    Calls roots (p.call (t :: more)) (some (.child t d))
      (.command more
        { p.gathered with command := d, accepted := keptBelow p.gathered.accepted }
        false false) := by
  cases p with
  | atCommand here depleted positional => exact .child hc ho hf
  | atArg here a others ofOption bound => exact .escapeChild hc hopen ho hf

/-- The reading at the place of a token. -/
theorem getElem?_reads {r : Reading} {call' : Call} (hrs : rs.map (·.token) = tokens)
    (h : Reached roots c (tokens ++ more) rs call) (hn : Calls roots call (some r) call') :
    (c.reads roots (tokens ++ more))[tokens.length]? = some r := by
  have hlen : rs.length = tokens.length := by rw [← hrs, List.length_map]
  rw [reads_of_reached h, run_of_call (next_eq_call_iff.mpr hn), ← hlen]
  simp

/-- What is offered as an option at an open position is read as one. -/
theorem offered_option_read {settings : Settings} {typed : Option String} {cand : Candidate}
    (hopen : p.isOpen = true) (hmem : cand ∈ p.optionCandidates settings typed)
    (hname : startsWith cand.name "-" = true) (ht : t.Spells cand.name)
    (hrs : rs.map (·.token) = tokens)
    (h : Reached roots c (tokens ++ t :: more) rs (p.call (t :: more))) :
    ∃ o ∈ p.gathered.options, cand.name ∈ o.names ∧
      Reached roots c (tokens ++ t :: more) rs (.option (t :: more) o p.gathered) ∧
      ∃ persist, (c.reads roots (tokens ++ t :: more))[tokens.length]? =
        some (.option t o persist) := by
  obtain ⟨-, o', ho', hn'⟩ := exists_option_of_candidate hmem
  obtain ⟨o, hf⟩ := find_isSome_of_mem (mem_gathered_options ho') hn'
  obtain ⟨ho, hn⟩ := mem_of_find hf
  have hcall : Calls roots (p.call (t :: more)) none (.option (t :: more) o p.gathered) :=
    calls_option_of_isOpen hopen ht.complete (ht.isOption.trans hname) (ht.text.symm ▸ hf)
  have hreached := h.step (next_eq_call_iff.mpr hcall)
  rw [Option.toList_none, List.append_nil] at hreached
  refine ⟨o, ho, hn, hreached, ?_⟩
  cases ha : o.args with
  | nil => exact ⟨_, getElem?_reads hrs hreached (.flag ha)⟩
  | cons a others => exact ⟨_, getElem?_reads hrs hreached (.optionArguments ha)⟩

/-- What is offered as a child at an open position is read as one. -/
theorem offered_child_read {settings : Settings} {typed : Option String} {cand : Candidate}
    (hopen : p.isOpen = true) (hmem : cand ∈ p.childCandidates settings typed)
    (hname : startsWith cand.name "-" = false) (ht : t.Spells cand.name)
    (hrs : rs.map (·.token) = tokens)
    (h : Reached roots c (tokens ++ t :: more) rs (p.call (t :: more))) :
    ∃ d ∈ p.level.command.children, cand.name ∈ d.names ∧
      Reached roots c (tokens ++ t :: more) (rs ++ [.child t d])
        (.command more
          { p.gathered with command := d, accepted := keptBelow p.gathered.accepted }
          false false) ∧
      (c.reads roots (tokens ++ t :: more))[tokens.length]? = some (.child t d) := by
  obtain ⟨-, d', hd', hn'⟩ := exists_child_of_candidate hmem
  obtain ⟨d, hf⟩ := child_isSome_of_mem hd' hn'
  have hn : cand.name ∈ d.names := by simpa using List.find?_some hf
  have hgathered : p.gathered.command = p.level.command := by cases p <;> rfl
  rw [← hgathered, ← ht.text] at hf
  have hcall : Calls roots (p.call (t :: more)) (some (.child t d)) _ :=
    calls_child_of_isOpen hopen ht.complete (ht.isOption.trans hname) hf
  rw [← hgathered]
  exact ⟨d, mem_of_child hf, hn, h.step (next_eq_call_iff.mpr hcall),
    getElem?_reads hrs h hcall⟩

/-- Where a required argument is left, the next token is taken by the first argument: as its value,
or as the name of a nested command. -/
theorem token_read_as_value (hclosed : p.isOpen = false) (hc : t.complete = true)
    (hrs : rs.map (·.token) = tokens)
    (h : Reached roots c (tokens ++ t :: more) rs (p.call (t :: more))) :
    ∃ here a others ofOption bound, p = .atArg here a others ofOption bound ∧
      if a.command && !a.variadic then
        Reached roots c (tokens ++ t :: more) rs (.nested (t :: more) here.command here.inForce)
      else (c.reads roots (tokens ++ t :: more))[tokens.length]? = some (.value t a) := by
  cases p with
  | atCommand here depleted positional => cases hclosed
  | atArg here a others ofOption bound =>
    refine ⟨here, a, others, ofOption, bound, rfl, ?_⟩
    have hu : allOptional (a :: others) = true → here.command.Unnamed t := fun hopen =>
      absurd (hopen.symm.trans hclosed) (by simp)
    cases hv : a.variadic with
    | true =>
      rw [Bool.not_true, Bool.and_false, if_neg Bool.false_ne_true]
      exact getElem?_reads hrs h (.variadic hc hu hv)
    | false =>
      cases hn : a.command with
      | true =>
        have hreached := h.step (next_eq_call_iff.mpr (.commandArgument hc hu hv hn))
        rw [Option.toList_none, List.append_nil] at hreached
        exact hreached
      | false => exact getElem?_reads hrs h (.value hc hu hv hn)

/-- **What is offered is read as what it was offered as**, wherever an option or a child may be read
next: at a command, and at arguments of which every one that is left may be left out. Whatever
follows, an option is read as an option with that name and a child is entered. Where a required
argument is left, the token is taken by the argument that waits for its value. -/
theorem offered_read (roots : String → Option Command) (c : Command) {tokens : List Token}
    {p : Position} (h : c.walk roots tokens = .reached p none) (settings : Settings)
    (typed : Option String) (cand : Candidate) {t : Token} (ht : t.Spells cand.name)
    (more : List Token) :
    ∃ rs, rs.map (·.token) = tokens ∧
      (p.isOpen = true → cand ∈ p.optionCandidates settings typed →
        startsWith cand.name "-" = true →
        ∃ o ∈ p.gathered.options, cand.name ∈ o.names ∧
          Reached roots c (tokens ++ t :: more) rs (.option (t :: more) o p.gathered) ∧
          ∃ persist, (c.reads roots (tokens ++ t :: more))[tokens.length]? =
            some (.option t o persist)) ∧
      (p.isOpen = true → cand ∈ p.childCandidates settings typed →
        startsWith cand.name "-" = false →
        ∃ d ∈ p.level.command.children, cand.name ∈ d.names ∧
          Reached roots c (tokens ++ t :: more) (rs ++ [.child t d])
            (.command more
              { p.gathered with command := d, accepted := keptBelow p.gathered.accepted }
              false false) ∧
          (c.reads roots (tokens ++ t :: more))[tokens.length]? = some (.child t d)) ∧
      (p.isOpen = false →
        ∃ here a others ofOption bound, p = .atArg here a others ofOption bound ∧
          if a.command && !a.variadic then
            Reached roots c (tokens ++ t :: more) rs
              (.nested (t :: more) here.command here.inForce)
          else (c.reads roots (tokens ++ t :: more))[tokens.length]? = some (.value t a)) := by
  obtain ⟨rs, hrs, hreached⟩ := reached_of_walk h (t :: more)
  refine ⟨rs, hrs, fun hopen hmem hname => ?_, fun hopen hmem hname => ?_, fun hclosed => ?_⟩
  · exact offered_option_read hopen hmem hname ht hrs hreached
  · exact offered_child_read hopen hmem hname ht hrs hreached
  · exact token_read_as_value hclosed ht.complete hrs hreached

/-- After `ls --color` the option `-l` is offered, though a value may follow, and read. -/
theorem offered_read_ls :
    let roots : String → Option Command := fun _ => none
    let color : Token := { text := "--color", complete := true, isOption := true, rawLength := 7 }
    let long : Token := { text := "-l", complete := true, isOption := true, rawLength := 2 }
    ∃ p cand, Shipped.ls.walk roots [color] = .reached p none ∧ p.isOpen = true ∧
      cand ∈ p.optionCandidates {} none ∧ long.Spells cand.name ∧
      ∃ o persist, (Shipped.ls.reads roots [color, long])[1]? = some (.option long o persist) := by
  intro roots color long
  let p : Position := .atArg
    { command := Shipped.ls, accepted := [{ text := "--color" }] }
    { name := "when", optional := true, values := Shipped.values ["always", "auto", "never"] }
    [] true false
  let cand : Candidate :=
    { name := "-l", kind := .option, description := .text "Use a long listing format" }
  have hw : Shipped.ls.walk roots [color] = .reached p none := by rfl
  have ht : long.Spells cand.name := ⟨rfl, rfl, by decide⟩
  have hmem : cand ∈ p.optionCandidates {} none := by decide
  obtain ⟨rs, -, hoption, -⟩ := offered_read roots Shipped.ls hw {} none cand ht []
  obtain ⟨o, -, -, -, persist, hread⟩ := hoption rfl hmem (by decide)
  exact ⟨p, cand, hw, rfl, hmem, ht, o, persist, hread⟩

/-- A command with optional arguments before a required one. -/
def gapped : Command where
  names := ["copy"]
  options := [{ names := ["--force"] }, { names := ["--quiet"] }]
  args := [{ name := "host", optional := true }, { name := "port", optional := true },
    { name := "file" }]

/-- After `copy server` the option `--force` is offered, and read as the value of the argument. -/
theorem gapped_option_read_as_value :
    let roots : String → Option Command := fun _ => none
    let server : Token := { text := "server", complete := true, isOption := false, rawLength := 6 }
    let force : Token := { text := "--force", complete := true, isOption := true, rawLength := 7 }
    ∃ p cand a, gapped.walk roots [server] = .reached p none ∧
      cand ∈ p.optionCandidates {} none ∧ startsWith cand.name "-" = true ∧
      force.Spells cand.name ∧
      (gapped.reads roots ([server] ++ [force]))[1]? = some (.value force a) := by
  intro roots server force
  let port : Arg := { name := "port", optional := true }
  let p : Position :=
    .atArg { command := gapped, accepted := [{ text := "server" }] } port [{ name := "file" }]
      false false
  let cand : Candidate := { name := "--force", kind := .option, description := .text "" }
  have hw : gapped.walk roots [server] = .reached p none := by rfl
  have hmem : cand ∈ p.optionCandidates {} none := by decide
  have hname : startsWith cand.name "-" = true := by decide
  obtain ⟨rs, hrs, hreached⟩ := reached_of_walk hw [force]
  have hu : allOptional (port :: [{ name := "file" }]) = true → gapped.Unnamed force := nofun
  have hread := getElem?_reads hrs hreached (.value rfl hu rfl rfl)
  exact ⟨p, cand, port, hw, hmem, hname, ⟨rfl, rfl, by decide⟩, hread⟩

end TabCompletion
