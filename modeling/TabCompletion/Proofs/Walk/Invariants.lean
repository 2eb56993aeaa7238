import Mathlib.Data.List.Chain
import Mathlib.Data.List.DropRight
import TabCompletion.Proofs.Persistence
import TabCompletion.Proofs.Walk.Handlers
import TabCompletion.Grammar.Shipped

/-!
# What holds at every call of the walk

The state of the walk is what was read so far and the handler that is called with what is left
(`Reached`). What was read decides the rest: the path of commands that were entered since the root
(`pathAfter`), and the accepted tokens (`acceptedAfter`).

Results:
* `tokens_eq_step`, `args_step`, `option_step`, `path_step`, `accepted_step`: what one call
  preserves.
* `invariant_of_reached`: `Call.Invariant` at every call that is reached, by induction on the calls.
* `exists_reached_stop`: a run ends in a call that is reached.
* **`walk_invariants`**: the invariant and what follows from it, for the walk of a command.

A nested command that is a root command starts a new path, with nothing in force and nothing
accepted. One that is a child goes on along the path, and only the accepted tokens are dropped.
-/

namespace TabCompletion

/-! ## What was read -/

namespace Reading

/-- Whether a command was entered. -/
def descends : Reading → Bool
  | .child .. | .root .. | .nestedChild .. => true
  | .option .. | .value .. => false

/-- Whether a nested command was entered, which nothing is accepted for. -/
def restarts : Reading → Bool
  | .root .. | .nestedChild .. => true
  | .option .. | .value .. | .child .. => false

/-- Whether a root command was entered. -/
def isRoot : Reading → Bool
  | .root .. => true
  | .option .. | .value .. | .child .. | .nestedChild .. => false

/-- What an option or a value is accepted as. -/
def used? : Reading → Option Accepted
  | .option t _ persist => some { text := t.text, persist }
  | .value t _ => some { text := t.text }
  | .child .. | .root .. | .nestedChild .. => none

/-- The path of commands after one more reading. -/
def extend (path : List Command) : Reading → List Command
  | .child _ d | .nestedChild _ d => path ++ [d]
  | .root _ d => [d]
  | .option .. | .value .. => path

theorem text_of_used {r : Reading} {a : Accepted} (h : r.used? = some a) :
    a.text = r.token.text := by
  cases r with
  | option t o persist =>
    cases h
    rfl
  | value t a =>
    cases h
    rfl
  | _ => cases h

end Reading

/-- The readings after the last one of a kind. -/
def since (p : Reading → Bool) (rs : List Reading) : List Reading := rs.rtakeWhile fun r => !p r

/-- The readings up to the last one of a kind. -/
def upTo (p : Reading → Bool) (rs : List Reading) : List Reading := rs.rdropWhile fun r => !p r

/-- What the options and values of some readings are accepted as. -/
def used (rs : List Reading) : List Accepted := rs.filterMap Reading.used?

/-- The commands on the path after some readings, the root first. -/
def pathAfter (c : Command) (rs : List Reading) : List Command := rs.foldl Reading.extend [c]

/-- The accepted tokens after some readings: all options and values since a command was entered,
and before them the persistent ones since a nested command was entered. -/
def acceptedAfter (rs : List Reading) : List Accepted :=
  keptBelow (used (since Reading.restarts (upTo Reading.descends rs))) ++
    used (since Reading.descends rs)

section Concat

variable {p q : Reading → Bool} {rs : List Reading} {r : Reading}

theorem since_concat_of_true (h : p r = true) : since p (rs ++ [r]) = [] := by
  unfold since
  rw [List.rtakeWhile_concat_neg _ _ r (by simp [h])]

theorem since_concat_of_false (h : p r = false) : since p (rs ++ [r]) = since p rs ++ [r] := by
  unfold since
  rw [List.rtakeWhile_concat_pos _ _ r (by simp [h])]

theorem upTo_concat_of_true (h : p r = true) : upTo p (rs ++ [r]) = rs ++ [r] := by
  unfold upTo
  rw [List.rdropWhile_concat_neg _ _ r (by simp [h])]

theorem upTo_concat_of_false (h : p r = false) : upTo p (rs ++ [r]) = upTo p rs := by
  unfold upTo
  rw [List.rdropWhile_concat_pos _ _ r (by simp [h])]

/-- Of two kinds, one part of the other, the last reading of the larger kind comes later. -/
theorem since_eq_append (h : ∀ r, p r = true → q r = true) (rs : List Reading) :
    since p rs = since p (upTo q rs) ++ since q rs := by
  induction rs using List.reverseRecOn with
  | nil => rfl
  | append_singleton rs r ih =>
    cases hq : q r with
    | true => rw [upTo_concat_of_true hq, since_concat_of_true hq, List.append_nil]
    | false =>
      have hp : p r = false := by
        cases hp : p r with
        | true => exact absurd (h r hp) (by simp [hq])
        | false => rfl
      rw [upTo_concat_of_false hq, since_concat_of_false hq, since_concat_of_false hp, ih,
        List.append_assoc]

theorem used_append (rs rs' : List Reading) : used (rs ++ rs') = used rs ++ used rs' := by
  unfold used
  exact List.filterMap_append

theorem used_concat_of_none (h : r.used? = none) : used (rs ++ [r]) = used rs := by
  rw [used_append]
  simp [used, h]

theorem used_concat_of_some {a : Accepted} (h : r.used? = some a) :
    used (rs ++ [r]) = used rs ++ [a] := by
  rw [used_append]
  simp [used, h]

@[simp] theorem pathAfter_concat (c : Command) (rs : List Reading) (r : Reading) :
    pathAfter c (rs ++ [r]) = r.extend (pathAfter c rs) := by
  unfold pathAfter
  rw [List.foldl_append, List.foldl_cons, List.foldl_nil]

/-! ## What is accepted, reading by reading -/

theorem descends_of_restarts (r : Reading) (h : r.restarts = true) : r.descends = true := by
  cases r <;> first | rfl | cases h

theorem descends_of_used {a : Accepted} (h : r.used? = some a) : r.descends = false := by
  cases r <;> first | rfl | cases h

theorem keptBelow_append (a b : List Accepted) :
    keptBelow (a ++ b) = keptBelow a ++ keptBelow b := by
  unfold keptBelow
  exact List.filter_append a b

theorem keptBelow_self (a : List Accepted) : keptBelow (keptBelow a) = keptBelow a := by
  unfold keptBelow
  rw [List.filter_filter]
  simp only [Bool.and_self]

/-- An option or a value is accepted. -/
theorem acceptedAfter_used {a : Accepted} (h : r.used? = some a) :
    acceptedAfter (rs ++ [r]) = acceptedAfter rs ++ [a] := by
  have hd : r.descends = false := descends_of_used h
  unfold acceptedAfter
  rw [upTo_concat_of_false hd, since_concat_of_false hd, used_concat_of_some h, List.append_assoc]

/-- Where a nested command is entered, nothing is accepted. -/
theorem acceptedAfter_restart (h : r.restarts = true) : acceptedAfter (rs ++ [r]) = [] := by
  have hd : r.descends = true := descends_of_restarts r h
  unfold acceptedAfter
  rw [upTo_concat_of_true hd, since_concat_of_true hd, since_concat_of_true h]
  rfl

/-- Where a child is entered, the persistent tokens are kept. -/
theorem acceptedAfter_child (t : Token) (d : Command) :
    acceptedAfter (rs ++ [.child t d]) = keptBelow (acceptedAfter rs) := by
  have hd : (Reading.child t d).descends = true := rfl
  have hr : (Reading.child t d).restarts = false := rfl
  unfold acceptedAfter
  rw [upTo_concat_of_true hd, since_concat_of_true hd, since_concat_of_false hr,
    used_concat_of_none rfl, since_eq_append descends_of_restarts rs, used_append,
    keptBelow_append, keptBelow_append, keptBelow_self]
  exact List.append_nil _

/-- What is accepted was read since the root was entered, in that order. -/
theorem acceptedAfter_sublist (rs : List Reading) :
    ((acceptedAfter rs).map (·.text)).Sublist ((since Reading.isRoot rs).map (·.token.text)) := by
  have h_used : ∀ (rs : List Reading) (r : Reading) (a : Accepted), r.used? = some a →
      r.isRoot = false →
      ((acceptedAfter rs).map (·.text)).Sublist ((since Reading.isRoot rs).map (·.token.text)) →
      ((acceptedAfter (rs ++ [r])).map (·.text)).Sublist
        ((since Reading.isRoot (rs ++ [r])).map (·.token.text)) := by
    intro rs r a ha hr ih
    rw [acceptedAfter_used ha, since_concat_of_false hr, List.map_append, List.map_append]
    refine ih.append ?_
    rw [List.map_singleton, List.map_singleton, Reading.text_of_used ha]
  induction rs using List.reverseRecOn with
  | nil => exact List.Sublist.refl _
  | append_singleton rs r ih =>
    cases r with
    | option t o persist => exact h_used rs _ _ rfl rfl ih
    | value t a => exact h_used rs _ _ rfl rfl ih
    | child t d =>
      have hr : (Reading.child t d).isRoot = false := rfl
      rw [acceptedAfter_child, since_concat_of_false hr, List.map_append]
      have hkept : (keptBelow (acceptedAfter rs)).Sublist (acceptedAfter rs) := List.filter_sublist
      exact ((hkept.map _).trans ih).trans (List.sublist_append_left _ _)
    | root t d =>
      rw [acceptedAfter_restart rfl]
      exact List.nil_sublist _
    | nestedChild t d =>
      rw [acceptedAfter_restart rfl]
      exact List.nil_sublist _

/-- What is accepted was read since a command was entered, or is persistent. -/
theorem mem_acceptedAfter {a : Accepted} (h : a ∈ acceptedAfter rs) :
    a ∈ used (since Reading.descends rs) ∨ a.persist = true := by
  rcases List.mem_append.mp h with h | h
  · exact .inr (List.mem_filter.mp h).2
  · exact .inl h

end Concat

/-! ## The invariant -/

namespace Call

/-- The command a handler is at. -/
def owner : Call → Command
  | .command _ here _ _ | .option _ _ here | .args _ _ here _ _ => here.command
  | .nested _ owner _ => owner

/-- The tokens a handler has accepted; the one at a nested command is given none. -/
def accepted? : Call → Option (List Accepted)
  | .command _ here _ _ | .option _ _ here | .args _ _ here _ _ => some here.accepted
  | .nested .. => none

/-- The arguments are the last ones of the command, or of an option that may be typed here. -/
def ArgsInPlace : Call → Prop
  | .args _ left here false _ => left <:+ here.command.args
  | .args _ left here true _ => ∃ o ∈ here.options, left <:+ o.args
  | .command .. | .option .. | .nested .. => True

/-- An option that may be typed here is read from a token that is one of its names. -/
def OptionNamed : Call → Prop
  | .option tokens o here => o ∈ here.options ∧ ∃ t rest, tokens = t :: rest ∧ t.text ∈ o.names
  | .command .. | .args .. | .nested .. => True

/-- What is in force was gathered along the path. At a command, its own options may be missing. -/
def Gathered (above : List Command) : Call → Prop
  | .command _ here _ _ =>
    here.inForce = inForceAlong above ∨ here.inForce = inForceAlong (above ++ [here.command])
  | .option _ _ here | .args _ _ here _ _ => here.inForce = inForceAlong (above ++ [here.command])
  | .nested _ owner inForce => inForce = inForceAlong (above ++ [owner])

/-- **The invariant** of the calls of the walk of `c` over `tokens`, after the readings `rs`. -/
structure Invariant (roots : String → Option Command) (c : Command) (tokens : List Token)
    (rs : List Reading) (call : Call) : Prop where
  tokens_eq : rs.map (·.token) ++ call.tokens = tokens
  args : call.ArgsInPlace
  option : call.OptionNamed
  /-- The path starts at `c` or at a root command and goes from child to child. -/
  path : ∃ root, (root = c ∨ ∃ name, roots name = some root) ∧ (pathAfter c rs).head? = some root
  chain : (pathAfter c rs).IsChain fun d e => e ∈ d.children
  gathered : ∃ above, pathAfter c rs = above ++ [call.owner] ∧ call.Gathered above
  accepted : ∀ a, call.accepted? = some a → a = acceptedAfter rs

end Call

/-- The calls that the walk of `c` over `tokens` gets to, each with what was read until then. -/
inductive Reached (roots : String → Option Command) (c : Command) (tokens : List Token) :
    List Reading → Call → Prop
  | start : Reached roots c tokens [] (Call.start c tokens)
  | step {rs call read call'} (h : Reached roots c tokens rs call)
      (hn : call.next roots = .call read call') : Reached roots c tokens (rs ++ read.toList) call'

variable {roots : String → Option Command} {c : Command} {tokens : List Token}
  {rs : List Reading} {call call' : Call} {read : Option Reading}

/-! ## What one call preserves -/

/-- A token is either left or read. -/
theorem tokens_eq_step (h : Calls roots call read call') :
    (read.toList.map (·.token)) ++ call'.tokens = call.tokens := by
  cases h <;> rfl

theorem mem_of_find {name : String} {options : List Opt} {o : Opt}
    (h : Opt.find? name options = some o) : o ∈ options ∧ name ∈ o.names :=
  ⟨List.mem_of_find?_eq_some h, by simpa using List.find?_some h⟩

theorem mem_of_child {d e : Command} {name : String} (h : d.child? name = some e) :
    e ∈ d.children :=
  List.mem_of_find?_eq_some h

/-- Arguments are used up from the front. -/
theorem args_step (h : Calls roots call read call') (ha : call.ArgsInPlace)
    (ho : call.OptionNamed) : call'.ArgsInPlace := by
  cases h with
  | arguments hc hu hargs =>
    unfold Call.ArgsInPlace
    exact hargs ▸ List.suffix_refl _
  | @optionArguments t rest o here a others hargs =>
    exact ⟨o, ho.1, hargs ▸ List.suffix_refl _⟩
  | @variadic t rest a others here ofOption bound => cases ofOption <;> exact ha
  | @value t rest a others here ofOption bound =>
    have hs : others <:+ a :: others := List.suffix_cons a others
    cases ofOption with
    | false => exact hs.trans ha
    | true =>
      obtain ⟨o, ho, hleft⟩ := ha
      exact ⟨o, ho, hs.trans hleft⟩
  | _ => trivial

/-- An option is read only where the next token names it. -/
theorem option_step (h : Calls roots call read call') : call'.OptionNamed := by
  cases h with
  | option hc ho hf =>
    obtain ⟨hmem, hname⟩ := mem_of_find hf
    exact ⟨hmem, _, _, rfl, hname⟩
  | escapeOption hc hopt ho hf =>
    obtain ⟨hmem, hname⟩ := mem_of_find hf
    exact ⟨hmem, _, _, rfl, hname⟩
  | _ => trivial

/-- A command that is entered is a child of the last one on the path, or a root command. -/
theorem path_step {above : List Command} (h : Calls roots call read call')
    (hp : pathAfter c rs = above ++ [call.owner]) :
    pathAfter c (rs ++ read.toList) = pathAfter c rs ∧ call'.owner = call.owner ∨
    (∃ d ∈ call.owner.children, pathAfter c (rs ++ read.toList) = pathAfter c rs ++ [d] ∧
      call'.owner = d) ∨
    ∃ d name, roots name = some d ∧ pathAfter c (rs ++ read.toList) = [d] ∧ call'.owner = d := by
  cases h with
  | child hc ho hf => exact .inr (.inl ⟨_, mem_of_child hf, pathAfter_concat _ _ _, rfl⟩)
  | escapeChild hc hopt ho hf => exact .inr (.inl ⟨_, mem_of_child hf, pathAfter_concat _ _ _, rfl⟩)
  | root hr => exact .inr (.inr ⟨_, _, hr, pathAfter_concat _ _ _, rfl⟩)
  | nestedChild hr hf => exact .inr (.inl ⟨_, mem_of_child hf, pathAfter_concat _ _ _, rfl⟩)
  | option | arguments | exhausted | escapeOption | commandArgument =>
    refine .inl ⟨?_, rfl⟩
    rw [Option.toList_none, List.append_nil]
  | flag | optionArguments | variadic | value => exact .inl ⟨pathAfter_concat _ _ _, rfl⟩

/-- Gathering at a command is the last step along its path, also where it was done before. -/
theorem inForce_gathered {here : Level} {above : List Command}
    (h : here.inForce = inForceAlong above ∨
      here.inForce = inForceAlong (above ++ [here.command])) :
    here.gathered.inForce = inForceAlong (above ++ [here.command]) := by
  unfold Level.gathered
  rcases h with h | h
  · rw [h, inForceAlong_concat]
  · rw [h, mergePersistent_inForceAlong]

/-- What is in force follows the path. -/
theorem gathered_step (h : Calls roots call read call')
    (hg : ∃ above, pathAfter c rs = above ++ [call.owner] ∧ call.Gathered above) :
    ∃ above, pathAfter c (rs ++ read.toList) = above ++ [call'.owner] ∧ call'.Gathered above := by
  obtain ⟨above, hp, hg⟩ := hg
  cases h with
  | option hc ho hf =>
    refine ⟨above, ?_, inForce_gathered hg⟩
    rw [Option.toList_none, List.append_nil, hp]
    rfl
  | arguments hc hu hargs =>
    refine ⟨above, ?_, inForce_gathered hg⟩
    rw [Option.toList_none, List.append_nil, hp]
    rfl
  | child hc ho hf =>
    refine ⟨pathAfter c rs, pathAfter_concat _ _ _, .inl ?_⟩
    rw [hp]
    exact inForce_gathered hg
  | escapeChild hc hopt ho hf =>
    refine ⟨pathAfter c rs, pathAfter_concat _ _ _, .inl ?_⟩
    rw [hp]
    exact hg
  | flag ha => exact ⟨above, (pathAfter_concat _ _ _).trans hp, .inr hg⟩
  | exhausted =>
    refine ⟨above, ?_, .inr hg⟩
    rw [Option.toList_none, List.append_nil, hp]
    rfl
  | escapeOption | commandArgument =>
    refine ⟨above, ?_, hg⟩
    rw [Option.toList_none, List.append_nil, hp]
    rfl
  | optionArguments | variadic | value => exact ⟨above, (pathAfter_concat _ _ _).trans hp, hg⟩
  | root hr => exact ⟨[], pathAfter_concat _ _ _, .inl rfl⟩
  | nestedChild hr hf =>
    refine ⟨pathAfter c rs, pathAfter_concat _ _ _, .inl ?_⟩
    rw [hp]
    exact hg

/-- What is accepted follows from what was read. -/
theorem accepted_step (h : Calls roots call read call')
    (ha : ∀ a, call.accepted? = some a → a = acceptedAfter rs) (a : List Accepted)
    (ha' : call'.accepted? = some a) : a = acceptedAfter (rs ++ read.toList) := by
  cases h with
  | flag | optionArguments | variadic | value =>
    cases ha'
    rw [Option.toList_some, acceptedAfter_used rfl, ← ha _ rfl]
    rfl
  | child | escapeChild =>
    cases ha'
    rw [Option.toList_some, acceptedAfter_child, ← ha _ rfl]
  | root | nestedChild =>
    cases ha'
    exact (acceptedAfter_restart rfl).symm
  | option | arguments | exhausted | escapeOption =>
    cases ha'
    rw [Option.toList_none, List.append_nil]
    exact ha _ rfl
  | commandArgument => cases ha'

/-! ## What a whole run preserves -/

theorem invariant_start : Call.Invariant roots c tokens [] (Call.start c tokens) where
  tokens_eq := rfl
  args := trivial
  option := trivial
  path := ⟨c, .inl rfl, rfl⟩
  chain := List.isChain_singleton c
  gathered := ⟨[], rfl, .inl rfl⟩
  accepted := fun _ ha => (Option.some.inj ha).symm

theorem invariant_step (hi : Call.Invariant roots c tokens rs call)
    (h : Calls roots call read call') :
    Call.Invariant roots c tokens (rs ++ read.toList) call' := by
  obtain ⟨above, hp, -⟩ := hi.gathered
  obtain ⟨root, hroot, hhead⟩ := hi.path
  refine ⟨?_, args_step h hi.args hi.option, option_step h, ?_, ?_, gathered_step h hi.gathered,
    accepted_step h hi.accepted⟩
  · rw [List.map_append, List.append_assoc, tokens_eq_step h, hi.tokens_eq]
  · rcases path_step h hp with ⟨hsame, -⟩ | ⟨d, -, hlonger, -⟩ | ⟨d, name, hd, hnew, -⟩
    · exact ⟨root, hroot, hsame ▸ hhead⟩
    · refine ⟨root, hroot, ?_⟩
      rw [hlonger, List.head?_append, hhead, Option.some_or]
    · refine ⟨d, .inr ⟨name, hd⟩, ?_⟩
      rw [hnew, List.head?_cons]
  · rcases path_step h hp with ⟨hsame, -⟩ | ⟨d, hd, hlonger, -⟩ | ⟨d, name, hd, hnew, -⟩
    · rw [hsame]
      exact hi.chain
    · rw [hlonger]
      refine hi.chain.append (List.isChain_singleton d) fun x hx y hy => ?_
      rw [hp, List.getLast?_append, List.getLast?_singleton, Option.some_or] at hx
      rw [List.head?_cons] at hy
      cases hx
      cases hy
      exact hd
    · rw [hnew]
      exact List.isChain_singleton d

/-- **The invariant holds at every call.** -/
theorem invariant_of_reached (h : Reached roots c tokens rs call) :
    Call.Invariant roots c tokens rs call := by
  induction h with
  | start => exact invariant_start
  | step _ hn ih => exact invariant_step ih (calls_of_next hn)

/-- A run from a call that is reached ends in a call that is reached. -/
theorem exists_reached_stop (h : Reached roots c tokens rs call) :
    ∃ last, Reached roots c tokens (rs ++ (call.run roots).1) last ∧
      last.next roots = .stop (call.run roots).2 := by
  induction hn : call.size using Nat.strongRecOn generalizing rs call with
  | ind n ih =>
    subst hn
    cases hnext : call.next roots with
    | stop s =>
      rw [run_of_stop hnext, List.append_nil]
      exact ⟨call, h, hnext⟩
    | call read call' =>
      rw [run_of_call hnext, ← List.append_assoc]
      exact ih call'.size (size_next hnext) (h.step hnext) rfl

/-- An option is never to be read where no token is left. -/
theorem next_ne_noToken (h : call.OptionNamed) : call.next roots ≠ .stop .noToken := by
  intro hn
  cases stops_of_next hn with
  | noToken =>
    obtain ⟨-, t, rest, htokens, -⟩ := h
    cases htokens

/-- **What holds throughout the walk of a command**, whatever the grammars and the tokens: at every
call the invariant, what is left is an end of the tokens, and what is accepted is in the order of
the tokens, with all that was read since a command was entered and only persistent ones from before.
The calls end where the walk does, and no option is read without a token. -/
theorem walk_invariants (roots : String → Option Command) (c : Command) (tokens : List Token) :
    (∀ rs call, Reached roots c tokens rs call →
      call.Invariant roots c tokens rs ∧ call.tokens <:+ tokens ∧
      ∀ accepted, call.accepted? = some accepted →
        (accepted.map (·.text)).Sublist ((since Reading.isRoot rs).map (·.token.text)) ∧
        used (since Reading.descends rs) <:+ accepted ∧
        ∀ a ∈ accepted, a ∈ used (since Reading.descends rs) ∨ a.persist = true) ∧
    (∃ last, Reached roots c tokens ((Call.start c tokens).run roots).1 last ∧
      last.next roots = .stop (c.walk roots tokens)) ∧
    c.walk roots tokens ≠ .noToken := by
  obtain ⟨last, hreached, hstop⟩ :=
    exists_reached_stop (@Reached.start roots c tokens)
  have hwalk : ((Call.start c tokens).run roots).2 = c.walk roots tokens := run_ends _
  rw [hwalk] at hstop
  refine ⟨fun rs call h => ?_, ⟨last, hreached, hstop⟩, fun hno => ?_⟩
  · have hi := invariant_of_reached h
    refine ⟨hi, ⟨_, hi.tokens_eq⟩, fun accepted ha => ?_⟩
    obtain rfl := hi.accepted accepted ha
    exact ⟨acceptedAfter_sublist rs, List.suffix_append _ _, fun a => mem_acceptedAfter⟩
  · rw [hno] at hstop
    exact next_ne_noToken (invariant_of_reached hreached).option hstop

/-- In `sudo -E git status` the call after `git` is that of a root command. -/
theorem walk_invariants_superuser :
    let roots := fun name => if name = "git" then some Shipped.git else none
    let status : Token := { text := "status", complete := true, isOption := false, rawLength := 6 }
    let tokens : List Token := [
      { text := "-E", complete := true, isOption := true, rawLength := 2 },
      { text := "git", complete := true, isOption := false, rawLength := 3 }, status]
    let call := Call.command [status] { command := Shipped.git } false false
    ∃ rs, Reached roots Shipped.superuser tokens rs call ∧ rs.length = 2 ∧
      call.Invariant roots Shipped.superuser tokens rs ∧ call.tokens <:+ tokens := by
  intro roots status tokens call
  have h_start := @Reached.start roots Shipped.superuser tokens
  have h_option := h_start.step (by rfl)
  have h_command := h_option.step (by rfl)
  have h_args := h_command.step (by rfl)
  have h_nested := h_args.step (by rfl)
  have h_root : Reached roots Shipped.superuser tokens _ call := h_nested.step (by rfl)
  obtain ⟨hi, hs, -⟩ := (walk_invariants roots Shipped.superuser tokens).1 _ _ h_root
  exact ⟨_, h_root, rfl, hi, hs⟩

end TabCompletion
