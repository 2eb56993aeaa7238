import TabCompletion.Proofs.Shape
import TabCompletion.Proofs.Walk.Agreement

/-!
# Only the shape of a grammar decides how a line is read

Two walks over grammars of one shape go side by side: a handler in one calls the handler that its
partner calls in the other, with the same tokens left, the same tokens accepted and the same flags,
at partner nodes. So the walks end together, either both at no position or at partner positions.

Results:
* `gathered_sameShape`, `leave_sameShape`, `useValue_sameShape`: the parts of a call.
* `next_sameShape`: one call of a handler.
* `run_sameShape`: all calls, by induction on what decreases from call to call.
* **`shape_decides`**: the walks of whole lines (`SameWalk`); what is hidden decides nothing.
-/

namespace TabCompletion

/-! ## Partners -/

/-- Levels at partner commands, with partners in force and the same tokens accepted. -/
structure Level.SameShape (here there : Level) : Prop where
  command : here.command.SameShape there.command
  inForce : List.Forall₂ Opt.SameShape here.inForce there.inForce
  accepted : here.accepted = there.accepted

/-- Calls of one handler at partner nodes, with the same tokens left and the same flags. -/
inductive Call.SameShape : Call → Call → Prop
  | command {tokens here there depleted positional} (h : Level.SameShape here there) :
      SameShape (.command tokens here depleted positional)
        (.command tokens there depleted positional)
  | option {tokens o p here there} (ho : Opt.SameShape o p) (h : Level.SameShape here there) :
      SameShape (.option tokens o here) (.option tokens p there)
  | args {tokens left left' here there ofOption bound}
      (hl : List.Forall₂ Arg.SameShape left left') (h : Level.SameShape here there) :
      SameShape (.args tokens left here ofOption bound) (.args tokens left' there ofOption bound)
  | nested {tokens owner owner' inForce inForce'} (h : Command.SameShape owner owner')
      (hf : List.Forall₂ Opt.SameShape inForce inForce') :
      SameShape (.nested tokens owner inForce) (.nested tokens owner' inForce')

/-- A token that is read as partner nodes. -/
inductive Reading.SameShape : Reading → Reading → Prop
  | option {t o p persist} (h : Opt.SameShape o p) :
      SameShape (.option t o persist) (.option t p persist)
  | value {t a b} (h : Arg.SameShape a b) : SameShape (.value t a) (.value t b)
  | child {t c d} (h : Command.SameShape c d) : SameShape (.child t c) (.child t d)
  | root {t c d} (h : Command.SameShape c d) : SameShape (.root t c) (.root t d)
  | nestedChild {t c d} (h : Command.SameShape c d) :
      SameShape (.nestedChild t c) (.nestedChild t d)

/-- Positions at partner nodes, with partner arguments left and the same flags. -/
inductive Position.SameShape : Position → Position → Prop
  | atCommand {here there depleted positional} (h : Level.SameShape here there) :
      SameShape (.atCommand here depleted positional) (.atCommand there depleted positional)
  | atArg {here there a b others others' ofOption bound} (h : Level.SameShape here there)
      (ha : Arg.SameShape a b) (hl : List.Forall₂ Arg.SameShape others others') :
      SameShape (.atArg here a others ofOption bound) (.atArg there b others' ofOption bound)

/-- Both walks end at no position, or at partners with the same text under the cursor. -/
inductive Stop.SameShape : Stop → Stop → Prop
  | nowhere : SameShape .nowhere .nowhere
  | noToken : SameShape .noToken .noToken
  | reached {p q typed} (h : Position.SameShape p q) :
      SameShape (.reached p typed) (.reached q typed)

/-- Both calls end the walk, or lead to partners. -/
inductive Call.Result.SameShape : Call.Result → Call.Result → Prop
  | stop {s s'} (h : Stop.SameShape s s') : SameShape (.stop s) (.stop s')
  | call {read read' c d} (hread : Option.Rel Reading.SameShape read read')
      (h : Call.SameShape c d) : SameShape (.call read c) (.call read' d)

/-- The calls of a walk, up to the one that ends it. -/
def Call.trace (roots : String → Option Command) (c : Call) : List Call :=
  match _h : c.next roots with
  | .stop _ => [c]
  | .call _ c' => c :: c'.trace roots
termination_by c.size
decreasing_by exact size_next _h

/-- Two walks over the same tokens go side by side. -/
structure SameWalk (roots roots' : String → Option Command) (c d : Command)
    (tokens : List Token) : Prop where
  calls : List.Forall₂ Call.SameShape ((Call.start c tokens).trace roots)
    ((Call.start d tokens).trace roots')
  reads : List.Forall₂ Reading.SameShape (c.reads roots tokens) (d.reads roots' tokens)
  stop : (c.walk roots tokens).SameShape (d.walk roots' tokens)

/-! ## The parts of a call -/

variable {roots roots' : String → Option Command} {here there : Level}

theorem gathered_sameShape (h : here.SameShape there) : here.gathered.SameShape there.gathered where
  command := h.command
  inForce := mergePersistent_sameShape h.inForce h.command.options
  accepted := h.accepted

theorem options_sameShape (h : here.SameShape there) :
    List.Forall₂ Opt.SameShape here.options there.options :=
  List.rel_append h.command.options h.inForce

theorem accept_sameShape (h : here.SameShape there) (text : String) (persist : Bool) :
    (here.accept text persist).SameShape (there.accept text persist) where
  command := h.command
  inForce := h.inForce
  accepted := by
    unfold Level.accept
    rw [h.accepted]

/-- A token leads out of both levels alike, or out of none. -/
theorem leave_sameShape (h : here.SameShape there) (t : Token) (rest : List Token) :
    Option.Rel Call.Result.SameShape (here.leave? t rest) (there.leave? t rest) := by
  unfold Level.leave?
  cases t.isOption with
  | true =>
    have hfind := findOption_sameShape (options_sameShape h) t.text
    rw [if_pos rfl, if_pos rfl]
    generalize Opt.find? t.text here.options = found at hfind ⊢
    generalize Opt.find? t.text there.options = found' at hfind ⊢
    cases hfind with
    | some ho => exact .some (.call .none (.option ho h))
    | none => exact .some (.stop .nowhere)
  | false =>
    have hfind := child_sameShape h.command t.text
    rw [if_neg Bool.false_ne_true, if_neg Bool.false_ne_true]
    generalize here.command.child? t.text = found at hfind ⊢
    generalize there.command.child? t.text = found' at hfind ⊢
    cases hfind with
    | some hc =>
      have hbelow : keptBelow here.accepted = keptBelow there.accepted := by rw [h.accepted]
      exact .some (.call (.some (.child hc)) (.command ⟨hc, h.inForce, hbelow⟩))
    | none => exact .none

/-- A token is taken as a value alike, or as the name of a nested command. -/
theorem useValue_sameShape (h : here.SameShape there) (t : Token) (rest : List Token) {a b : Arg}
    (hab : a.SameShape b) {others others' : List Arg}
    (hl : List.Forall₂ Arg.SameShape others others') (ofOption : Bool) :
    (here.useValue t rest a others ofOption).SameShape
      (there.useValue t rest b others' ofOption) := by
  have hread : Option.Rel Reading.SameShape (some (.value t a)) (some (.value t b)) :=
    .some (.value hab)
  have hafter := accept_sameShape h t.text false
  unfold Level.useValue
  rw [hab.variadic, hab.command]
  dsimp only
  by_cases hvariadic : b.variadic = true
  · rw [if_pos hvariadic, if_pos hvariadic]
    exact .call hread (.args (.cons hab hl) hafter)
  · rw [if_neg hvariadic, if_neg hvariadic]
    by_cases hcommand : b.command = true
    · rw [if_pos hcommand, if_pos hcommand]
      exact .call .none (.nested h.command h.inForce)
    · rw [if_neg hcommand, if_neg hcommand]
      exact .call hread (.args hl hafter)

/-! ## One call -/

section Handlers

variable (h : here.SameShape there) (t : Token) (rest : List Token)

include h

theorem next_command_sameShape (depleted positional : Bool) :
    ((Call.command (t :: rest) here depleted positional).next roots).SameShape
      ((Call.command (t :: rest) there depleted positional).next roots') := by
  simp only [Call.next]
  cases t.complete with
  | false => exact .stop (.reached (.atCommand h))
  | true =>
    have hleave := leave_sameShape (gathered_sameShape h) t rest
    have hargs := h.command.args
    rw [if_pos rfl, if_pos rfl]
    generalize here.gathered.leave? t rest = left at hleave ⊢
    generalize there.gathered.leave? t rest = left' at hleave ⊢
    cases hleave with
    | some hresult => exact hresult
    | none =>
      generalize here.command.args = args at hargs ⊢
      generalize there.command.args = args' at hargs ⊢
      cases hargs with
      | nil => exact .stop .nowhere
      | cons hab hl => exact .call .none (.args (.cons hab hl) (gathered_sameShape h))

theorem next_option_sameShape {o p : Opt} (hop : o.SameShape p) :
    ((Call.option (t :: rest) o here).next roots).SameShape
      ((Call.option (t :: rest) p there).next roots') := by
  have hargs := hop.args
  simp only [Call.next]
  rw [isPersistentName_eq h.inForce]
  have hafter := accept_sameShape h t.text (isPersistentName t.text there.inForce)
  generalize o.args = args at hargs ⊢
  generalize p.args = args' at hargs ⊢
  cases hargs with
  | nil => exact .call (.some (.option hop)) (.command hafter)
  | cons hab hl => exact .call (.some (.option hop)) (.args (.cons hab hl) hafter)

theorem next_args_sameShape {a b : Arg} (hab : a.SameShape b) {others others' : List Arg}
    (hl : List.Forall₂ Arg.SameShape others others') (ofOption bound : Bool) :
    ((Call.args (t :: rest) (a :: others) here ofOption bound).next roots).SameShape
      ((Call.args (t :: rest) (b :: others') there ofOption bound).next roots') := by
  simp only [Call.next]
  cases t.complete with
  | false => exact .stop (.reached (.atArg h hab hl))
  | true =>
    have hvalue := useValue_sameShape h t rest hab hl ofOption
    have hleave := leave_sameShape h t rest
    rw [if_pos rfl, if_pos rfl, allOptional_eq (.cons hab hl)]
    cases allOptional (b :: others') with
    | false => exact hvalue
    | true =>
      rw [if_pos rfl, if_pos rfl]
      generalize here.leave? t rest = left at hleave ⊢
      generalize there.leave? t rest = left' at hleave ⊢
      cases hleave with
      | some hresult => exact hresult
      | none => exact hvalue

end Handlers

theorem next_nested_sameShape
    (hroots : ∀ name, Option.Rel Command.SameShape (roots name) (roots' name))
    (tokens : List Token) {owner owner' : Command} (h : owner.SameShape owner')
    {inForce inForce' : List Opt} (hf : List.Forall₂ Opt.SameShape inForce inForce') :
    ((Call.nested tokens owner inForce).next roots).SameShape
      ((Call.nested tokens owner' inForce').next roots') := by
  rcases tokens with _ | ⟨t, _ | ⟨next, rest⟩⟩
  · exact .stop .nowhere
  · exact .stop .nowhere
  · have hroot := hroots t.text
    have hchild := child_sameShape h t.text
    simp only [Call.next]
    generalize roots t.text = root at hroot ⊢
    generalize roots' t.text = root' at hroot ⊢
    cases hroot with
    | some hcd => exact .call (.some (.root hcd)) (.command ⟨hcd, .nil, rfl⟩)
    | none =>
      generalize owner.child? t.text = child at hchild ⊢
      generalize owner'.child? t.text = child' at hchild ⊢
      cases hchild with
      | some hcd => exact .call (.some (.nestedChild hcd)) (.command ⟨hcd, hf, rfl⟩)
      | none => exact .stop .nowhere

/-- **One call**: partners come to the same, at partners again. -/
theorem next_sameShape (hroots : ∀ name, Option.Rel Command.SameShape (roots name) (roots' name))
    {c d : Call} (h : c.SameShape d) : (c.next roots).SameShape (d.next roots') := by
  cases h with
  | @command tokens here there depleted positional h =>
    cases tokens with
    | nil => exact .stop (.reached (.atCommand h))
    | cons t rest => exact next_command_sameShape h t rest depleted positional
  | @option tokens o p here there ho h =>
    cases tokens with
    | nil => exact .stop .noToken
    | cons t rest => exact next_option_sameShape h t rest ho
  | @args tokens left left' here there ofOption bound hl h =>
    cases hl with
    | nil => exact .call .none (.command h)
    | cons hab hl =>
      cases tokens with
      | nil => exact .stop (.reached (.atArg h hab hl))
      | cons t rest => exact next_args_sameShape h t rest hab hl ofOption bound
  | @nested tokens owner owner' inForce inForce' h hf =>
    exact next_nested_sameShape hroots tokens h hf

/-! ## All calls -/

theorem trace_of_stop {c : Call} {s : Stop} (h : c.next roots = .stop s) :
    c.trace roots = [c] := by
  rw [Call.trace]
  split
  · rfl
  · rename_i hcall
    cases h.symm.trans hcall

theorem trace_of_call {c c' : Call} {read : Option Reading} (h : c.next roots = .call read c') :
    c.trace roots = c :: c'.trace roots := by
  rw [Call.trace]
  split
  · rename_i hstop
    cases h.symm.trans hstop
  · rename_i hcall
    cases h.symm.trans hcall
    rfl

/-- **All calls**: partners go side by side to the end. -/
theorem run_sameShape (hroots : ∀ name, Option.Rel Command.SameShape (roots name) (roots' name))
    {c d : Call} (h : c.SameShape d) :
    List.Forall₂ Call.SameShape (c.trace roots) (d.trace roots') ∧
      List.Forall₂ Reading.SameShape (c.run roots).1 (d.run roots').1 ∧
      (c.run roots).2.SameShape (d.run roots').2 := by
  induction hn : c.size using Nat.strongRecOn generalizing c d with
  | ind n ih =>
    subst hn
    have hnext := next_sameShape hroots h
    cases hc : c.next roots with
    | stop s =>
      cases hd : d.next roots' with
      | stop s' =>
        rw [hc, hd] at hnext
        rw [trace_of_stop hc, trace_of_stop hd, run_of_stop hc, run_of_stop hd]
        cases hnext with
        | stop hs => exact ⟨.cons h .nil, .nil, hs⟩
      | call read' d' =>
        rw [hc, hd] at hnext
        cases hnext
    | call read c' =>
      cases hd : d.next roots' with
      | stop s' =>
        rw [hc, hd] at hnext
        cases hnext
      | call read' d' =>
        rw [hc, hd] at hnext
        rw [trace_of_call hc, trace_of_call hd, run_of_call hc, run_of_call hd]
        cases hnext with
        | call hread hcall =>
          obtain ⟨htrace, hreads, hstop⟩ := ih c'.size (size_next hc) hcall rfl
          refine ⟨.cons h htrace, List.rel_append ?_ hreads, hstop⟩
          cases hread with
          | some hr => exact .cons hr .nil
          | none => exact .nil

/-- The walks of two commands of one shape. -/
theorem walk_sameShape (hroots : ∀ name, Option.Rel Command.SameShape (roots name) (roots' name))
    {c d : Command} (h : c.SameShape d) (tokens : List Token) :
    SameWalk roots roots' c d tokens := by
  have hstart : (Call.start c tokens).SameShape (Call.start d tokens) := .command ⟨h, .nil, rfl⟩
  obtain ⟨hcalls, hreads, hstop⟩ := run_sameShape hroots hstart
  rw [run_ends, run_ends] at hstop
  exact ⟨hcalls, hreads, hstop⟩

/-- **Only the shape of the grammars decides how a line is read.** With registries and commands of
one shape, every line of tokens is walked by the same handlers, one after the other: at partner
nodes, with partners in force and the same tokens accepted. The walks end alike, at no position or
at partner positions. So it does not matter what is hidden: what is typed is read as if nothing
were. -/
theorem shape_decides :
    (∀ {reg reg' : Registry} {c d : Command}, reg.SameShape reg' → c.SameShape d →
      ∀ tokens, SameWalk reg.lookup reg'.lookup c d tokens) ∧
    ∀ (commands : List Command) (c : Command) (tokens : List Token),
      SameWalk (Registry.ofCommands commands).lookup
        (Registry.ofCommands (Command.revealedAll commands)).lookup c c.revealed tokens := by
  refine ⟨fun hreg hcd tokens => walk_sameShape hreg hcd tokens, fun commands c tokens => ?_⟩
  have hreg := Registry.sameShape_ofCommands (sameShape_revealedAll commands)
  exact walk_sameShape hreg (sameShape_revealed c) tokens

/-- A command with a child that is hidden, and an option that is. -/
def secretive : Command where
  names := ["tool"]
  children := [{
    names := ["debug"]
    hidden := true
    options := [{ names := ["--trace"], persistent := true, hidden := true }] }]
  args := [{ name := "file", optional := true, templates := [.filepaths] }]

/-- The same command with nothing hidden, but other descriptions, another strategy and another
source of values. -/
def outspoken : Command where
  names := ["tool"]
  description := .text "A tool"
  strategy := .fuzzy
  children := [{ names := ["debug"], options := [{ names := ["--trace"], persistent := true }] }]
  args := [{ name := "input", optional := true, values := [{ name := "a.txt" }] }]

/-- `debug --trace` is read alike, whether the two are hidden or not. -/
theorem shape_decides_debug :
    let reg := Registry.ofCommands [secretive]
    let reg' := Registry.ofCommands [outspoken]
    let debug : Token := { text := "debug", complete := true, isOption := false, rawLength := 5 }
    let trace : Token := { text := "--trace", complete := true, isOption := true, rawLength := 7 }
    reg.SameShape reg' ∧ secretive.SameShape outspoken ∧
    ∃ p q, secretive.walk reg.lookup [debug, trace] = .reached p none ∧
      outspoken.walk reg'.lookup [debug, trace] = .reached q none ∧ p.SameShape q ∧
      p.level.command.names = ["debug"] ∧
      p.level.accepted = [{ text := "--trace", persist := true }] := by
  intro reg reg' debug trace
  have hshape : secretive.SameShape outspoken :=
    .node rfl
      (.cons (.node rfl .nil (.cons ⟨rfl, rfl, .nil⟩ .nil) .nil) .nil)
      .nil
      (.cons ⟨rfl, rfl, rfl⟩ .nil)
  have hreg : reg.SameShape reg' := Registry.sameShape_ofCommands (.cons hshape .nil)
  have hwalk := (shape_decides.1 hreg hshape [debug, trace]).stop
  refine ⟨hreg, hshape, _, _, rfl, rfl, ?_, rfl, rfl⟩
  cases hwalk with
  | reached h => exact h

end TabCompletion
