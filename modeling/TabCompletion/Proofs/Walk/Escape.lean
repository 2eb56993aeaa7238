import TabCompletion.Grammar.Shipped
import TabCompletion.Offer
import TabCompletion.Proofs.Walk.Invariants

/-!
# Leaving optional arguments

Where every argument that is left may be left out, a token that names an option or a child leads out
of the arguments. It is then read as it would be at the command itself: the handler at a command
gathers the persistent options first, but wherever arguments are read those of the command are in
force already.

* `exists_merged_of_reached`: what is in force at arguments is a merge of the command's own options.
* `next_args_of_named`: the handler at arguments leaves them as the handler at the command would.
* **`escape_agreement`**: so the two agree, call by call and in what is offered at the end.
-/

namespace TabCompletion

/-- A token that has the form of an option, or names a child. -/
def Command.Named (c : Command) (t : Token) : Prop :=
  t.isOption = true ∨ ∃ d ∈ c.children, t.text ∈ d.names

variable {roots : String → Option Command} {c : Command} {tokens : List Token}
  {rs : List Reading} {here : Level} {t : Token} {rest : List Token}

/-! ## What is in force -/

/-- What is in force at arguments is a merge of the command's own options. -/
theorem exists_merged_of_reached {left : List Token} {args : List Arg} {ofOption bound : Bool}
    (h : Reached roots c tokens rs (.args left args here ofOption bound)) :
    ∃ inForce, here.inForce = mergePersistent inForce here.command.options := by
  obtain ⟨above, -, hgathered⟩ := (invariant_of_reached h).gathered
  exact ⟨inForceAlong above, hgathered.trans (inForceAlong_concat above here.command)⟩

/-! ## One call -/

theorem leave_of_named (h : here.command.Named t) (rest : List Token) :
    ∃ r, here.leave? t rest = some r := by
  refine Option.ne_none_iff_exists'.mp fun hnone => ?_
  obtain ⟨hoption, hchild⟩ := leave_eq_none_iff.mp hnone
  rcases h with h | ⟨d, hd, hn⟩
  · exact Bool.false_ne_true (hoption.symm.trans h)
  · have hfound := List.find?_eq_none.mp hchild d hd
    exact hfound (by simpa using hn)

theorem next_command_of_leave {depleted positional : Bool} {r : Call.Result}
    (hc : t.complete = true) (h : here.gathered.leave? t rest = some r) :
    (Call.command (t :: rest) here depleted positional).next roots = r := by
  simp only [Call.next, hc, if_true, h]

theorem next_args_of_leave {a : Arg} {others : List Arg} {ofOption bound : Bool}
    {r : Call.Result} (hc : t.complete = true) (hopt : allOptional (a :: others) = true)
    (h : here.leave? t rest = some r) :
    (Call.args (t :: rest) (a :: others) here ofOption bound).next roots = r := by
  simp only [Call.next, hc, hopt, if_true, h]

/-- **Arguments are left as the command would be.** -/
theorem next_args_of_named {a : Arg} {others : List Arg} (hgathered : here.gathered = here)
    (hopt : allOptional (a :: others) = true) (hc : t.complete = true)
    (hnamed : here.command.Named t) (ofOption bound depleted positional : Bool) :
    (Call.args (t :: rest) (a :: others) here ofOption bound).next roots =
      (Call.command (t :: rest) here depleted positional).next roots := by
  obtain ⟨r, hleave⟩ := leave_of_named hnamed rest
  rw [next_args_of_leave hc hopt hleave, next_command_of_leave hc (hgathered.symm ▸ hleave)]

/-! ## What follows -/

theorem run_eq_of_next_eq {call call' : Call} (h : call.next roots = call'.next roots) :
    call.run roots = call'.run roots := by
  cases hn : call'.next roots with
  | stop s => rw [run_of_stop hn, run_of_stop (h.trans hn)]
  | call read next => rw [run_of_call hn, run_of_call (h.trans hn)]

/-- **Leaving optional arguments agrees with the command.** Where the command's own options are
merged into those in force, every argument that is left may be left out, and the next token is an
option or names a child, the handler at the arguments does what the handler at the command does with
the same tokens, whatever the two were told besides: the next call is the same, and so are all
readings after it and what is offered where they end. Another merge changes nothing. -/
theorem escape_agreement (roots : Roots) {here : Level} {inForce : List Opt}
    (hmerged : here.inForce = mergePersistent inForce here.command.options) {a : Arg}
    {others : List Arg} (hopt : allOptional (a :: others) = true) {t : Token}
    (hc : t.complete = true) (hnamed : here.command.Named t) (rest : List Token)
    (ofOption bound depleted positional : Bool) :
    let atArgs := Call.args (t :: rest) (a :: others) here ofOption bound
    let atCommand := Call.command (t :: rest) here depleted positional
    mergePersistent here.inForce here.command.options = here.inForce ∧
    atArgs.next roots.lookup = atCommand.next roots.lookup ∧
    atArgs.run roots.lookup = atCommand.run roots.lookup ∧
    (walk roots.lookup (.atArg here a others ofOption bound) (t :: rest)).offer roots =
      (walk roots.lookup (.atCommand here depleted positional) (t :: rest)).offer roots := by
  intro atArgs atCommand
  have hgathered : here.gathered = here := gathered_of_merged hmerged
  have hnext : atArgs.next roots.lookup = atCommand.next roots.lookup :=
    next_args_of_named hgathered hopt hc hnamed ofOption bound depleted positional
  have hrun : atArgs.run roots.lookup = atCommand.run roots.lookup := run_eq_of_next_eq hnext
  have hends : atArgs.ending roots.lookup = atCommand.ending roots.lookup := by
    rw [← run_ends, ← run_ends, hrun]
  exact ⟨congrArg Level.inForce hgathered, hnext, hrun, congrArg (Stop.offer · roots) hends⟩

/-- In `git push origin --no-pager` the last token leads out of the branch that may follow, to the
option of `git`. -/
theorem escape_agreement_push :
    let push : Token := { text := "push", complete := true, isOption := false, rawLength := 4 }
    let origin : Token := { text := "origin", complete := true, isOption := false, rawLength := 6 }
    let noPager : Token :=
      { text := "--no-pager", complete := true, isOption := true, rawLength := 10 }
    let branch : Arg := { name := "branch", optional := true, generator := some .gitBranches }
    ∃ rs here o,
      Reached (fun _ => none) Shipped.git [push, origin, noPager] rs
        (.args [noPager] [branch] here false false) ∧
      (Call.args [noPager] [branch] here false false).next (fun _ => none) =
        (Call.command [noPager] here false false).next (fun _ => none) ∧
      (Call.command [noPager] here false false).next (fun _ => none) =
        .call none (.option [noPager] o here) ∧
      o.names = ["--no-pager"] := by
  intro push origin noPager branch
  have h_start := @Reached.start (fun _ => none) Shipped.git [push, origin, noPager]
  have h_push := h_start.step (by rfl)
  have h_args := h_push.step (by rfl)
  have h_branch := h_args.step (by rfl)
  have hopt : allOptional (branch :: []) = true := rfl
  have hc : noPager.complete = true := rfl
  obtain ⟨inForce, hmerged⟩ := exists_merged_of_reached h_branch
  obtain ⟨-, hnext, -⟩ :=
    escape_agreement {} hmerged hopt hc (.inl rfl) [] false false false false
  exact ⟨_, _, _, h_branch, hnext, by rfl, rfl⟩

end TabCompletion
