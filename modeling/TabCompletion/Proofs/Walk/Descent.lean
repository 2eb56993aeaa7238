import TabCompletion.Proofs.Walk.Invariants
import TabCompletion.Proofs.Walk.Nested

/-!
# What a child is told of the command above it

On the way down to a child the options in force go along, and of the accepted tokens those that name
one of them. An option that is none of these belongs to the command alone: below, it is as if neither
it nor its values had been typed.

Results:
* `keptBelow_local`: the option and its values are not among the tokens that are kept.
* **`walk_past_local_option`**: with the option or without it, the child is entered alike.
* **`descent_forgets_option`**: the same for what is offered.
-/

namespace TabCompletion

/-- Values are not kept below. -/
theorem keptBelow_acceptAll (l : Level) (values : List Token) :
    keptBelow (l.acceptAll values).accepted = keptBelow l.accepted := by
  have hvalues : keptBelow (values.map fun t => { text := t.text, persist := false }) = [] := by
    unfold keptBelow
    simp only [List.filter_map, List.map_eq_nil_iff, List.filter_eq_nil_iff]
    exact fun _ _ => Bool.false_ne_true
  unfold Level.acceptAll
  rw [keptBelow_append, hvalues, List.append_nil]

/-- Nor is an option that is not in force below, with its values. -/
theorem keptBelow_local (l : Level) (text : String) (values : List Token) :
    keptBelow ((l.accept text false).acceptAll values).accepted = keptBelow l.accepted := by
  have hoption : keptBelow [{ text, persist := false }] = [] := rfl
  unfold Level.accept
  rw [keptBelow_acceptAll, keptBelow_append, hoption, List.append_nil]

variable (roots : String → Option Command) {here : Level}

section Option

variable {t c : Token} {o : Opt} {d : Command} {values : List Token}
  (ht : t.complete = true) (hoption : t.isOption = true)
  (hf : Opt.find? t.text here.gathered.options = some o)
  (hlocal : isPersistentName t.text here.gathered.inForce = false)
  (hargs : ∀ a ∈ o.args, a.TakesOne) (hlen : values.length = o.args.length)
  (hvalues : ∀ v ∈ values, v.complete = true)
  (hc : c.complete = true) (hchild : c.isOption = false)
  (hd : here.command.child? c.text = some d)

include ht hoption hf hlocal hargs hlen hvalues hc hchild hd

/-- **A child is entered as if an option of the command above it had not been typed.** The options in
force are gathered once with the option and once without it, which makes no difference
(`gathered_of_merged`). -/
theorem walk_past_local_option (depleted positional : Bool) (rest : List Token) :
    walk roots (.atCommand here depleted positional) (t :: (values ++ c :: rest)) =
      walk roots (.atCommand here depleted positional) (c :: rest) := by
  let after := (here.gathered.accept t.text false).acceptAll values
  have hafter : walk roots (.atCommand here depleted positional) (t :: (values ++ c :: rest)) =
      walk roots (.atCommand after (!o.args.isEmpty) false) (c :: rest) := by
    rw [walk_option roots ht hoption hf hargs hlen hvalues, hlocal]
  have hgathered : after.gathered = after := gathered_of_merged rfl
  have hsame : after.descend d = here.gathered.descend d := by
    unfold Level.descend
    rw [keptBelow_local]
    rfl
  have hd' : after.command.child? c.text = some d := hd
  rw [hafter, walk_child hc hchild hd', walk_child hc hchild hd, hgathered, hsame]

end Option

/-- **What is typed for a command does not show below it.** At any command, whatever is in force and
accepted there, comes an option that is not in force below, then the values that it requires, then the
name of a child. Whatever follows, the walk ends and the offer is made as if the option and its values
were not there: at the child nothing is accepted but the tokens from before that persist. -/
theorem descent_forgets_option (roots : Roots) (here : Level) (depleted positional : Bool)
    (t c : Token) (o : Opt) (d : Command) (values rest : List Token)
    (ht : t.complete = true) (hoption : t.isOption = true)
    (hf : Opt.find? t.text here.gathered.options = some o)
    (hlocal : isPersistentName t.text (mergePersistent here.inForce here.command.options) = false)
    (hargs : ∀ a ∈ o.args, a.TakesOne) (hlen : values.length = o.args.length)
    (hvalues : ∀ v ∈ values, v.complete = true)
    (hc : c.complete = true) (hchild : c.isOption = false)
    (hd : here.command.child? c.text = some d) :
    let stop := walk roots.lookup (.atCommand here depleted positional)
    let below : Level :=
      { command := d
        inForce := mergePersistent here.inForce here.command.options
        accepted := keptBelow here.accepted }
    stop (t :: (values ++ c :: rest)) = stop (c :: rest) ∧
    stop (c :: rest) = walk roots.lookup (.start below) rest ∧
    (stop (t :: (values ++ c :: rest))).offer roots = (stop (c :: rest)).offer roots := by
  intro stop below
  have hstop : stop (t :: (values ++ c :: rest)) = stop (c :: rest) :=
    walk_past_local_option roots.lookup ht hoption hf hlocal hargs hlen hvalues hc hchild hd
      depleted positional rest
  exact ⟨hstop, walk_child hc hchild hd depleted positional rest,
    congrArg (Stop.offer · roots) hstop⟩

/-- A command that releases a version, and a child of it with an option of the same name. -/
def releaseCommand : Command where
  names := ["release"]
  options :=
    [{ names := ["--tag"], args := [{ name := "tag" }] }, { names := ["--quiet"], persistent := true }]
  children := [{ names := ["publish"], options := [{ names := ["--tag"] }] }]

/-- After `release --tag v1 publish` another `--tag` may be typed: the offer is that after
`release publish`. -/
theorem descent_forgets_option_release :
    let word (text : String) : Token :=
      { text, complete := true, isOption := false, rawLength := text.length }
    let tag : Token := { text := "--tag", complete := true, isOption := true, rawLength := 5 }
    let typed : Token := { text := "--t", complete := false, isOption := true, rawLength := 3 }
    releaseCommand.offer {} [tag, word "v1", word "publish", typed] =
      releaseCommand.offer {} [word "publish", typed] := by
  intro word tag typed
  have htakes : ∀ a ∈ [({ name := "tag" } : Arg)], a.TakesOne := by
    intro a ha
    obtain rfl := List.mem_singleton.mp ha
    exact ⟨rfl, rfl, rfl⟩
  obtain ⟨-, -, hoffer⟩ := descent_forgets_option {} { command := releaseCommand } false false tag
    (word "publish") { names := ["--tag"], args := [{ name := "tag" }] }
    { names := ["publish"], options := [{ names := ["--tag"] }] } [word "v1"] [typed] rfl rfl rfl rfl
    htakes rfl (by decide) rfl rfl rfl
  exact hoffer

end TabCompletion
