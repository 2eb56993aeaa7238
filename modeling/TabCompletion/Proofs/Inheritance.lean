import TabCompletion.Proofs.Distinct
import TabCompletion.Proofs.OfferedName
import TabCompletion.Proofs.Resolve
import TabCompletion.Proofs.Walk.Agreement

/-!
# Persistent options below their command

Tokens lead from child to child (`Leads`). What the commands above declare as persistent is in force
at the command that is reached: every name of it is understood there, and every option of it that
brings a new name is offered.

Results:
* `walk_of_leads`: where the walk over such tokens stops, and what is in force there.
* `find_of_above`: every name of a persistent option further up names an option.
* `mem_optionCandidates_of_above`: an option further up that brings a new name is among those
  offered, under the first among its longest names.
* **`persistent_below`**: all of this, with the name in the offer exactly once.
-/

namespace TabCompletion

/-- The tokens lead from `c` from child to child to `n`, and the commands `above` are left on the
way. -/
inductive Leads : Command → List Token → List Command → Command → Prop
  | here {c} : Leads c [] [] c
  | child {c d n t tokens above} (hc : t.complete = true) (ho : t.isOption = false)
      (hf : c.child? t.text = some d) (h : Leads d tokens above n) :
      Leads c (t :: tokens) (c :: above) n

/-- The command `n` below the commands `above`, with nothing accepted. -/
def Level.below (above : List Command) (n : Command) : Level :=
  { command := n, inForce := inForceAlong above }

variable {c n : Command} {tokens : List Token} {above : List Command}

/-! ## Where the walk stops -/

theorem walk_of_leads_below (roots : String → Option Command) (h : Leads c tokens above n)
    (passed : List Command) :
    walk roots (.start (.below passed c)) tokens =
      .reached (.start (.below (passed ++ above) n)) none := by
  induction h generalizing passed with
  | here =>
    rw [List.append_nil]
    rfl
  | @child c d n t tokens above hc ho hf _ ih =>
    have hforce : (Level.below passed c).gathered.inForce = inForceAlong (passed ++ [c]) :=
      (inForceAlong_concat passed c).symm
    have hdescend : (Level.below passed c).gathered.descend d =
        .start (.below (passed ++ [c]) d) := by
      unfold Level.descend
      rw [hforce]
      rfl
    have hf' : (Level.below passed c).command.child? t.text = some d := hf
    rw [Position.start, walk_child hc ho hf', hdescend, ih, List.append_assoc,
      List.singleton_append]

/-- **Where the walk from child to child stops**, with what all commands above have gathered. -/
theorem walk_of_leads (roots : String → Option Command) (h : Leads c tokens above n) :
    c.walk roots tokens = .reached (.start (.below above n)) none :=
  walk_of_leads_below roots h []

/-! ## What is in force -/

/-- Every name of a persistent option further up names an option. -/
theorem find_of_above {o : Opt} {name : String} (ho : o ∈ above.flatMap (·.options))
    (hp : o.persistent = true) (hn : name ∈ o.names) :
    ∃ o' ∈ (Level.below above n).options, name ∈ o'.names ∧
      Opt.find? name (Level.below above n).options = some o' := by
  have hknown : name ∈ Opt.allNames (inForceAlong above) := by
    rw [inForceAlong_eq]
    exact mem_allNames_mergePersistent ho hp hn
  obtain ⟨known, hmem, hname⟩ := Opt.mem_allNames.mp hknown
  have hoptions : known ∈ (Level.below above n).options := List.mem_append_right _ hmem
  obtain ⟨o', hf⟩ := find_isSome_of_mem hoptions hname
  obtain ⟨ho', hn'⟩ := mem_of_find hf
  exact ⟨o', ho', hn', hf⟩

/-- An option further up that brings a new name is among those that are offered. -/
theorem mem_optionCandidates_of_above {earlier later : List Opt} {o : Opt} {name new : String}
    (habove : above.flatMap (·.options) = earlier ++ o :: later) (hp : o.persistent = true)
    (hvisible : o.hidden = false) (hname : FirstLongest o.names name) (hne : name ≠ "")
    (hnew : new ∈ o.names) (hfresh : ∀ e ∈ earlier, e.persistent = true → new ∉ e.names)
    (settings : Settings) :
    { name, kind := .option, description := o.description } ∈
      (Position.start (.below above n)).optionCandidates settings none := by
  have hforce : o ∈ inForceAlong above := by
    rw [inForceAlong_eq, habove]
    exact mem_mergePersistent_of_new hp hnew List.not_mem_nil hfresh
  refine List.mem_filterMap.mpr ⟨o, List.mem_filter.mpr ⟨List.mem_append_right _ hforce, ?_⟩,
    offerNode_untyped settings _ .option hname hne o.description⟩
  rw [hvisible]
  rfl

/-! ## What is offered -/

section Offer

variable {p : Position} {roots : Roots} {typed : Option String} {context : Context}
  {memory : Memory}

/-- What a position offers as an option is among what is contributed there. -/
theorem optionCandidates_subset_contributed {contributed : List Candidate}
    (h : ((p.contributed roots typed).answer context memory).1 = .ok contributed) :
    p.optionCandidates context.settings typed ⊆ contributed := by
  obtain ⟨values, -, rfl⟩ := Query.exists_answer_of_bind_pure
    (f := fun values => values ++
      (p.childCandidates context.settings typed ++ p.optionCandidates context.settings typed)) h
  exact fun cand hcand => List.mem_append_right _ (List.mem_append_right _ hcand)

/-- The name of an option that is offered stands in the offer exactly once, unless it is
accepted. -/
theorem count_of_mem_optionCandidates {offer : Offer}
    (h : ((p.offer roots typed).answer context memory).1 = .ok offer) {cand : Candidate}
    (hcand : cand ∈ p.optionCandidates context.settings typed)
    (haccepted : cand.name ∉ p.level.accepted.map (·.text)) :
    (offer.candidates.map (·.name)).count cand.name = 1 := by
  obtain ⟨contributed, hcontributed, rfl⟩ := exists_contributed h
  exact count_distinctFrom
    (List.mem_map_of_mem (optionCandidates_subset_contributed hcontributed hcand)) haccepted

end Offer

/-- **Persistent options reach every command below.** At the command that the tokens lead to, every
name of a persistent option of the commands above names an option. The walk stops there, the offer
fails only if the first argument of the command has a source that fails, and an option that is not
hidden is offered under the first among its longest names, which the offer has exactly once, unless
persistent options that were declared before it on the path have all its names. -/
theorem persistent_below (roots : Roots) (h : Leads c tokens above n) :
    (∀ o ∈ above.flatMap (·.options), o.persistent = true → ∀ name ∈ o.names,
      ∃ o' ∈ (Level.below above n).options, name ∈ o'.names ∧
        Opt.find? name (Level.below above n).options = some o') ∧
    c.walk roots.lookup tokens = .reached (.start (.below above n)) none ∧
    ∀ context memory,
      ((c.offer roots tokens).Fails context memory ↔
        ∃ a, n.args.head? = some a ∧ a.Faulty context memory.listings none) ∧
      ∀ offer, ((c.offer roots tokens).answer context memory).1 = .ok offer →
        ∀ earlier o later name, above.flatMap (·.options) = earlier ++ o :: later →
          o.persistent = true → o.hidden = false → FirstLongest o.names name → name ≠ "" →
          (∃ new ∈ o.names, ∀ e ∈ earlier, e.persistent = true → new ∉ e.names) →
          { name, kind := .option, description := o.description } ∈
              (Position.start (.below above n)).optionCandidates context.settings none ∧
            (offer.candidates.map (·.name)).count name = 1 := by
  have hwalk : c.walk roots.lookup tokens = .reached (.start (.below above n)) none :=
    walk_of_leads roots.lookup h
  have hoffer : c.offer roots tokens = (Position.start (.below above n)).offer roots none := by
    rw [Command.offer, hwalk]
    rfl
  refine ⟨fun o ho hp name hn => find_of_above ho hp hn, hwalk, fun context memory => ?_⟩
  rw [hoffer]
  refine ⟨offer_fails_iff, ?_⟩
  intro offer hanswer earlier o later name habove hp hvisible hname hne hfresh
  obtain ⟨new, hnew, hfresh⟩ := hfresh
  have hcand := mem_optionCandidates_of_above (n := n) habove hp hvisible hname hne hnew hfresh
    context.settings
  exact ⟨hcand, count_of_mem_optionCandidates hanswer hcand List.not_mem_nil⟩

/-- After `git stash pop` the options of `git` are offered. -/
theorem persistent_below_stash :
    let stash : Token := { text := "stash", complete := true, isOption := false, rawLength := 5 }
    let pop : Token := { text := "pop", complete := true, isOption := false, rawLength := 3 }
    let context : Context := { host := { home := "/", workingDir := { path := "/" } } }
    ∃ offer, ((Shipped.git.offer {} [stash, pop]).answer context {}).1 = .ok offer ∧
      (offer.candidates.map (·.name)).count "-C" = 1 ∧
      (offer.candidates.map (·.name)).count "--no-pager" = 1 := by
  intro stash pop context
  have hleads : Leads Shipped.git [stash, pop] _ _ :=
    .child rfl rfl (by rfl) (.child rfl rfl (by rfl) .here)
  obtain ⟨-, -, hat⟩ := persistent_below {} hleads
  obtain ⟨hfails, honce⟩ := hat context {}
  have hfirst : ∀ name : String, FirstLongest [name] name := fun name =>
    ⟨[], [], rfl, List.forall_mem_nil _, List.forall_mem_nil _⟩
  cases hanswer : ((Shipped.git.offer {} [stash, pop]).answer context {}).1 with
  | error f =>
    obtain ⟨a, ha, -⟩ := hfails.mp ⟨f, hanswer⟩
    cases ha
  | ok offer =>
    refine ⟨offer, rfl, ?_, ?_⟩
    · exact (honce offer hanswer [] _ _ "-C" rfl rfl rfl (hfirst _) (by decide)
        ⟨"-C", List.mem_cons_self, List.forall_mem_nil _⟩).2
    · exact (honce offer hanswer [_] _ _ "--no-pager" rfl rfl rfl (hfirst _)
        (by decide) ⟨"--no-pager", List.mem_cons_self, by decide⟩).2

end TabCompletion
