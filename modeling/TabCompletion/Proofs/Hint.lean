import TabCompletion.Proofs.Resolve

/-!
# Hints

Where nothing is offered for an argument that waits for its value, the name of the argument is the
hint. A command whose first argument may follow is another place where a value is expected; nothing
names that argument there.

Results:
* `candidates_of_hint`, `hint_offerOf`: the hint that stands beside what a position offers.
* **`hint_eq_name_iff`**: a hint never stands beside candidates, and where a value is expected and
  nothing is offered the hint is right exactly at an argument.
* `destination_not_hinted`: at a command it is missing.
-/

namespace TabCompletion

namespace Position

/-- The argument that a value would be bound to: the one that waits for it, or at a command whose
arguments are not used up its first one. -/
def expected? : Position → Option Arg
  | .atCommand here depleted _ => if depleted then none else here.command.args.head?
  | .atArg _ a _ _ _ => some a

/-- Whether the position is at an argument. -/
def atArgument : Position → Bool
  | .atCommand .. => false
  | .atArg .. => true

end Position

variable {p : Position} {contributed : List Candidate} {a : Arg}

/-- A hint stands where nothing is offered. -/
theorem candidates_of_hint (h : (p.offerOf contributed).hint ≠ "") :
    (p.offerOf contributed).candidates = [] := by
  cases p with
  | atCommand => exact absurd rfl h
  | atArg here a others ofOption bound =>
    by_cases hnone : (distinct here.accepted contributed).isEmpty = true
    · exact List.isEmpty_iff.mp hnone
    · exact absurd (if_neg hnone) h

/-- The hint where a value is expected and nothing is offered. -/
theorem hint_offerOf (ha : p.expected? = some a)
    (hnone : (p.offerOf contributed).candidates = []) :
    (p.offerOf contributed).hint = if p.atArgument then a.name else "" := by
  cases p with
  | atCommand => rfl
  | atArg here b others ofOption bound =>
    obtain rfl := Option.some.inj ha
    exact if_pos (List.isEmpty_iff.mpr hnone)

/-- Where a walk stops, the offer is made of what is contributed there. -/
theorem offerOf_of_walk {c : Command} {roots : Roots} {tokens : List Token}
    {typed : Option String} {context : Context} {memory : Memory} {offer : Offer}
    (h : ((c.offer roots tokens).answer context memory).1 = .ok offer)
    (hwalk : c.walk roots.lookup tokens = .reached p typed) :
    ∃ contributed, p.offerOf contributed = offer := by
  rw [Command.offer, hwalk] at h
  obtain ⟨contributed, -, heq⟩ := exists_contributed h
  exact ⟨contributed, heq⟩

/-- **When there is a hint.** It never stands beside candidates. Where the walk stops with a value
expected and nothing is offered, it is the name of the argument at an argument. At a command there
is none, which is right only if the argument has no name. The offer fails exactly where a source
does. -/
theorem hint_eq_name_iff (c : Command) (roots : Roots) (tokens : List Token) (context : Context)
    (memory : Memory) :
    ((c.offer roots tokens).Fails context memory ↔
      (c.walk roots.lookup tokens).Faulty context memory.listings) ∧
    ∀ offer, ((c.offer roots tokens).answer context memory).1 = .ok offer →
      (offer.hint ≠ "" → offer.candidates = []) ∧
      ∀ p typed a, c.walk roots.lookup tokens = .reached p typed → p.expected? = some a →
        offer.candidates = [] →
        (offer.hint = a.name ↔ p.atArgument = true ∨ a.name = "") := by
  refine ⟨stopOffer_fails_iff, fun offer h => ⟨fun hhint => ?_, fun p typed a hwalk ha hnone => ?_⟩⟩
  · cases hstop : c.walk roots.lookup tokens with
    | nowhere | noToken =>
      rw [Command.offer, hstop] at h
      obtain rfl := Except.ok.inj h
      rfl
    | reached p typed =>
      obtain ⟨contributed, rfl⟩ := offerOf_of_walk h hstop
      exact candidates_of_hint hhint
  · obtain ⟨contributed, rfl⟩ := offerOf_of_walk h hwalk
    rw [hint_offerOf ha hnone]
    cases p.atArgument with
    | true => exact ⟨fun _ => .inl rfl, fun _ => rfl⟩
    | false =>
      refine ⟨fun hname => .inr hname.symm, fun hname => ?_⟩
      exact (hname.resolve_left Bool.false_ne_true).symm

/-- After `git commit -m` the hint is `message`. -/
theorem hint_eq_name_iff_message :
    let commit : Token := { text := "commit", complete := true, isOption := false, rawLength := 6 }
    let m : Token := { text := "-m", complete := true, isOption := true, rawLength := 2 }
    let context : Context := { host := { home := "/", workingDir := { path := "/" } } }
    ∃ offer, ((Shipped.git.offer {} [commit, m]).answer context {}).1 = .ok offer ∧
      offer.candidates = [] ∧ offer.hint = "message" := by
  intro commit m context
  have h : ((Shipped.git.offer {} [commit, m]).answer context {}).1 =
      .ok { hint := "message" } := by
    rfl
  obtain ⟨-, hright⟩ := (hint_eq_name_iff Shipped.git {} [commit, m] context {}).2 _ h
  exact ⟨_, h, rfl, (hright _ none (Shipped.named "message") (by rfl) rfl rfl).mpr (.inl rfl)⟩

/-- **At a command the hint is missing.** At `ssh foo` the argument `destination` is expected and
nothing is offered, nor is there a hint. -/
theorem destination_not_hinted :
    ∃ tokens p a offer,
      (∀ host memory, ((Shipped.ssh.offer {} tokens).answer { host } memory).1 = .ok offer) ∧
      Shipped.ssh.walk (fun _ => none) tokens = .reached p (some "foo") ∧
      p.expected? = some a ∧ a.name = "destination" ∧
      offer.candidates = [] ∧ offer.hint ≠ a.name := by
  refine ⟨[{ text := "foo", complete := false, isOption := false, rawLength := 3 }],
    .start { command := Shipped.ssh }, Shipped.named "destination", {}, fun host memory => ?_,
    rfl, rfl, rfl, rfl, by decide⟩
  rfl

end TabCompletion
