import TabCompletion.Offer
import TabCompletion.Proofs.Query.Fails

/-!
# The parts of an offer

The offer at a position is put together from the values of one argument (`Position.asked?`), the
children and the options. The values are asked for; the rest is read off the grammar.

* `nodes_eq`: children and options are offered together or not at all.
* **`offer_eq`**: the offer at a position from its parts.
* `offer_eq_contributed`: the offer is made of what the sources contribute (`Position.contributed`)
  by keeping the first of every name that is not accepted.
* `exists_contributed`: the same for the answers.
-/

namespace TabCompletion

namespace Position

/-- The level of a position. -/
def level : Position → Level
  | .atCommand here _ _ | .atArg here _ _ _ _ => here

/-- The strategy of a position. -/
def strategy : Position → Strategy
  | .atCommand here _ _ => here.command.strategy
  | .atArg _ a _ _ _ => a.strategy

/-- Whether children and options are offered. -/
def offersNodes : Position → Bool
  | .atCommand _ _ positional => !positional
  | .atArg _ a _ _ bound => a.optional && !(a.variadic && bound)

/-- The argument that is asked for values, if any. -/
def asked? : Position → Option Arg
  | .atCommand here depleted positional =>
    if depleted && positional then none else here.command.args.head?
  | .atArg _ a _ _ _ => some a

/-- The values that are offered. -/
def values (p : Position) (roots : Roots) (typed : Option String) : Query (List Candidate) :=
  match p.asked? with
  | none => pure []
  | some a => a.candidates roots typed p.strategy p.level.accepted

/-- The children that are offered. -/
def childCandidates (p : Position) (settings : Settings) (typed : Option String) :
    List Candidate :=
  if p.offersNodes then p.level.command.childCandidates settings p.strategy typed else []

/-- The options that are offered. -/
def optionCandidates (p : Position) (settings : Settings) (typed : Option String) :
    List Candidate :=
  if p.offersNodes then
    Opt.candidates p.level.options settings p.strategy typed p.level.accepted
  else []

/-- The hint beside some candidates. -/
def hint (p : Position) (candidates : List Candidate) : String :=
  match p with
  | .atCommand .. => ""
  | .atArg _ a _ _ _ => if candidates.isEmpty then a.name else ""

end Position

theorem nodes_eq (p : Position) (settings : Settings) (typed : Option String) :
    p.childCandidates settings typed ++ p.optionCandidates settings typed =
      if p.offersNodes then p.level.nodeCandidates settings p.strategy typed else [] := by
  unfold Position.childCandidates Position.optionCandidates
  split <;> rfl

/-- **The parts of an offer**: values, then children, then options. -/
theorem offer_eq (p : Position) (roots : Roots) (typed : Option String) :
    p.offer roots typed = (do
      let settings := (← read).settings
      let values ← p.values roots typed
      let candidates := distinct p.level.accepted
        (values ++ (p.childCandidates settings typed ++ p.optionCandidates settings typed))
      pure { candidates, hint := p.hint candidates }) := by
  simp only [nodes_eq]
  cases p with
  | atCommand here depleted positional =>
    unfold Position.offer Level.offerAtCommand Position.values Position.asked?
    dsimp only
    cases positional with
    | true =>
      cases depleted with
      | true => rfl
      | false => cases here.command.args <;> rfl
    | false =>
      rw [Bool.and_false]
      cases here.command.args <;> rfl
  | atArg here a others ofOption bound => rfl

/-! ## What the sources contribute -/

/-- What the sources contribute at a position, before anything is left out. -/
def Position.contributed (p : Position) (roots : Roots) (typed : Option String) :
    Query (List Candidate) := do
  let settings := (← read).settings
  let values ← p.values roots typed
  pure (values ++ (p.childCandidates settings typed ++ p.optionCandidates settings typed))

/-- The offer that is made of what the sources contribute. -/
def Position.offerOf (p : Position) (contributed : List Candidate) : Offer :=
  let candidates := distinct p.level.accepted contributed
  { candidates, hint := p.hint candidates }

theorem offer_eq_contributed (p : Position) (roots : Roots) (typed : Option String) :
    p.offer roots typed =
      (p.contributed roots typed >>= fun contributed => pure (p.offerOf contributed)) := by
  rw [offer_eq]
  unfold Position.contributed
  simp only [bind_assoc, pure_bind]
  rfl

/-- An offer that is answered is made of what was contributed. -/
theorem exists_contributed {p : Position} {roots : Roots} {typed : Option String}
    {context : Context} {memory : Memory} {offer : Offer}
    (h : ((p.offer roots typed).answer context memory).1 = .ok offer) :
    ∃ contributed, ((p.contributed roots typed).answer context memory).1 = .ok contributed ∧
      p.offerOf contributed = offer := by
  rw [offer_eq_contributed] at h
  exact Query.exists_answer_of_bind_pure h

end TabCompletion
