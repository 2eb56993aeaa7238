import TabCompletion.Proofs.Distinct
import TabCompletion.Proofs.Offer
import TabCompletion.Proofs.Walk.Positional

/-!
# More values than arguments

Where the arguments of a command take one value each, as many values as arguments use them up, and
the command is back with nothing to expect. One more value finds the arguments from the first one on
again, even though they were used up before (`walk_of_isValue`). So the values go round the
arguments, and only where a round is complete nothing is expected.

Results:
* **`walk_rounds`**: where any number of values leads, by induction on the rounds.
* `answer_atArg_eq_empty_iff`: when an argument shows neither candidates nor a hint.
* **`surplus_values_iff`**: after which numbers of values nothing is offered and nothing is expected.
* `surplus_value_expected`: a third value for two arguments has the second one expected again.
-/

namespace TabCompletion

/-! ## Rounds -/

variable (roots : String → Option Command) {here : Level} {values : List Token}

theorem Level.acceptAll_append (l : Level) (values more : List Token) :
    l.acceptAll (values ++ more) = (l.acceptAll values).acceptAll more := by
  unfold Level.acceptAll
  rw [List.map_append, List.append_assoc]

/-- What values are accepted changes nothing about the options in force. -/
theorem gathered_acceptAll (hgathered : here.gathered = here) (values : List Token) :
    (here.acceptAll values).gathered = here.acceptAll values :=
  congrArg (Level.acceptAll · values) hgathered

section Rounds

variable (hgathered : here.gathered = here) (hargs : here.command.args ≠ [])
  (hplain : ∀ a ∈ here.command.args, a.command = false)
  (hsingle : ∀ a ∈ here.command.args, a.variadic = false)

include hgathered hargs hplain hsingle

/-- **After a round another begins**: as many values as arguments use them up, and the value after
them finds the first argument again. -/
theorem walk_round {first later : List Token} (hfirst : ∀ t ∈ first, here.command.IsValue t)
    (hround : first.length = here.command.args.length) (hsome : later ≠ [])
    (hlater : ∀ t ∈ later, here.command.IsValue t) (rest : List Token) :
    walk roots (.before here here.command.args false false) (first ++ (later ++ rest)) =
      walk roots (.before (here.acceptAll first) here.command.args false false)
        (later ++ rest) := by
  have hused : walk roots (.before here here.command.args false false)
      (first ++ (later ++ rest)) =
      walk roots (.atCommand (here.acceptAll first) true true) (later ++ rest) := by
    rw [walk_singles roots here hplain hsingle hfirst (Nat.le_of_eq hround), hround,
      List.drop_length]
    rfl
  obtain ⟨t, later, rfl⟩ := List.exists_cons_of_ne_nil hsome
  have ht : (here.acceptAll first).command.IsValue t := hlater t List.mem_cons_self
  have hargs' : (here.acceptAll first).command.args ≠ [] := hargs
  rw [hused, List.cons_append, walk_of_isValue roots ht hargs',
    gathered_acceptAll hgathered first]
  rfl

/-- **Values go round the arguments.** Of `n` values the last one uses up the argument at place
`(n - 1) % k`, where `k` is the number of arguments. -/
theorem walk_rounds (hsome : values ≠ []) (hvalues : ∀ t ∈ values, here.command.IsValue t)
    (rest : List Token) :
    walk roots (.before here here.command.args false false) (values ++ rest) =
      walk roots (.before (here.acceptAll values)
        (here.command.args.drop ((values.length - 1) % here.command.args.length + 1))
        false false) rest := by
  induction hn : values.length using Nat.strongRecOn generalizing here values with
  | ind n ih =>
    subst hn
    have hk : 0 < here.command.args.length := List.length_pos_of_ne_nil hargs
    have hpos : 0 < values.length := List.length_pos_of_ne_nil hsome
    by_cases hfit : values.length ≤ here.command.args.length
    · -- The first round.
      have hplace : (values.length - 1) % here.command.args.length + 1 = values.length := by
        rw [Nat.mod_eq_of_lt (by omega)]
        omega
      rw [hplace]
      exact walk_singles roots here hplain hsingle hvalues hfit rest
    · -- A round is complete and another begins.
      have hmore : here.command.args.length < values.length := Nat.lt_of_not_le hfit
      obtain ⟨first, later, rfl, hround⟩ :
          ∃ first later, values = first ++ later ∧ first.length = here.command.args.length :=
        ⟨values.take here.command.args.length, values.drop here.command.args.length,
          (List.take_append_drop _ values).symm, List.length_take_of_le (Nat.le_of_lt hmore)⟩
      obtain ⟨hfirst, hlater⟩ := List.forall_mem_append.mp hvalues
      rw [List.length_append] at hmore ⊢
      have hleft : later ≠ [] := by
        rintro rfl
        rw [List.length_nil] at hmore
        omega
      have hplace : (first.length + later.length - 1) % here.command.args.length =
          (later.length - 1) % here.command.args.length := by
        have hlen : first.length + later.length - 1 =
            (later.length - 1) + here.command.args.length := by omega
        rw [hlen, Nat.add_mod_right]
      have hnext := @ih later.length (by rw [List.length_append]; omega) (here.acceptAll first)
        later (gathered_acceptAll hgathered first) hargs hplain hsingle hleft hlater rfl
      rw [List.append_assoc, walk_round roots hgathered hargs hplain hsingle hfirst hround hleft
        hlater rest, hplace, Level.acceptAll_append]
      exact hnext

end Rounds

/-! ## Where nothing is expected -/

section Places

variable {n k : Nat}

/-- After complete rounds the last value is that of the last argument. -/
theorem place_of_dvd (hn : 0 < n) (h : k ∣ n) : (n - 1) % k + 1 = k := by
  obtain ⟨m, rfl⟩ := h
  have hk : 0 < k := Nat.pos_of_mul_pos_right hn
  obtain ⟨rounds, rfl⟩ := Nat.exists_eq_add_one.mpr (Nat.pos_of_mul_pos_left hn)
  have hlast : k * (rounds + 1) - 1 = (k - 1) + k * rounds := by
    rw [Nat.mul_add_one]
    omega
  rw [hlast, Nat.add_mul_mod_self_left, Nat.mod_eq_of_lt (by omega)]
  omega

/-- Within a round as many arguments are used up as values were taken. -/
theorem place_of_not_dvd (hk : 0 < k) (h : ¬ k ∣ n) : (n - 1) % k + 1 = n % k := by
  have hpos : 0 < n % k := Nat.pos_of_ne_zero fun hzero => h (Nat.dvd_of_mod_eq_zero hzero)
  have hlt : n % k < k := Nat.mod_lt n hk
  have hlast : n - 1 = (n % k - 1) + k * (n / k) := by
    have hsplit := Nat.mod_add_div n k
    omega
  rw [hlast, Nat.add_mul_mod_self_left, Nat.mod_eq_of_lt (by omega)]
  omega

end Places

/-- Nothing is left of candidates that are all withheld, and of nothing else. -/
theorem distinct_eq_nil_iff {accepted : List Accepted} {cs : List Candidate} :
    distinct accepted cs = [] ↔ ∀ cand ∈ cs, cand.name ∈ accepted.map (·.text) := by
  rw [← List.map_eq_nil_iff (f := (·.name)), List.eq_nil_iff_forall_not_mem]
  simp only [mem_distinct_iff, not_and, not_not]
  exact List.forall_mem_map

/-- An argument shows neither candidates nor a hint if it has no name and all that is contributed
for it was typed already. -/
theorem offerOf_eq_empty_iff {a : Arg} {others : List Arg} {ofOption bound : Bool}
    {contributed : List Candidate} :
    (Position.atArg here a others ofOption bound).offerOf contributed = {} ↔
      a.name = "" ∧ ∀ cand ∈ contributed, cand.name ∈ here.accepted.map (·.text) := by
  rw [← distinct_eq_nil_iff]
  unfold Position.offerOf Position.hint
  dsimp only [Position.level]
  cases hleft : distinct here.accepted contributed with
  | nil => simp
  | cons cand rest => simp

/-- The same for what is answered there. -/
theorem answer_atArg_eq_empty_iff {a : Arg} {others : List Arg} {ofOption bound : Bool}
    {roots : Roots} {typed : Option String} {context : Context} {memory : Memory} :
    (((Position.atArg here a others ofOption bound).offer roots typed).answer context memory).1 =
        .ok {} ↔
      ∃ contributed, a.name = "" ∧
        (((Position.atArg here a others ofOption bound).contributed roots typed).answer
          context memory).1 = .ok contributed ∧
        ∀ cand ∈ contributed, cand.name ∈ here.accepted.map (·.text) := by
  constructor
  · intro hempty
    obtain ⟨contributed, hanswer, hoffer⟩ := exists_contributed hempty
    obtain ⟨hname, htyped⟩ := offerOf_eq_empty_iff.mp hoffer
    exact ⟨contributed, hname, hanswer, htyped⟩
  · rintro ⟨contributed, hname, hanswer, htyped⟩
    have hoffer : (Position.atArg here a others ofOption bound).offerOf contributed = {} :=
      offerOf_eq_empty_iff.mpr ⟨hname, htyped⟩
    rw [offer_eq_contributed, Query.answer_bind_pure_of_ok hanswer, hoffer]

/-- **After which numbers of values nothing is expected.** None of the arguments of a command is
variadic or a command, and after its name come `n` values, and then nothing or a token that is still
typed. With `k` arguments the last value is that of the argument at place `(n - 1) % k`, and the
ones behind it are left. So if `k` divides `n` the arguments are used up, and there is neither a
candidate nor a hint. Otherwise the argument at place `n % k` is expected, and there is neither only
if it has no name and everything that is contributed for it was typed already. -/
theorem surplus_values_iff (c : Command) (roots : Roots) (values : List Token)
    (last : Option Token) (hargs : c.args ≠ []) (hplain : ∀ a ∈ c.args, a.command = false)
    (hsingle : ∀ a ∈ c.args, a.variadic = false) (hsome : values ≠ [])
    (hvalues : ∀ t ∈ values, c.IsValue t) (hlast : ∀ t ∈ last, t.complete = false) :
    let n := values.length
    let k := c.args.length
    let here : Level :=
      { command := c
        inForce := mergePersistent [] c.options
        accepted := values.map fun t => { text := t.text, persist := false } }
    let tokens := values ++ last.toList
    let typed := last.map (·.text)
    c.walk roots.lookup tokens =
      .reached (.before here (c.args.drop ((n - 1) % k + 1)) false false) typed ∧
    ∀ context memory, ((c.offer roots tokens).answer context memory).1 = .ok {} ↔
      k ∣ n ∨ ∃ a others contributed, c.args.drop (n % k) = a :: others ∧ a.name = "" ∧
        (((Position.atArg here a others false false).contributed roots typed).answer
          context memory).1 = .ok contributed ∧
        ∀ cand ∈ contributed, cand.name ∈ values.map (·.text) := by
  intro n k here tokens typed
  have hwalk : c.walk roots.lookup tokens =
      .reached (.before here (c.args.drop ((n - 1) % k + 1)) false false) typed := by
    rw [walk_of_values roots.lookup hsome hvalues hargs, ← walk_of_last roots.lookup hlast]
    exact walk_rounds roots.lookup (gathered_of_merged rfl) hargs hplain hsingle hsome hvalues _
  refine ⟨hwalk, fun context memory => ?_⟩
  have hn : 0 < n := List.length_pos_of_ne_nil hsome
  have hk : 0 < k := List.length_pos_of_ne_nil hargs
  by_cases hround : k ∣ n
  · rw [place_of_dvd hn hround, List.drop_length] at hwalk
    rw [Command.offer_of_walk hwalk]
    exact ⟨fun _ => .inl hround, fun _ => rfl⟩
  · have hlt : n % k < c.args.length := Nat.mod_lt n hk
    rw [place_of_not_dvd hk hround, List.drop_eq_getElem_cons hlt] at hwalk
    have htexts : here.accepted.map (·.text) = values.map (·.text) := by
      rw [List.map_map]
      rfl
    rw [Command.offer_of_walk hwalk, or_iff_right hround, ← htexts, Position.before,
      answer_atArg_eq_empty_iff]
    constructor
    · rintro ⟨contributed, hempty⟩
      exact ⟨_, _, contributed, List.drop_eq_getElem_cons hlt, hempty⟩
    · rintro ⟨a, others, contributed, hleft, hempty⟩
      obtain ⟨rfl, rfl⟩ := List.cons.inj ((List.drop_eq_getElem_cons hlt).symm.trans hleft)
      exact ⟨contributed, hempty⟩

/-- A command that moves a file to another place. -/
def moveCommand : Command where
  names := ["move"]
  args := [{ name := "source" }, { name := "target" }]

/-- Some words that are typed after `move`. -/
def movedWords (texts : List String) : List Token :=
  texts.map fun text => { text, complete := true, isOption := false, rawLength := text.length }

theorem isValue_movedWords {texts : List String} : ∀ t ∈ movedWords texts, moveCommand.IsValue t := by
  intro t ht
  obtain ⟨text, -, rfl⟩ := List.mem_map.mp ht
  exact ⟨rfl, rfl, rfl⟩

/-- After `move a b c d` two rounds are complete, and nothing is expected. -/
theorem surplus_values_iff_move :
    (∀ t ∈ movedWords ["a", "b", "c", "d"], moveCommand.IsValue t) ∧
    ∀ context memory,
      ((moveCommand.offer {} (movedWords ["a", "b", "c", "d"])).answer context memory).1 =
        .ok {} := by
  obtain ⟨-, hempty⟩ := surplus_values_iff moveCommand {} (movedWords ["a", "b", "c", "d"]) none
    (by decide) (by decide) (by decide) (by decide) isValue_movedWords nofun
  rw [Option.toList_none, List.append_nil] at hempty
  exact ⟨isValue_movedWords, fun context memory => (hempty context memory).mpr (.inl (by decide))⟩

/-- **A third value for two arguments** has the second argument expected again: after `move a b c` the
hint is `target`. -/
theorem surplus_value_expected :
    moveCommand.args.length = 2 ∧ (∀ a ∈ moveCommand.args, a.variadic = false ∧ a.command = false) ∧
    (∀ t ∈ movedWords ["a", "b", "c"], moveCommand.IsValue t) ∧
    ∀ context memory, ((moveCommand.offer {} (movedWords ["a", "b", "c"])).answer context memory).1 =
      .ok { candidates := [], hint := "target" } :=
  ⟨rfl, by decide, isValue_movedWords, fun context memory => by rfl⟩

end TabCompletion
