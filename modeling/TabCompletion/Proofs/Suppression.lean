import TabCompletion.Proofs.Distinct
import TabCompletion.Proofs.Offer
import TabCompletion.Proofs.Registry
import TabCompletion.Proofs.Resolve
import TabCompletion.Proofs.Walk.Accepted

/-!
# Nothing is offered twice

What was typed as an option or a value is not offered again, nor is one name offered twice. The
sources of a line contribute candidates (`Registry.contributed`); of these the offer keeps, in their
order, the first of every name that is not withheld.

Results:
* **`suppression`**: which candidates of a line are offered, each once and in which order.
  `keepsFirst_of_stop` says so where the walk of a command ends, `keepsFirst_of_tokens` for the
  tokens of a line.
* `value_offered_below`: a value that was typed further up is offered again, even if it has the name
  of a persistent option. Only what was read as an option is kept on the way down.
-/

namespace TabCompletion

variable {context : Context} {memory : Memory}

/-! ## What is contributed and what is withheld -/

/-- What the sources contribute where a walk ends. -/
def Stop.contributed (stop : Stop) (roots : Roots) : Query (List Candidate) :=
  match stop with
  | .nowhere | .noToken => pure []
  | .reached p typed => p.contributed roots typed

namespace Registry

/-- What the sources contribute for the tokens of a line: root commands while the first token is
typed, after that what the grammar of the command has where the walk ends. -/
def contributed (reg : Registry) : List Token → Query (List Candidate)
  | [] => pure []
  | first :: rest => do
    if first.complete then
      match reg.lookup first.text with
      | some c => (c.walk reg.lookup rest).contributed reg.roots
      | none => pure []
    else pure (reg.candidates (← read).settings (some first.text) .unset)

/-- The names that are not offered again for the tokens of a line. -/
def Withholds (reg : Registry) (tokens : List Token) (name : String) : Prop :=
  ∃ first rest c, tokens = first :: rest ∧ first.complete = true ∧
    reg.lookup first.text = some c ∧ Withheld c (c.reads reg.lookup rest) name

theorem withholds_iff {reg : Registry} {first : Token} {rest : List Token} {c : Command}
    {name : String} (hc : first.complete = true) (hlookup : reg.lookup first.text = some c) :
    reg.Withholds (first :: rest) name ↔ Withheld c (c.reads reg.lookup rest) name := by
  refine ⟨?_, fun h => ⟨first, rest, c, rfl, hc, hlookup, h⟩⟩
  rintro ⟨first', rest', c', htokens, -, hlookup', h⟩
  cases htokens
  rw [hlookup] at hlookup'
  cases hlookup'
  exact h

end Registry

/-! ## What is offered of it -/

/-- The offer where the walk of a command ends, from what the sources contribute there. -/
theorem keepsFirst_of_stop {c : Command} {roots : Roots} {tokens : List Token} {offer : Offer}
    (h : ((c.offer roots tokens).answer context memory).1 = .ok offer) :
    ∃ contributed,
      (((c.walk roots.lookup tokens).contributed roots).answer context memory).1 =
        .ok contributed ∧
      KeepsFirst (Withheld c (c.reads roots.lookup tokens)) contributed offer.candidates := by
  unfold Command.offer at h
  cases hstop : c.walk roots.lookup tokens with
  | nowhere | noToken =>
    rw [hstop] at h
    obtain rfl := Except.ok.inj h
    exact ⟨[], rfl, keepsFirst_nil _⟩
  | reached p typed =>
    rw [hstop] at h
    obtain ⟨contributed, hcontributed, rfl⟩ := exists_contributed h
    exact ⟨contributed, hcontributed,
      keepsFirst_distinct (fun name => withheld_iff_of_walk hstop) contributed⟩

/-- The offer for the tokens of a line, from what the sources contribute for them. -/
theorem keepsFirst_of_tokens {commands : List Command} {tokens : List Token} {offer : Offer}
    (h : (((Registry.ofCommands commands).offerForTokens tokens).answer context memory).1 =
      .ok offer) :
    ∃ contributed,
      (((Registry.ofCommands commands).contributed tokens).answer context memory).1 =
        .ok contributed ∧
      KeepsFirst ((Registry.ofCommands commands).Withholds tokens) contributed
        offer.candidates := by
  let reg := Registry.ofCommands commands
  cases tokens with
  | nil =>
    obtain rfl := Except.ok.inj h
    exact ⟨[], rfl, keepsFirst_nil _⟩
  | cons first rest =>
    unfold Registry.offerForTokens at h
    unfold Registry.contributed
    dsimp only at h ⊢
    cases hc : first.complete with
    | false =>
      rw [hc, if_neg Bool.false_ne_true] at h
      rw [if_neg Bool.false_ne_true]
      obtain rfl := Except.ok.inj h
      refine ⟨_, rfl, keepsFirst_self ?_ (Registry.nodup_candidates commands _ _ _)⟩
      rintro name ⟨first', rest', c, htokens, hcomplete, -⟩
      cases htokens
      exact Bool.false_ne_true (hc.symm.trans hcomplete)
    | true =>
      rw [hc, if_pos rfl] at h
      rw [if_pos rfl]
      cases hlookup : (Registry.ofCommands commands).lookup first.text with
      | none =>
        rw [hlookup] at h
        obtain rfl := Except.ok.inj h
        exact ⟨[], rfl, keepsFirst_nil _⟩
      | some c =>
        rw [hlookup] at h
        have hwithheld : (Registry.ofCommands commands).Withholds (first :: rest) =
            Withheld c (c.reads (Registry.ofCommands commands).lookup rest) :=
          funext fun name => propext (Registry.withholds_iff hc hlookup)
        rw [hwithheld]
        exact keepsFirst_of_stop h

/-- **What a line offers** is, of the candidates that its sources contribute, the first of every
name that is not withheld, each once and in the order in which they came. Withheld are the options
and values that were typed since a command was entered, and the options before them that named a
persistent option in force, back to the last nested command. The offer fails exactly where a source
does. -/
theorem suppression (commands : List Command) (line : String) (context : Context)
    (memory : Memory) :
    let reg := Registry.ofCommands commands
    ((reg.offerFor line).Fails context memory ↔
      reg.Faulty context memory.listings (tokens line)) ∧
    ∀ offer replaced, ((reg.offerFor line).answer context memory).1 = .ok (offer, replaced) →
      ∃ contributed, ((reg.contributed (tokens line)).answer context memory).1 = .ok contributed ∧
        KeepsFirst (reg.Withholds (tokens line)) contributed offer.candidates := by
  intro reg
  refine ⟨offerFor_fails_iff, fun offer replaced h => ?_⟩
  obtain ⟨offer', hoffer, heq⟩ := Query.exists_answer_of_bind_pure h
  cases heq
  exact keepsFirst_of_tokens hoffer

/-- A command with a persistent option, an option that takes a value, and children. -/
def flagged : Command where
  names := ["tool"]
  options := [
    { names := ["-m"], args := [{ name := "message" }] },
    { names := ["--verbose", "-v"], persistent := true }]
  children := [
    { names := ["build"], options := [{ names := ["--release"] }] },
    { names := ["test"]
      args := [
        { name := "suite", optional := true
          values := [{ name := "fast" }, { name := "fast" }, { name := "-v" }] }] }]

/-- After `tool -v test` the value `fast` is offered once, and `-v` is not offered as a value. -/
theorem suppression_flagged :
    let reg := Registry.ofCommands [flagged]
    let line := "tool -v test "
    let context : Context := { host := { home := "/", workingDir := { path := "/" } } }
    let fast : Candidate := { name := "fast", kind := .arg }
    let short : Candidate := { name := "-v", kind := .arg }
    ((reg.offerFor line).answer context {}).1 = .ok ({ candidates := [fast] }, 0) ∧
    ((reg.contributed (tokens line)).answer context {}).1 = .ok [fast, fast, short] ∧
    KeepsFirst (reg.Withholds (tokens line)) [fast, fast, short] [fast] := by
  intro reg line context fast short
  have h_offer : ((reg.offerFor line).answer context {}).1 = .ok ({ candidates := [fast] }, 0) := by
    decide
  have h_contributed : ((reg.contributed (tokens line)).answer context {}).1 =
      .ok [fast, fast, short] := by
    decide
  obtain ⟨contributed, h, hkeeps⟩ := (suppression [flagged] line context {}).2 _ _ h_offer
  obtain rfl := Except.ok.inj (h_contributed.symm.trans h)
  exact ⟨h_offer, h_contributed, hkeeps⟩

/-- **A value further up does not count.** After `tool -m --verbose build` the option `--verbose`
is offered, though a token with that name was read while the option was in force: as the value of
`-m`. -/
theorem value_offered_below :
    let reg := Registry.ofCommands [flagged]
    let line := "tool -m --verbose build "
    ∃ (offer : Offer) (before later : List Reading) (t : Token) (a : Arg),
      (∀ context memory, ((reg.offerFor line).answer context memory).1 = .ok (offer, 0)) ∧
      flagged.reads reg.lookup (tokens line).tail = before ++ .value t a :: later ∧
      (∀ r ∈ later, r.restarts = false) ∧
      isPersistentName t.text (inForceAlong (pathAfter flagged before)) = true ∧
      t.text ∈ offer.candidates.map (·.name) := by
  intro reg line
  let m : Token := { text := "-m", complete := true, isOption := true, rawLength := 2 }
  let verbose : Token := { text := "--verbose", complete := true, isOption := true, rawLength := 9 }
  let build : Token := { text := "build", complete := true, isOption := false, rawLength := 5 }
  have h_tokens : (tokens line).tail = [m, verbose, build] := by decide
  have h_start := @Reached.start reg.lookup flagged (tokens line).tail
  rw [h_tokens] at h_start
  have h_command := h_start.step (by rfl)
  have h_option := h_command.step (by rfl)
  have h_value := h_option.step (by rfl)
  have h_left := h_value.step (by rfl)
  have h_child := h_left.step (by rfl)
  have h_reads : flagged.reads reg.lookup (tokens line).tail =
      [.option m { names := ["-m"], args := [{ name := "message" }] } false] ++
        .value verbose { name := "message" } ::
          [.child build { names := ["build"], options := [{ names := ["--release"] }] }] := by
    rw [h_tokens, reads_of_reached h_child, run_of_stop (by rfl)]
    rfl
  have h_offer : ∀ context memory,
      (((Registry.ofCommands [flagged]).offerFor "tool -m --verbose build ").answer
        context memory).1 = .ok ({ candidates := [
          { name := "--release", kind := .option },
          { name := "--verbose", kind := .option }] }, 0) :=
    fun context memory => by rfl
  refine ⟨_, _, _, _, _, h_offer, h_reads, ?_, by decide, by decide⟩
  intro r hr
  obtain rfl := List.mem_singleton.mp hr
  rfl

end TabCompletion
