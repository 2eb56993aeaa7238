import TabCompletion.Grammar.Shipped
import TabCompletion.Proofs.Engine
import TabCompletion.Proofs.Offer
import TabCompletion.Proofs.Query.Sources
import TabCompletion.Proofs.ReachableSettings

/-!
# Lines that are not answered

A line that is not answered from the slot is read, walked and offered for. Reading and walking do
not fail, and what cannot be known is passed over: an unknown command, an unknown token, a script
that fails, a directory that is missing. What is left are the sources of the one argument that is
asked for values where the walk stops.

* `offer_fails_iff`, `stopOffer_fails_iff`: the same at a position and where a walk ends.
* `answer_fails_iff`: the answer to a line fails where its offer does, if every candidate has an
  icon.
* **`resolve_fails_iff`**: exactly when a line is not answered, in any settings that configurations
  lead to.
* `loop_not_resolved`: a loop of links is such a case.
* `ask_fails_of_refused`: so is an argument with a script that no host can run.
-/

namespace TabCompletion

variable {context : Context} {memory : Memory}

/-- The walk stops where an argument is asked for values that has a source which fails. -/
def Stop.Faulty (stop : Stop) (context : Context) (known : Listings) : Prop :=
  ∃ p typed a, stop = .reached p typed ∧ p.asked? = some a ∧ a.Faulty context known typed

/-- The tokens of a line lead to such a place. -/
def Registry.Faulty (reg : Registry) (context : Context) (known : Listings) (tokens : List Token) :
    Prop :=
  ∃ first rest c, tokens = first :: rest ∧ first.complete = true ∧
    reg.lookup first.text = some c ∧ (c.walk reg.lookup rest).Faulty context known

/-- **When the offer at a position fails.** -/
theorem offer_fails_iff {p : Position} {roots : Roots} {typed : Option String} :
    (p.offer roots typed).Fails context memory ↔
      ∃ a, p.asked? = some a ∧ a.Faulty context memory.listings typed := by
  rw [offer_eq, Query.fails_read_bind, Query.fails_bind_of_never fun _ _ => Query.fails_pure _]
  unfold Position.values
  cases p.asked? with
  | none => exact ⟨nofun, nofun⟩
  | some a =>
    dsimp only
    rw [argCandidates_fails_iff]
    simp

/-- When the offer where a walk ends fails. -/
theorem stopOffer_fails_iff {stop : Stop} {roots : Roots} :
    (stop.offer roots).Fails context memory ↔ stop.Faulty context memory.listings := by
  cases stop with
  | nowhere =>
    refine ⟨fun h => absurd h (Query.fails_pure _), ?_⟩
    rintro ⟨p, typed, a, hstop, -⟩
    cases hstop
  | noToken =>
    refine ⟨fun h => absurd (Query.fails_log_bind.mp h) (Query.fails_pure _), ?_⟩
    rintro ⟨p, typed, a, hstop, -⟩
    cases hstop
  | reached p typed =>
    refine offer_fails_iff.trans ⟨?_, ?_⟩
    · rintro ⟨a, ha, hfaulty⟩
      exact ⟨p, typed, a, rfl, ha, hfaulty⟩
    · rintro ⟨p', typed', a, hstop, ha, hfaulty⟩
      cases hstop
      exact ⟨a, ha, hfaulty⟩

theorem offerForTokens_fails_iff {reg : Registry} {tokens : List Token} :
    (reg.offerForTokens tokens).Fails context memory ↔
      reg.Faulty context memory.listings tokens := by
  unfold Registry.offerForTokens Registry.Faulty
  cases tokens with
  | nil => exact ⟨nofun, nofun⟩
  | cons first rest =>
    dsimp only
    cases hc : first.complete with
    | false =>
      refine ⟨nofun, ?_⟩
      rintro ⟨first', rest', c, htokens, hcomplete, -⟩
      cases htokens
      rw [hc] at hcomplete
      cases hcomplete
    | true =>
      rw [if_pos rfl]
      cases hlookup : reg.lookup first.text with
      | none =>
        refine ⟨nofun, ?_⟩
        rintro ⟨first', rest', c, htokens, -, hfound, -⟩
        cases htokens
        rw [hlookup] at hfound
        cases hfound
      | some c =>
        dsimp only
        rw [Command.offer, stopOffer_fails_iff]
        constructor
        · intro hfaulty
          exact ⟨first, rest, c, rfl, hc, hlookup, hfaulty⟩
        · rintro ⟨first', rest', c', htokens, -, hfound, hfaulty⟩
          cases htokens
          rw [hlookup] at hfound
          cases hfound
          exact hfaulty

/-- When the offer for a line fails. -/
theorem offerFor_fails_iff {reg : Registry} {line : String} :
    (reg.offerFor line).Fails context memory ↔
      reg.Faulty context memory.listings (tokens line) := by
  unfold Registry.offerFor
  rw [Query.fails_bind_of_never fun _ _ => Query.fails_pure _, offerForTokens_fails_iff]

/-- Candidates are made ready for display, if the settings have an icon for every kind. -/
theorem mapM_ofCandidate {settings : Settings} (h : settings.Reachable) (cs : List Candidate) :
    ∃ suggestions, cs.mapM (Suggestion.ofCandidate settings) = .ok suggestions := by
  induction cs with
  | nil => exact ⟨[], rfl⟩
  | cons c cs ih =>
    obtain ⟨suggestions, hrest⟩ := ih
    obtain ⟨icon, hicon⟩ := h.icon c.kind.word
    refine ⟨{ name := c.name, icon, description := c.description } :: suggestions, ?_⟩
    rw [List.mapM_cons, hrest]
    unfold Suggestion.ofCandidate
    rw [hicon]
    rfl

/-- **When the answer to a line fails.** -/
theorem answer_fails_iff (reg : Registry) (hs : context.settings.Reachable) (line : String) :
    (reg.answer line).Fails context memory ↔
      reg.Faulty context memory.listings (tokens line) := by
  unfold Registry.answer
  refine (Query.fails_bind_of_never fun found after => ?_).trans ?_
  · obtain ⟨offer, replaced⟩ := found
    obtain ⟨suggestions, hmap⟩ := mapM_ofCandidate hs offer.candidates
    dsimp only
    rw [Query.fails_read_bind, hmap]
    exact Query.fails_pure _
  · exact offerFor_fails_iff

/-- When an engine does not answer a line: it does not keep the answer, and computing it fails. -/
theorem ask_fails_iff (reg : Registry) (context : Context) (e : Engine) (line : String) :
    (∃ f, (e.ask reg context line).1 = .error f) ↔
      e.slot.get? line = none ∧ (reg.answer line).Fails context e.memory := by
  rw [ask_eq]
  unfold Query.Fails
  cases e.slot.get? line with
  | some a => exact ⟨nofun, nofun⟩
  | none =>
    dsimp only
    rw [and_iff_right rfl]
    rcases (reg.answer line).answer context e.memory with ⟨_ | a, memory⟩ <;> rfl

/-- **Exactly when a line is not answered**, in settings that configurations lead to: the slot does
not have it, its command is known, and its walk stops where an argument is asked for values that
has a source which fails. Either its generator runs a script that cannot be run, waited for or read,
or one that ends well, to cut the output at a value that is no text. Or it takes paths, and the
working directory was removed, or the typed path has a null character, or opening its directory
meets a fault other than that it is missing, no directory, or denied. Every other line is
answered. -/
theorem resolve_fails_iff (reg : Registry) (context : Context) (e : Engine)
    (hs : context.settings.Reachable) (line : String) :
    (∃ f, (e.ask reg context line).1 = .error f) ↔
      e.slot.get? line = none ∧ reg.Faulty context e.memory.listings (tokens line) := by
  rw [ask_fails_iff, answer_fails_iff reg hs]

/-- In a working directory that was removed `cd` is not answered. -/
theorem resolve_fails_removed :
    Settings.Reachable {} ∧
    ∃ f, (Engine.ask (Registry.ofCommands Shipped.commands)
      { host := { home := "/", workingDir := { path := "/work", removed := true } } } {}
      "cd ").1 = .error f := by
  refine ⟨.defaults, (resolve_fails_iff _ _ {} .defaults "cd ").mpr ⟨rfl, ?_⟩⟩
  refine ⟨_, [], Shipped.cd, rfl, rfl, rfl, .atCommand { command := Shipped.cd } false false, none, _,
    rfl, rfl, .inr ⟨?_, .inl rfl⟩⟩
  exact List.cons_ne_nil _ _

/-- A disk on which a link in the root leads to itself. -/
def loopDisk : Disk := { nodes := [(["l"], { entry := .link "l", modified := 0 })] }

/-- However many links are followed, the next one is the same. -/
theorem walk_loop (links : Nat) :
    loopDisk.walk true links [] ["l", ""] = .error .linkLoop := by
  have hroot : loopDisk.node? [] = some { entry := .directory, modified := 0 } := rfl
  have hlink : loopDisk.node? ["l"] = some { entry := .link "l", modified := 0 } := rfl
  have hname : ¬ Disk.maxNameBytes < "l".utf8ByteSize := by decide
  have hparts : Path.parts "l" ++ [""] = ["l", ""] := rfl
  have hrelative : Path.isAbsolute "l" = false := rfl
  induction links with
  | zero =>
    rw [Disk.walk, hroot]
    simp [hlink, hname]
  | succ links ih =>
    rw [Disk.walk, hroot]
    simp [hlink, hname, hparts, hrelative, ih]

theorem entries_loop : loopDisk.entries { path := "/" } "/l/" = .error .linkLoop := by
  have hway : Disk.way { path := "/" } "/l/" = .ok ([], ["", "l", ""]) := by rfl
  have hroot : loopDisk.node? [] = some { entry := .directory, modified := 0 } := rfl
  unfold Disk.entries Disk.locate
  rw [hway]
  simp only [bind, Except.bind]
  rw [Disk.walk, hroot]
  simp [walk_loop]

/-- **A loop of links** in the directory of a typed path is not answered. -/
theorem loop_not_resolved :
    ∃ f, (Engine.ask (Registry.ofCommands Shipped.commands)
      { host := { disk := loopDisk, home := "/", workingDir := { path := "/" } } } {}
      "cd l/").1 = .error f := by
  refine (ask_fails_iff _ _ {} "cd l/").mpr ⟨rfl, (answer_fails_iff _ .defaults "cd l/").mpr ?_⟩
  refine ⟨_, _, Shipped.cd, rfl, rfl, rfl, .atCommand { command := Shipped.cd } false false,
    some "l/", _, rfl, rfl, .inr ⟨?_, .inr (.inr ⟨"/l/", rfl, .inr ⟨?_, .linkLoop, ?_, rfl⟩⟩)⟩⟩
  · exact List.cons_ne_nil _ _
  · rintro ⟨time, l, -, hknown⟩
    cases hknown
  · exact entries_loop

/-- **A script that no host can run** is no degradation: where the argument that is asked for values
has a generator with such a script, the line is not answered. -/
theorem ask_fails_of_refused {reg : Registry} {e : Engine} {line : String} {first : Token}
    {rest : List Token} {c : Command} {p : Position} {typed : Option String} {a : Arg}
    {g : Generator} {s : Script} {fault : ScriptFault} (hs : context.settings.Reachable)
    (hhost : context.host.Refuses) (hslot : e.slot.get? line = none)
    (htokens : tokens line = first :: rest) (hc : first.complete = true)
    (hlookup : reg.lookup first.text = some c)
    (hwalk : c.walk reg.lookup rest = .reached p typed) (ha : p.asked? = some a)
    (hg : a.generator = some g) (hprovider : g.provider = none) (hscript : g.script = some s)
    (hrefused : s.refusal? = some fault) :
    ∃ f, (e.ask reg context line).1 = .error f := by
  have hfaulty : g.Faulty context := faulty_of_refused hhost hprovider hscript hrefused
  refine (ask_fails_iff reg context e line).mpr ⟨hslot, (answer_fails_iff reg hs line).mpr ?_⟩
  exact ⟨first, rest, c, htokens, hc, hlookup, p, typed, a, hwalk, ha, .inl ⟨g, hg, hfaulty⟩⟩

/-- A grammar is read with an empty list for a script, and the value of its argument is not
answered. -/
example :
    let written : Json := .object [("name", .text "tool"),
      ("args", .object [("generator", .object [("script", .list [])])])]
    ∃ tool, Command.ofJson written = .ok tool ∧
      (Engine.ask (Registry.ofCommands [tool])
        { host := { home := "/", workingDir := { path := "/" } } } {} "tool ").1 =
        .error (.script .noProgram) :=
  ⟨_, by rfl, by rfl⟩

end TabCompletion
