import TabCompletion.Proofs.Distinct
import TabCompletion.Proofs.EachArg
import TabCompletion.Proofs.Query.Alike
import TabCompletion.Proofs.Walk.Handlers

/-!
# The order of flags

Flags are options without arguments. They lead back to the command, so the ones that stand next to
each other can be typed in any order: the same tokens are accepted, in another order. Of what is
accepted the walk only asks what persists, and an offer only asks what is there. What could tell two
orders apart is a function that is called with the accepted tokens. The lists of processes are called
with them too, but do not look at them.

Results:
* `reordered_step`: two positions that differ in the order of what is accepted read a token alike.
* **`reordered_walk`**: so do their walks, by induction on the tokens.
* `argCandidates_alike`, **`offer_reordered`**: without such functions they offer the same.
* `walk_flags`: any number of flags leads back to the command.
* **`flag_order`**: after flags in another order the same is offered, whatever follows.
-/

namespace TabCompletion

/-! ## Walks side by side -/

/-- Levels that differ at most in the order of the accepted tokens. -/
structure Level.Reordered (here there : Level) : Prop where
  command : here.command = there.command
  inForce : here.inForce = there.inForce
  accepted : here.accepted.Perm there.accepted

/-- The same place at such levels. -/
inductive Position.Reordered : Position → Position → Prop
  | atCommand {here there depleted positional} (h : Level.Reordered here there) :
      Reordered (.atCommand here depleted positional) (.atCommand there depleted positional)
  | atArg {here there a others ofOption bound} (h : Level.Reordered here there) :
      Reordered (.atArg here a others ofOption bound) (.atArg there a others ofOption bound)

/-- The same move to such places. -/
inductive Move.Reordered : Move → Move → Prop
  | unknown : Reordered .unknown .unknown
  | next {p q} (h : Position.Reordered p q) : Reordered (.next p) (.next q)
  | nested {p q} (h : Position.Reordered p q) : Reordered (.nested p) (.nested q)

/-- The same end at such places. -/
inductive Stop.Reordered : Stop → Stop → Prop
  | nowhere : Reordered .nowhere .nowhere
  | noToken : Reordered .noToken .noToken
  | reached {p q typed} (h : Position.Reordered p q) :
      Reordered (.reached p typed) (.reached q typed)

section Walk

variable {here there : Level} (h : here.Reordered there)

include h

theorem options_reordered : here.options = there.options := by
  unfold Level.options
  rw [h.command, h.inForce]

theorem gathered_reordered : here.gathered.Reordered there.gathered := by
  refine ⟨h.command, ?_, h.accepted⟩
  unfold Level.gathered
  rw [h.command, h.inForce]

theorem accept_reordered (text : String) (persist : Bool) :
    (here.accept text persist).Reordered (there.accept text persist) :=
  ⟨h.command, h.inForce, h.accepted.append_right _⟩

theorem before_reordered (args : List Arg) (ofOption bound : Bool) :
    (Position.before here args ofOption bound).Reordered
      (Position.before there args ofOption bound) := by
  cases args with
  | nil => exact .atCommand h
  | cons a others => exact .atArg h

theorem descend_reordered (d : Command) : (here.descend d).Reordered (there.descend d) :=
  .atCommand ⟨rfl, h.inForce, h.accepted.filter _⟩

theorem afterOption_reordered (o : Opt) (text : String) :
    (here.afterOption o text).Reordered (there.afterOption o text) := by
  have hafter := accept_reordered h text (isPersistentName text there.inForce)
  unfold Level.afterOption
  rw [h.inForce]
  cases o.args with
  | nil => exact .atCommand hafter
  | cons a others => exact .atArg hafter

theorem escape_reordered (t : Token) :
    Option.Rel Move.Reordered (here.escape? t) (there.escape? t) := by
  unfold Level.escape?
  rw [options_reordered h, h.command]
  cases t.isOption with
  | true =>
    rw [if_pos rfl, if_pos rfl]
    cases Opt.find? t.text there.options with
    | some o => exact .some (.next (afterOption_reordered h o t.text))
    | none => exact .some .unknown
  | false =>
    rw [if_neg Bool.false_ne_true, if_neg Bool.false_ne_true]
    cases there.command.child? t.text with
    | some d => exact .some (.next (descend_reordered h d))
    | none => exact .none

variable (roots : String → Option Command)

/-- A nested command is entered with nothing accepted. -/
theorem nested_reordered (name : String) :
    (here.nested roots name).Reordered (there.nested roots name) := by
  unfold Level.nested
  rw [h.command]
  cases roots name with
  | some c => exact .nested (.atCommand ⟨rfl, rfl, .refl _⟩)
  | none =>
    cases there.command.child? name with
    | some d => exact .nested (.atCommand ⟨rfl, h.inForce, .refl _⟩)
    | none => exact .unknown

theorem takeValue_reordered (text : String) (a : Arg) (others : List Arg) (ofOption : Bool) :
    (here.takeValue roots text a others ofOption).Reordered
      (there.takeValue roots text a others ofOption) := by
  have hafter := accept_reordered h text false
  unfold Level.takeValue
  cases a.variadic with
  | true => exact .next (.atArg hafter)
  | false =>
    rw [if_neg Bool.false_ne_true, if_neg Bool.false_ne_true]
    cases a.command with
    | true => exact nested_reordered h roots text
    | false => exact .next (before_reordered hafter others ofOption false)

end Walk

variable (roots : String → Option Command)

/-- **One token** is read alike. -/
theorem reordered_step {p q : Position} (h : p.Reordered q) (t : Token) :
    (p.step roots t).Reordered (q.step roots t) := by
  cases h with
  | @atCommand here there depleted positional h =>
    have hgathered := gathered_reordered h
    have hescape := escape_reordered hgathered t
    unfold Position.step
    dsimp only
    rw [hgathered.command]
    generalize here.gathered.escape? t = m at hescape ⊢
    generalize there.gathered.escape? t = m' at hescape ⊢
    cases hescape with
    | some hm => exact hm
    | none =>
      cases there.gathered.command.args with
      | nil => exact .unknown
      | cons a others => exact takeValue_reordered hgathered roots t.text a others false
  | @atArg here there a others ofOption bound h =>
    have hvalue := takeValue_reordered h roots t.text a others ofOption
    have hescape := escape_reordered h t
    unfold Position.step
    dsimp only
    cases allOptional (a :: others) with
    | false => exact hvalue
    | true =>
      rw [if_pos rfl, if_pos rfl]
      generalize here.escape? t = m at hescape ⊢
      generalize there.escape? t = m' at hescape ⊢
      cases hescape with
      | some hm => exact hm
      | none => exact hvalue

/-- **Any number of tokens** are read alike. -/
theorem reordered_walk {p q : Position} (h : p.Reordered q) (tokens : List Token) :
    (walk roots p tokens).Reordered (walk roots q tokens) := by
  induction tokens generalizing p q with
  | nil => exact .reached h
  | cons t rest ih =>
    have hstep := reordered_step roots h t
    rw [walk, walk]
    cases t.complete with
    | false => exact .reached h
    | true =>
      rw [if_pos rfl, if_pos rfl]
      generalize p.step roots t = m at hstep ⊢
      generalize q.step roots t = m' at hstep ⊢
      cases hstep with
      | unknown => exact .nowhere
      | next hnext => exact ih hnext
      | nested hnext =>
        dsimp only
        cases rest.isEmpty with
        | true => exact .nowhere
        | false => exact ih hnext

/-! ## What is offered -/

/-- An argument whose generator, if it has one, calls no function of the accepted tokens. -/
def Arg.FunctionFree (a : Arg) : Prop :=
  ∀ g call, a.generator = some g → g.provider ≠ some (.custom call)

section Accepted

variable {accepted accepted' : List Accepted}

theorem call_alike {p : Provider} (hp : ∀ call, p ≠ .custom call) (texts texts' : List String) :
    (p.call texts).Alike (p.call texts') := by
  cases p with
  | processes | processNames =>
    exact Query.alike_read_bind fun _ =>
      Query.alike_bind (Query.alike_emit rfl) fun _ => Query.alike_pure _
  | custom call => exact absurd rfl (hp call)

theorem candidates_alike {g : Generator} (hg : ∀ call, g.provider ≠ some (.custom call))
    (texts texts' : List String) : (g.candidates texts).Alike (g.candidates texts') := by
  rw [candidates_eq, candidates_eq]
  cases hp : g.provider with
  | some p =>
    have hcustom : ∀ call, p ≠ .custom call := fun call heq => hg call (hp.trans (congrArg some heq))
    exact Query.alike_bind (call_alike hcustom texts texts') fun items =>
      (afterCall_brief items).alike
  | none =>
    cases g.script with
    | none => exact Query.alike_pure []
    | some s =>
      exact Query.alike_bind (output_alike g s) fun output => (afterOutput_brief g output).alike

theorem generated_alike {a : Arg} (ha : a.FunctionFree) (typed : Option String) (s : Strategy) :
    (a.generated typed s accepted).Alike (a.generated typed s accepted') := by
  unfold Arg.generated
  cases hg : a.generator with
  | none => exact Query.alike_pure []
  | some g =>
    have hcustom : ∀ call, g.provider ≠ some (.custom call) := fun call => ha g call hg
    exact Query.alike_read_bind fun _ =>
      Query.alike_bind (candidates_alike hcustom _ _) fun _ => Query.alike_pure _

/-- The values of an argument without a function are the same whatever is accepted. -/
theorem argCandidates_alike {a : Arg} (ha : a.FunctionFree) (roots : Roots)
    (typed : Option String) (s : Strategy) :
    (a.candidates roots typed s accepted).Alike (a.candidates roots typed s accepted') := by
  unfold Arg.candidates Arg.sourced
  refine Query.alike_read_bind fun _ => Query.alike_bind ?_ fun _ => Query.alike_pure _
  refine Query.alike_read_bind fun _ => Query.alike_bind (generated_alike ha typed s) fun _ => ?_
  exact Query.alike_bind (paths_alike a typed s) fun _ => Query.alike_pure _

theorem used_perm (h : accepted.Perm accepted') (o : Opt) : o.used accepted = o.used accepted' :=
  h.any_eq

theorem optionCandidates_perm (h : accepted.Perm accepted') (options : List Opt)
    (settings : Settings) (s : Strategy) (typed : Option String) :
    Opt.candidates options settings s typed accepted =
      Opt.candidates options settings s typed accepted' := by
  unfold Opt.candidates
  simp only [used_perm h]

end Accepted

section Offer

variable {p q : Position} (h : p.Reordered q)

include h

theorem level_reordered : p.level.Reordered q.level := by
  cases h with
  | atCommand h | atArg h => exact h

theorem asked_reordered : p.asked? = q.asked? := by
  cases h with
  | atCommand h =>
    unfold Position.asked?
    dsimp only
    rw [h.command]
  | atArg h => rfl

theorem strategy_reordered : p.strategy = q.strategy := by
  cases h with
  | atCommand h => exact congrArg Command.strategy h.command
  | atArg h => rfl

theorem offersNodes_reordered : p.offersNodes = q.offersNodes := by
  cases h <;> rfl

theorem hint_reordered : p.hint = q.hint := by
  cases h <;> rfl

/-- **Where no argument calls a function the offers are the same.** -/
theorem offer_reordered (hfree : p.EachArg Arg.FunctionFree) (roots : Roots)
    (typed : Option String) : (p.offer roots typed).Alike (q.offer roots typed) := by
  have hlevel := level_reordered h
  have hvalues : (p.values roots typed).Alike (q.values roots typed) := by
    unfold Position.values
    rw [← asked_reordered h, ← strategy_reordered h]
    cases ha : p.asked? with
    | none => exact Query.alike_pure []
    | some a => exact argCandidates_alike (hfree.of_asked ha) roots typed p.strategy
  have hchildren : p.childCandidates = q.childCandidates := by
    unfold Position.childCandidates
    rw [offersNodes_reordered h, strategy_reordered h, hlevel.command]
  have hoptions : p.optionCandidates = q.optionCandidates := by
    unfold Position.optionCandidates
    rw [offersNodes_reordered h, strategy_reordered h, options_reordered hlevel]
    simp only [optionCandidates_perm hlevel.accepted]
  rw [offer_eq, offer_eq, hchildren, hoptions, hint_reordered h]
  simp only [distinct_perm hlevel.accepted]
  exact Query.alike_read_bind fun _ => Query.alike_bind hvalues fun _ => Query.alike_pure _

end Offer

/-- The same for the end of a walk. -/
theorem stopOffer_reordered {stop stop' : Stop} (h : stop.Reordered stop') (roots : Roots)
    (hfree : ∀ p typed, stop = .reached p typed → p.EachArg Arg.FunctionFree) :
    (stop.offer roots).Alike (stop'.offer roots) := by
  cases h with
  | nowhere => exact Query.alike_pure _
  | noToken => exact (Query.Brief.noted _ _).alike
  | @reached p q typed h => exact offer_reordered h (hfree p typed rfl) roots typed

/-! ## Flags -/

/-- A complete token that names an option without arguments. -/
structure Level.IsFlag (here : Level) (t : Token) : Prop where
  complete : t.complete = true
  isOption : t.isOption = true
  found : ∃ o, Opt.find? t.text here.gathered.options = some o ∧ o.args = []

/-- The level after some flags, which are accepted in order. -/
def Level.acceptFlags (l : Level) (flags : List Token) : Level :=
  { l with
    accepted := l.accepted ++
      flags.map fun t => { text := t.text, persist := isPersistentName t.text l.inForce } }

theorem Level.acceptFlags_cons (l : Level) (t : Token) (flags : List Token) :
    l.acceptFlags (t :: flags) =
      (l.accept t.text (isPersistentName t.text l.inForce)).acceptFlags flags := by
  unfold Level.acceptFlags Level.accept
  rw [List.map_cons, List.append_cons]

theorem Level.acceptFlags_perm (l : Level) {flags flags' : List Token} (h : flags.Perm flags') :
    (l.acceptFlags flags).Reordered (l.acceptFlags flags') :=
  ⟨rfl, rfl, (h.map _).append_left l.accepted⟩

/-- A flag leads back to the command. -/
theorem walk_flag {here : Level} {t : Token} (ht : here.IsFlag t) (depleted positional : Bool)
    (rest : List Token) :
    walk roots (.atCommand here depleted positional) (t :: rest) =
      walk roots (.start
        (here.gathered.accept t.text (isPersistentName t.text here.gathered.inForce))) rest := by
  obtain ⟨o, ho, hargs⟩ := ht.found
  rw [walk_named_option ht.complete ht.isOption ho]
  unfold Level.afterOption
  rw [hargs]

/-- **Any number of flags** leads back to the command, where they are accepted in order. -/
theorem walk_flags {here : Level} {flags : List Token} (hsome : flags ≠ [])
    (hflags : ∀ t ∈ flags, here.IsFlag t) (depleted positional : Bool) (rest : List Token) :
    walk roots (.atCommand here depleted positional) (flags ++ rest) =
      walk roots (.start (here.gathered.acceptFlags flags)) rest := by
  induction flags generalizing here depleted positional with
  | nil => exact absurd rfl hsome
  | cons t others ih =>
    obtain ⟨ht, hothers⟩ := List.forall_mem_cons.mp hflags
    let after := here.gathered.accept t.text (isPersistentName t.text here.gathered.inForce)
    have hafter : after.gathered = after := gathered_of_merged rfl
    rw [List.cons_append, walk_flag roots ht, Level.acceptFlags_cons]
    -- The next flag gathers the options in force once more, which changes nothing.
    cases others with
    | nil =>
      unfold Level.acceptFlags
      rw [List.map_nil, List.append_nil, List.nil_append]
    | cons u others =>
      have hflags' : ∀ v ∈ u :: others, after.IsFlag v := fun v hv =>
        ⟨(hothers v hv).complete, (hothers v hv).isOption, hafter.symm ▸ (hothers v hv).found⟩
      rw [Position.start, ih (List.cons_ne_nil u others) hflags', hafter]

/-- The walks over flags in two orders go side by side from then on. -/
theorem reordered_of_perm {here : Level} {flags flags' : List Token}
    (hflags : ∀ t ∈ flags, here.IsFlag t) (hperm : flags.Perm flags') (depleted positional : Bool)
    (rest : List Token) :
    (walk roots (.atCommand here depleted positional) (flags ++ rest)).Reordered
      (walk roots (.atCommand here depleted positional) (flags' ++ rest)) := by
  by_cases hsome : flags = []
  · subst hsome
    obtain rfl := hperm.nil_eq
    exact reordered_walk roots (.atCommand ⟨rfl, rfl, .refl _⟩) rest
  · have hsome' : flags' ≠ [] := fun h => hsome (h ▸ hperm).eq_nil
    have hflags' : ∀ t ∈ flags', here.IsFlag t := fun t ht => hflags t (hperm.mem_iff.mpr ht)
    rw [walk_flags roots hsome hflags, walk_flags roots hsome' hflags']
    exact reordered_walk roots (.atCommand (here.gathered.acceptFlags_perm hperm)) rest

/-- **The order of flags does not matter.** In the registry, in a command and in the options in
force there no argument calls a function of the accepted tokens. At the command, whatever is accepted
there, come some flags. Whatever follows, the walks over the flags in two orders end at the same
place, with the same options in force and the same tokens accepted in another order, and what is
offered there is the same: the same candidates in the same order, and the same hint, or the same
fault. What is left behind is the same as well, but for the accepted tokens that a list of processes
is called with. -/
theorem flag_order (roots : Roots) (here : Level) (depleted positional : Bool)
    (flags flags' rest : List Token)
    (hroots : ∀ name c, roots.lookup name = some c → c.EachArg Arg.FunctionFree)
    (hhere : here.EachArg Arg.FunctionFree) (hflags : ∀ t ∈ flags, here.IsFlag t)
    (hperm : flags.Perm flags') :
    let stop := walk roots.lookup (.atCommand here depleted positional)
    (stop (flags ++ rest)).Reordered (stop (flags' ++ rest)) ∧
    ((stop (flags ++ rest)).offer roots).Alike ((stop (flags' ++ rest)).offer roots) := by
  intro stop
  have hstop : (stop (flags ++ rest)).Reordered (stop (flags' ++ rest)) :=
    reordered_of_perm roots.lookup hflags hperm depleted positional rest
  refine ⟨hstop, stopOffer_reordered hstop roots fun p typed hreached => ?_⟩
  exact eachArg_of_walk hroots (.atCommand hhere) hreached

/-- A command that lists packages, with two flags and a child. -/
def packagesCommand : Command where
  names := ["packages"]
  options := [{ names := ["--all", "-a"], persistent := true }, { names := ["--long", "-l"] }]
  children := [{ names := ["outdated"], args := [{ name := "package", values := [{ name := "a" }] }] }]

/-- `packages --all -l outdated ` and `packages -l --all outdated ` are answered alike. -/
theorem flag_order_packages :
    let flag (text : String) : Token :=
      { text, complete := true, isOption := true, rawLength := text.length }
    let child : Token := { text := "outdated", complete := true, isOption := false, rawLength := 8 }
    (packagesCommand.offer {} [flag "--all", flag "-l", child]).Alike
      (packagesCommand.offer {} [flag "-l", flag "--all", child]) := by
  intro flag child
  have hpackage : ∀ a ∈ [({ name := "package", values := [{ name := "a" }] } : Arg)],
      a.FunctionFree := by
    intro a ha
    obtain rfl := List.mem_singleton.mp ha
    exact nofun
  have hoptions : ∀ o ∈ packagesCommand.options, ∀ a ∈ o.args, a.FunctionFree := by
    simp [packagesCommand]
  have hchildren : ∀ d ∈ packagesCommand.children, d.EachArg Arg.FunctionFree := by
    intro d hd
    obtain rfl := List.mem_singleton.mp hd
    exact .node hpackage (List.forall_mem_nil _) (List.forall_mem_nil _)
  have hflags : ∀ t ∈ [flag "--all", flag "-l"],
      ({ command := packagesCommand } : Level).IsFlag t :=
    List.forall_mem_cons.mpr ⟨⟨rfl, rfl, _, rfl, rfl⟩,
      List.forall_mem_singleton.mpr ⟨rfl, rfl, _, rfl, rfl⟩⟩
  have hfree : ({ command := packagesCommand } : Level).EachArg Arg.FunctionFree :=
    ⟨.node (List.forall_mem_nil _) hoptions hchildren, List.forall_mem_nil _⟩
  have hperm : [flag "--all", flag "-l"].Perm [flag "-l", flag "--all"] := .swap _ _ _
  have hroots : ∀ name c, ({} : Roots).lookup name = some c → c.EachArg Arg.FunctionFree := nofun
  exact (flag_order {} { command := packagesCommand } false false [flag "--all", flag "-l"]
    [flag "-l", flag "--all"] [child] hroots hfree hflags hperm).2

end TabCompletion
