import TabCompletion.Proofs.Offer

/-!
# What holds of every argument

A property of every argument in the grammars holds of every argument that the walk comes to: from
where it is, the walk only goes to what stands in the command there, in the options in force, or in
the registry.

Results:
* `Level.eachArg_gathered`: what comes into force stands in the command.
* `eachArg_of_escape`, `eachArg_takeValue`: the two ways in which a token is read.
* `eachArg_step`: one token.
* **`eachArg_of_walk`**: any number of tokens, and `of_asked` for the argument that is asked for
  values where the walk stops.
-/

namespace TabCompletion

/-- Every argument of a command and of its options holds `P`, at every depth. -/
inductive Command.EachArg (P : Arg → Prop) : Command → Prop
  | node {c : Command} (args : ∀ a ∈ c.args, P a) (options : ∀ o ∈ c.options, ∀ a ∈ o.args, P a)
      (children : ∀ d ∈ c.children, EachArg P d) : EachArg P c

/-- Every argument of the command and of the options in force holds `P`. -/
structure Level.EachArg (P : Arg → Prop) (l : Level) : Prop where
  command : l.command.EachArg P
  inForce : ∀ o ∈ l.inForce, ∀ a ∈ o.args, P a

/-- So does every argument that is left. -/
inductive Position.EachArg (P : Arg → Prop) : Position → Prop
  | atCommand {here depleted positional} (level : here.EachArg P) :
      EachArg P (.atCommand here depleted positional)
  | atArg {here a others ofOption bound} (level : here.EachArg P) (args : ∀ b ∈ a :: others, P b) :
      EachArg P (.atArg here a others ofOption bound)

/-- A token leads to nothing else. -/
inductive Move.EachArg (P : Arg → Prop) : Move → Prop
  | unknown : EachArg P .unknown
  | next {p} (position : p.EachArg P) : EachArg P (.next p)
  | nested {p} (position : p.EachArg P) : EachArg P (.nested p)

variable {P : Arg → Prop} {here : Level}

/-! ## The nodes of a grammar -/

namespace Command.EachArg

variable {c d : Command}

theorem args (h : c.EachArg P) : ∀ a ∈ c.args, P a := by
  cases h with
  | node args options children => exact args

theorem options (h : c.EachArg P) : ∀ o ∈ c.options, ∀ a ∈ o.args, P a := by
  cases h with
  | node args options children => exact options

theorem child {name : String} (h : c.EachArg P) (hd : c.child? name = some d) : d.EachArg P := by
  cases h with
  | node args options children => exact children d (List.mem_of_find?_eq_some hd)

end Command.EachArg

namespace Level

/-- What comes into force stands in the command. -/
theorem eachArg_gathered (h : here.EachArg P) : here.gathered.EachArg P := by
  refine ⟨h.command, fun o ho => ?_⟩
  rcases List.mem_append.mp ho with ho | ho
  · exact h.inForce o ho
  · exact h.command.options o (mem_newPersistent ho).2

theorem eachArg_accept (h : here.EachArg P) (text : String) (persist : Bool) :
    (here.accept text persist).EachArg P := ⟨h.command, h.inForce⟩

theorem EachArg.option (h : here.EachArg P) {name : String} {o : Opt}
    (ho : Opt.find? name here.options = some o) : ∀ a ∈ o.args, P a := by
  rcases List.mem_append.mp (List.mem_of_find?_eq_some ho) with hmem | hmem
  · exact h.command.options o hmem
  · exact h.inForce o hmem

end Level

/-! ## One token -/

theorem eachArg_before (h : here.EachArg P) {args : List Arg} (hargs : ∀ a ∈ args, P a)
    (ofOption bound : Bool) : (Position.before here args ofOption bound).EachArg P := by
  cases args with
  | nil => exact .atCommand h
  | cons a others => exact .atArg h hargs

theorem eachArg_afterOption (h : here.EachArg P) {o : Opt} (ho : ∀ a ∈ o.args, P a)
    (text : String) : (here.afterOption o text).EachArg P := by
  have hafter := Level.eachArg_accept h text (isPersistentName text here.inForce)
  unfold Level.afterOption
  generalize o.args = args at ho
  cases args with
  | nil => exact .atCommand hafter
  | cons a others => exact .atArg hafter ho

theorem eachArg_of_escape (h : here.EachArg P) {t : Token} {m : Move}
    (hm : here.escape? t = some m) : m.EachArg P := by
  unfold Level.escape? at hm
  split at hm
  · split at hm
    · rename_i o ho
      obtain rfl := Option.some.inj hm
      exact .next (eachArg_afterOption h (h.option ho) t.text)
    · obtain rfl := Option.some.inj hm
      exact .unknown
  · obtain ⟨d, hd, rfl⟩ := Option.map_eq_some_iff.mp hm
    exact .next (.atCommand ⟨h.command.child hd, h.inForce⟩)

section Roots

variable {roots : String → Option Command}
  (hroots : ∀ name c, roots name = some c → c.EachArg P)

include hroots

theorem eachArg_nested (h : here.EachArg P) (name : String) :
    (here.nested roots name).EachArg P := by
  unfold Level.nested
  split
  · rename_i c hc
    exact .nested (.atCommand ⟨hroots name c hc, fun o ho => absurd ho List.not_mem_nil⟩)
  · split
    · rename_i d hd
      exact .nested (.atCommand ⟨h.command.child hd, h.inForce⟩)
    · exact .unknown

theorem eachArg_takeValue (h : here.EachArg P) {a : Arg} {others : List Arg}
    (hargs : ∀ b ∈ a :: others, P b) (text : String) (ofOption : Bool) :
    (here.takeValue roots text a others ofOption).EachArg P := by
  have hafter := Level.eachArg_accept h text false
  unfold Level.takeValue
  split
  · exact .next (.atArg hafter hargs)
  · split
    · exact eachArg_nested hroots h text
    · exact .next (eachArg_before hafter (fun b hb => hargs b (List.mem_cons_of_mem _ hb)) _ _)

/-- **One token** leads to nothing else. -/
theorem eachArg_step {p : Position} (h : p.EachArg P) (t : Token) : (p.step roots t).EachArg P := by
  cases h with
  | @atCommand here depleted positional h =>
    have hgathered := Level.eachArg_gathered h
    unfold Position.step
    dsimp only
    split
    · rename_i hm
      exact eachArg_of_escape hgathered hm
    · exact .unknown
    · rename_i hargs
      exact eachArg_takeValue hroots hgathered (hargs ▸ h.command.args) t.text false
  | @atArg here a others ofOption bound h hargs =>
    unfold Position.step
    dsimp only
    split
    · rename_i hm
      split at hm
      · exact eachArg_of_escape h hm
      · cases hm
    · exact eachArg_takeValue hroots h hargs t.text ofOption

/-- **Any number of tokens** lead to nothing else. -/
theorem eachArg_of_walk {p q : Position} {tokens : List Token} {typed : Option String}
    (hp : p.EachArg P) (hwalk : walk roots p tokens = .reached q typed) : q.EachArg P := by
  induction tokens generalizing p with
  | nil =>
    cases hwalk
    exact hp
  | cons t rest ih =>
    have hstep := eachArg_step hroots hp t
    rw [walk] at hwalk
    split at hwalk
    · generalize p.step roots t = m at hstep hwalk
      cases hstep with
      | unknown => cases hwalk
      | next hnext => exact ih hnext hwalk
      | nested hnext =>
        dsimp only at hwalk
        split at hwalk
        · cases hwalk
        · exact ih hnext hwalk
    · cases hwalk
      exact hp

end Roots

/-! ## Where the walk stops -/

namespace Position.EachArg

variable {p : Position}

/-- The argument that is asked for values is one of them. -/
theorem of_asked (h : p.EachArg P) {a : Arg} (ha : p.asked? = some a) : P a := by
  cases h with
  | @atCommand here depleted positional h =>
    unfold Position.asked? at ha
    dsimp only at ha
    split at ha
    · cases ha
    · exact h.command.args a (List.mem_of_mem_head? ha)
  | atArg h hargs =>
    obtain rfl := Option.some.inj ha
    exact hargs _ List.mem_cons_self

end Position.EachArg

end TabCompletion
