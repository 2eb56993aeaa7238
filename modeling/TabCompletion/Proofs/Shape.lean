import Mathlib.Data.List.Forall2
import TabCompletion.Registry.Basic

/-!
# The shape of a grammar

The shape of a grammar is what a line is read by: the names of commands and options, the order in
which children, options and arguments stand, which options are persistent, and which arguments are
optional, variadic or commands. Descriptions, the names of arguments, their values, generators and
paths, strategies, and what is hidden are no part of it.

Two grammars have one shape if they agree in this node by node (`Command.SameShape`), and two
registries if the same names lead to grammars of one shape (`Registry.SameShape`).

Results:
* `rel_find`: what is found first in two lists that agree one by one.
* `findOption_sameShape`, `child_sameShape`: names are looked up alike.
* `mergePersistent_sameShape`: the same persistent options come into force.
* **`sameShape_ofCommands`**: registering grammars of one shape gives registries of one shape.
* `sameShape_revealed`: a grammar with nothing hidden has the shape that it had.
-/

namespace TabCompletion

/-! ## Nodes of one shape -/

/-- Two arguments that take values alike. -/
structure Arg.SameShape (a b : Arg) : Prop where
  optional : a.optional = b.optional
  variadic : a.variadic = b.variadic
  command : a.command = b.command

/-- Two options with the same names, both persistent or both not, whose arguments agree. -/
structure Opt.SameShape (o p : Opt) : Prop where
  names : o.names = p.names
  persistent : o.persistent = p.persistent
  args : List.Forall₂ Arg.SameShape o.args p.args

/-- Two commands with the same names whose children, options and arguments agree. -/
inductive Command.SameShape : Command → Command → Prop
  | node {c d : Command} (names : c.names = d.names)
      (children : List.Forall₂ SameShape c.children d.children)
      (options : List.Forall₂ Opt.SameShape c.options d.options)
      (args : List.Forall₂ Arg.SameShape c.args d.args) : SameShape c d

namespace Command.SameShape

variable {c d : Command}

theorem names (h : c.SameShape d) : c.names = d.names := by
  cases h with
  | node names children options args => exact names

theorem children (h : c.SameShape d) : List.Forall₂ SameShape c.children d.children := by
  cases h with
  | node names children options args => exact children

theorem options (h : c.SameShape d) : List.Forall₂ Opt.SameShape c.options d.options := by
  cases h with
  | node names children options args => exact options

theorem args (h : c.SameShape d) : List.Forall₂ Arg.SameShape c.args d.args := by
  cases h with
  | node names children options args => exact args

end Command.SameShape

/-! ## Looking up names -/

/-- In two lists that agree one by one, the first hits agree. -/
theorem rel_find {α β : Type} {R : α → β → Prop} {xs : List α} {ys : List β} {p : α → Bool}
    {q : β → Bool} (hpq : ∀ x y, R x y → p x = q y) (h : List.Forall₂ R xs ys) :
    Option.Rel R (xs.find? p) (ys.find? q) := by
  induction h with
  | nil => exact .none
  | @cons x y xs ys hxy _ ih =>
    rw [List.find?_cons, List.find?_cons, hpq x y hxy]
    cases q y with
    | true => exact .some hxy
    | false => exact ih

variable {os ps inForce inForce' : List Opt}

theorem findOption_sameShape (h : List.Forall₂ Opt.SameShape os ps) (name : String) :
    Option.Rel Opt.SameShape (Opt.find? name os) (Opt.find? name ps) :=
  rel_find (fun o p hop => by rw [hop.names]) h

theorem child_sameShape {c d : Command} (h : c.SameShape d) (name : String) :
    Option.Rel Command.SameShape (c.child? name) (d.child? name) :=
  rel_find (fun e f hef => by rw [hef.names]) h.children

theorem isPersistentName_eq (h : List.Forall₂ Opt.SameShape os ps) (name : String) :
    isPersistentName name os = isPersistentName name ps := by
  unfold isPersistentName
  have hfind := findOption_sameShape h name
  generalize Opt.find? name os = found at hfind ⊢
  generalize Opt.find? name ps = found' at hfind ⊢
  cases hfind <;> rfl

theorem allOptional_eq {args args' : List Arg} (h : List.Forall₂ Arg.SameShape args args') :
    allOptional args = allOptional args' := by
  unfold allOptional
  induction h with
  | nil => rfl
  | cons hab _ ih => rw [List.all_cons, List.all_cons, hab.optional, ih]

/-! ## Persistent options -/

theorem allNames_eq (h : List.Forall₂ Opt.SameShape os ps) :
    Opt.allNames os = Opt.allNames ps := by
  unfold Opt.allNames
  induction h with
  | nil => rfl
  | cons hop _ ih => rw [List.flatMap_cons, List.flatMap_cons, hop.names, ih]

theorem newPersistent_sameShape (h : List.Forall₂ Opt.SameShape os ps) (known : List String) :
    List.Forall₂ Opt.SameShape (newPersistent known os) (newPersistent known ps) := by
  induction h generalizing known with
  | nil => exact .nil
  | cons hop _ ih =>
    unfold newPersistent
    rw [hop.persistent, hop.names]
    split
    · exact .cons hop (ih _)
    · exact ih _

/-- **The same persistent options come into force.** -/
theorem mergePersistent_sameShape (hforce : List.Forall₂ Opt.SameShape inForce inForce')
    (h : List.Forall₂ Opt.SameShape os ps) :
    List.Forall₂ Opt.SameShape (mergePersistent inForce os) (mergePersistent inForce' ps) := by
  unfold mergePersistent
  rw [allNames_eq hforce]
  exact List.rel_append hforce (newPersistent_sameShape h _)

/-! ## Registries -/

namespace Registry

/-- The same names lead to grammars of one shape. -/
def SameShape (reg reg' : Registry) : Prop :=
  ∀ name, Option.Rel Command.SameShape (reg.lookup name) (reg'.lookup name)

variable {reg reg' : Registry}

theorem sameShape_register (h : reg.SameShape reg') {c d : Command} (hcd : c.SameShape d) :
    (reg.register c).SameShape (reg'.register d) := by
  intro name
  rw [lookup_register, lookup_register, hcd.names]
  by_cases hname : name ∈ d.names
  · rw [if_pos hname, if_pos hname]
    exact .some hcd
  · rw [if_neg hname, if_neg hname]
    exact h name

theorem sameShape_registerAll {cs ds : List Command} (h : reg.SameShape reg')
    (hall : List.Forall₂ Command.SameShape cs ds) :
    (reg.registerAll cs).SameShape (reg'.registerAll ds) := by
  induction hall generalizing reg reg' with
  | nil => exact h
  | cons hcd _ ih => exact ih (sameShape_register h hcd)

/-- **Registering grammars of one shape** gives registries of one shape. -/
theorem sameShape_ofCommands {cs ds : List Command} (h : List.Forall₂ Command.SameShape cs ds) :
    (ofCommands cs).SameShape (ofCommands ds) :=
  sameShape_registerAll (fun _ => .none) h

end Registry

/-! ## What is hidden -/

/-- The option, not hidden. -/
def Opt.revealed (o : Opt) : Opt := { o with hidden := false }

mutual

/-- The command with nothing hidden in it. -/
def Command.revealed : Command → Command
  | { names, description, children, options, args, strategy, hidden := _ } =>
    { names, description, children := revealedAll children, options := options.map Opt.revealed,
      args, strategy }

/-- The commands with nothing hidden in them. -/
def Command.revealedAll : List Command → List Command
  | [] => []
  | c :: rest => c.revealed :: Command.revealedAll rest

end

theorem sameShape_self (args : List Arg) : List.Forall₂ Arg.SameShape args args :=
  List.forall₂_same.mpr fun _ _ => ⟨rfl, rfl, rfl⟩

theorem sameShape_revealedOptions (options : List Opt) :
    List.Forall₂ Opt.SameShape options (options.map Opt.revealed) :=
  List.forall₂_map_right_iff.mpr
    (List.forall₂_same.mpr fun o _ => ⟨rfl, rfl, sameShape_self o.args⟩)

mutual

/-- **What is hidden is no part of the shape.** -/
theorem sameShape_revealed : ∀ c : Command, c.SameShape c.revealed
  | { children, options, args, .. } =>
    .node rfl (sameShape_revealedAll children) (sameShape_revealedOptions options)
      (sameShape_self args)

theorem sameShape_revealedAll :
    ∀ cs : List Command, List.Forall₂ Command.SameShape cs (Command.revealedAll cs)
  | [] => .nil
  | c :: rest => .cons (sameShape_revealed c) (sameShape_revealedAll rest)

end

end TabCompletion
