import Mathlib.Data.List.Forall2
import TabCompletion.Proofs.OfferedName
import TabCompletion.Proofs.Walk.Agreement

/-!
# The children and options that are offered

A child or an option is offered if it is not hidden, was not used already, and can be named: one of
its names passes the filter and is not empty (`Nameable`). It then has one candidate, under the first
among the longest of the names that pass (`StandsFor`), which may be another than the longest of all
its names. Typed back, that name is found again, though maybe at a node that comes earlier and shares
the name.

Results:
* `exists_standsFor`, `offerNode_eq_none`: a node has a candidate exactly if it can be named.
* `forall₂_childCandidates`, `forall₂_optionCandidates`: the candidates of a list of nodes, in order.
* **`offered_once_by_name`**: both, and where their names lead.
-/

namespace TabCompletion

variable {settings : Settings} {s : Strategy} {typed : Option String} {kind : Kind}
  {names : List String} {description : Json} {accepted : List Accepted}

/-- One of the names passes the filter of the typed text and is not empty. -/
def Nameable (settings : Settings) (s : Strategy) (typed : Option String) (names : List String) :
    Prop :=
  ∃ n ∈ names, n ≠ "" ∧ settings.admits s typed n = true

instance : Decidable (Nameable settings s typed names) :=
  inferInstanceAs (Decidable (∃ n ∈ names, n ≠ "" ∧ settings.admits s typed n = true))

/-- The child is to be offered. -/
def Command.Offerable (settings : Settings) (s : Strategy) (typed : Option String)
    (child : Command) : Prop :=
  child.hidden = false ∧ Nameable settings s typed child.names

instance (child : Command) : Decidable (child.Offerable settings s typed) :=
  inferInstanceAs (Decidable (_ ∧ _))

/-- The option is to be offered beside the tokens that are accepted. -/
def Opt.Offerable (settings : Settings) (s : Strategy) (typed : Option String)
    (accepted : List Accepted) (o : Opt) : Prop :=
  o.hidden = false ∧ (∀ n ∈ o.names, n ∉ accepted.map (·.text)) ∧ Nameable settings s typed o.names

instance (o : Opt) : Decidable (o.Offerable settings s typed accepted) :=
  inferInstanceAs (Decidable (_ ∧ _ ∧ _))

/-- The candidate stands for a node with some names and a description: it has the first among the
longest of the names that pass the filter. -/
structure StandsFor (settings : Settings) (s : Strategy) (typed : Option String) (kind : Kind)
    (names : List String) (description : Json) (cand : Candidate) : Prop where
  name : FirstLongest (names.filter (settings.admits s typed)) cand.name
  mem : cand.name ∈ names
  admitted : settings.admits s typed cand.name = true
  kind : cand.kind = kind
  description : cand.description = description

/-! ## One node -/

/-- A node that can be named has a candidate. -/
theorem exists_standsFor (kind : Kind) (description : Json) (h : Nameable settings s typed names) :
    ∃ cand, settings.offerNode s typed kind names description = some cand ∧
      StandsFor settings s typed kind names description cand := by
  obtain ⟨n, hn, hne, hadmits⟩ := h
  have hmem : n ∈ names.filter (settings.admits s typed) := List.mem_filter.mpr ⟨hn, hadmits⟩
  have hname : FirstLongest (names.filter (settings.admits s typed))
      (settings.offeredName s typed names) := firstLongest_longestName (List.ne_nil_of_mem hmem)
  have hpos : settings.offeredName s typed names ≠ "" := by
    intro hempty
    have hle := hname.length_le hmem
    rw [hempty] at hle
    exact hne (String.length_eq_zero_iff.mp (Nat.le_zero.mp hle))
  obtain ⟨hoffered, hpasses⟩ := List.mem_filter.mp hname.mem
  exact ⟨_, if_neg hpos, hname, hoffered, hpasses, rfl, rfl⟩

/-- A node that cannot be named has none. -/
theorem offerNode_eq_none (kind : Kind) (description : Json)
    (h : ¬ Nameable settings s typed names) :
    settings.offerNode s typed kind names description = none := by
  refine if_pos (Classical.byContradiction fun hne => h ?_)
  have hmem := (longestName_mem (names.filter (settings.admits s typed))).resolve_left hne
  obtain ⟨hname, hadmits⟩ := List.mem_filter.mp hmem
  exact ⟨_, hname, hne, hadmits⟩

/-! ## Lists of nodes -/

/-- What a list of items comes to, item by item, if just the items with `p` come to something. -/
theorem forall₂_filterMap {α β : Type} {p : α → Bool} {f : α → Option β} {R : α → β → Prop}
    (hsome : ∀ a, p a = true → ∃ b, f a = some b ∧ R a b) (hnone : ∀ a, p a = false → f a = none)
    (items : List α) : List.Forall₂ R (items.filter p) (items.filterMap f) := by
  induction items with
  | nil => exact .nil
  | cons a rest ih =>
    cases hp : p a with
    | true =>
      obtain ⟨b, hb, hR⟩ := hsome a hp
      rw [List.filter_cons_of_pos hp, List.filterMap_cons_some hb]
      exact .cons hR ih
    | false =>
      rw [List.filter_cons_of_neg (by rw [hp]; exact Bool.false_ne_true),
        List.filterMap_cons_none (hnone a hp)]
      exact ih

/-- **The candidates of children**, in the order of the children. -/
theorem forall₂_childCandidates (command : Command) (settings : Settings) (s : Strategy)
    (typed : Option String) :
    List.Forall₂
      (fun child => StandsFor settings s typed .subcommand child.names child.description)
      (command.children.filter (Command.Offerable settings s typed ·))
      (command.childCandidates settings s typed) := by
  have hfilter : command.children.filter (Command.Offerable settings s typed ·) =
      (command.children.filter (!·.hidden)).filter (Nameable settings s typed ·.names) := by
    rw [List.filter_filter]
    refine List.filter_congr fun child _ => ?_
    rw [Bool.eq_iff_iff]
    simp only [decide_eq_true_eq, Bool.and_eq_true, Bool.not_eq_true']
    exact ⟨fun h => ⟨h.2, h.1⟩, fun h => ⟨h.2, h.1⟩⟩
  rw [hfilter]
  exact forall₂_filterMap (fun child h => exists_standsFor _ _ (of_decide_eq_true h))
    (fun child h => offerNode_eq_none _ _ (of_decide_eq_false h)) _

/-- **The candidates of options**, in the order of the options. -/
theorem forall₂_optionCandidates (options : List Opt) (settings : Settings) (s : Strategy)
    (typed : Option String) (accepted : List Accepted) :
    List.Forall₂ (fun o => StandsFor settings s typed .option o.names o.description)
      (options.filter (Opt.Offerable settings s typed accepted ·))
      (Opt.candidates options settings s typed accepted) := by
  have hused : ∀ o : Opt, o.used accepted = false ↔ ∀ n ∈ o.names, n ∉ accepted.map (·.text) := by
    intro o
    unfold Opt.used
    rw [List.any_eq_false]
    constructor
    · intro h n hn hmem
      obtain ⟨t, ht, rfl⟩ := List.mem_map.mp hmem
      exact h t ht (by simpa using hn)
    · intro h t ht hn
      exact h t.text (by simpa using hn) (List.mem_map_of_mem ht)
  have hfilter : options.filter (Opt.Offerable settings s typed accepted ·) =
      (options.filter fun o => !o.hidden && !(o.used accepted)).filter
        (Nameable settings s typed ·.names) := by
    rw [List.filter_filter]
    refine List.filter_congr fun o _ => ?_
    rw [Bool.eq_iff_iff]
    simp only [decide_eq_true_eq, Bool.and_eq_true, Bool.not_eq_true', hused]
    exact ⟨fun h => ⟨h.2.2, h.1, h.2.1⟩, fun h => ⟨h.2.1, h.2.2, h.1⟩⟩
  rw [hfilter]
  exact forall₂_filterMap (fun o h => exists_standsFor _ _ (of_decide_eq_true h))
    (fun o h => offerNode_eq_none _ _ (of_decide_eq_false h)) _

/-! ## Names that are typed back -/

/-- **Children and options are offered once, under one of their names.** There is one candidate for
each child that is to be offered, in the order of the children, and so for the options. It has the
first among the longest of the names that pass the filter, and that name, typed as a token, finds a
child of the command or an option of the list that has it. -/
theorem offered_once_by_name (command : Command) (options : List Opt) (accepted : List Accepted)
    (settings : Settings) (s : Strategy) (typed : Option String) :
    List.Forall₂
      (fun child => StandsFor settings s typed .subcommand child.names child.description)
      (command.children.filter (Command.Offerable settings s typed ·))
      (command.childCandidates settings s typed) ∧
    (∀ cand ∈ command.childCandidates settings s typed, ∃ child ∈ command.children,
      command.child? cand.name = some child ∧ cand.name ∈ child.names) ∧
    List.Forall₂ (fun o => StandsFor settings s typed .option o.names o.description)
      (options.filter (Opt.Offerable settings s typed accepted ·))
      (Opt.candidates options settings s typed accepted) ∧
    ∀ cand ∈ Opt.candidates options settings s typed accepted, ∃ o ∈ options,
      Opt.find? cand.name options = some o ∧ cand.name ∈ o.names := by
  refine ⟨forall₂_childCandidates command settings s typed, fun cand hcand => ?_,
    forall₂_optionCandidates options settings s typed accepted, fun cand hcand => ?_⟩
  · obtain ⟨child, hchild, hoffer⟩ := List.mem_filterMap.mp hcand
    obtain ⟨found, hfound⟩ := child_isSome_of_mem (List.mem_filter.mp hchild).1
      (name_mem_of_offerNode hoffer)
    exact ⟨found, mem_of_child hfound, hfound, by simpa using List.find?_some hfound⟩
  · obtain ⟨o, ho, hoffer⟩ := List.mem_filterMap.mp hcand
    obtain ⟨found, hfound⟩ := find_isSome_of_mem (List.mem_filter.mp ho).1
      (name_mem_of_offerNode hoffer)
    obtain ⟨hmem, hname⟩ := mem_of_find hfound
    exact ⟨found, hmem, hfound, hname⟩

end TabCompletion
