import Mathlib.Data.List.Forall2
import TabCompletion.Grammar.Loader

/-!
# When a value is read

A node of a grammar is read from an object part by part, and a list element by element. Each lemma
here says, for one kind of node, exactly when it is read and what it then holds. Nothing else needs
the steps of the reading.

Results:
* `mapM_eq_ok_iff`: a list is read if every element is, one by one. `forall₂_imp_of_mem` and
  `exists_of_forall₂` are about lists that agree one by one.
* `ofJson_object`: the children of a command are read from the elements under its key.
* `loadNames_eq_ok_iff`, `loadArgs_eq_ok_iff`, `Arg.ofJson_object_eq_ok_iff`,
  `Opt.ofJson_object_eq_ok_iff`: names, lists of arguments, arguments and options.
* **`Command.ofJson_object_eq_ok_iff`**: commands.
* `Json.below_induction`: what holds of a value if it holds of the values its children are read
  from holds of every value.
-/

namespace TabCompletion

/-! ## Results that may be faults -/

section Results

variable {ε α β : Type}

theorem bind_eq_ok_iff {x : Except ε α} {next : α → Except ε β} {b : β} :
    (x >>= next) = .ok b ↔ ∃ a, x = .ok a ∧ next a = .ok b := by
  cases x with
  | error e => simp [bind, Except.bind]
  | ok a => simp [bind, Except.bind]

/-- A list is read if every element is, one by one. -/
theorem mapM_eq_ok_iff {read : α → Except ε β} {vs : List α} {xs : List β} :
    vs.mapM read = .ok xs ↔ List.Forall₂ (fun v x => read v = .ok x) vs xs := by
  induction vs generalizing xs with
  | nil => simp [pure, Except.pure, eq_comm]
  | cons v vs ih =>
    rw [List.mapM_cons, bind_eq_ok_iff]
    constructor
    · rintro ⟨x, hx, hrest⟩
      obtain ⟨ys, hys, hcons⟩ := bind_eq_ok_iff.mp hrest
      cases hcons
      exact .cons hx (ih.mp hys)
    · intro h
      cases h with
      | @cons _ x _ ys hx hys =>
        exact ⟨x, hx, bind_eq_ok_iff.mpr ⟨ys, ih.mpr hys, rfl⟩⟩

/-- What holds of two lists one by one has to be shown of their elements only. -/
theorem forall₂_imp_of_mem {R S : α → β → Prop} {vs : List α} {xs : List β}
    (himp : ∀ v ∈ vs, ∀ x ∈ xs, R v x → S v x) (h : List.Forall₂ R vs xs) : List.Forall₂ S vs xs := by
  refine List.forall₂_iff_zip.mpr ⟨h.length_eq, fun {v x} hmem => ?_⟩
  obtain ⟨hv, hx⟩ := List.of_mem_zip hmem
  exact himp v hv x hx (List.forall₂_zip h hmem)

theorem exists_of_forall₂ {R : α → β → Prop} {vs : List α} {xs : List β} {x : β}
    (h : List.Forall₂ R vs xs) (hx : x ∈ xs) : ∃ v ∈ vs, R v x := by
  induction h with
  | nil => cases hx
  | @cons v y vs ys hvy _ ih =>
    rcases List.mem_cons.mp hx with rfl | hx
    · exact ⟨v, List.mem_cons_self, hvy⟩
    · obtain ⟨w, hw, hwx⟩ := ih hx
      exact ⟨w, List.mem_cons_of_mem _ hw, hwx⟩

end Results

/-! ## The children of a command -/

theorem childrenOfItems_eq (items : List Json) :
    childrenOfItems items = items.mapM Command.ofJson := by
  induction items with
  | nil => rfl
  | cons v rest ih => rw [childrenOfItems, ih, List.mapM_cons]

theorem childrenOf_eq (v : Json) : childrenOf v = v.elements.mapM Command.ofJson := by
  cases v with
  | null => rfl
  | list items => exact childrenOfItems_eq items
  | object m =>
    have hone : (Json.object m).elements = [.object m] := rfl
    rw [childrenOf, hone, List.mapM_cons, Command.ofJson]
    cases Command.ofMembers m (childrenIn m) <;> rfl
  | bool | int | real | text => rfl

theorem childrenIn_eq (m : Members) :
    childrenIn m = (m.getOrNull "subcommands").elements.mapM Command.ofJson := by
  induction m with
  | nil => rfl
  | cons member rest ih =>
    obtain ⟨key, v⟩ := member
    unfold childrenIn
    by_cases hkey : key = "subcommands"
    · rw [if_pos hkey, childrenOf_eq]
      simp [Members.getOrNull, Members.get?, hkey]
    · rw [if_neg hkey, ih]
      have hne : ("subcommands" == key) = false := beq_eq_false_iff_ne.2 (Ne.symm hkey)
      simp [Members.getOrNull, Members.get?, List.lookup_cons, hne]

/-- A command is read from an object with its children read from the elements under their key. -/
theorem ofJson_object (m : Members) :
    Command.ofJson (.object m) =
      Command.ofMembers m ((m.getOrNull "subcommands").elements.mapM Command.ofJson) := by
  rw [Command.ofJson, childrenIn_eq]

/-! ## Texts -/

theorem loadText_eq_ok_iff {v : Json} {s : String} :
    loadText v = .ok s ↔ v.isShown = true ∧ v.plainText = s := by
  unfold loadText
  cases v.isShown <;> simp

/-! ## Names -/

/-- The names that a node may have: at least one, and none empty. -/
structure ValidNames (names : List String) : Prop where
  nonempty : names ≠ []
  each : ∀ n ∈ names, n ≠ ""

theorem nonemptyText_eq_some_iff {v : Json} {s : String} :
    v.nonemptyText? = some s ↔ v = .text s ∧ s ≠ "" := by
  cases v with
  | text t =>
    by_cases ht : t = ""
    · simp only [Json.nonemptyText?, ht, if_true, Json.text.injEq]
      constructor
      · nofun
      · rintro ⟨rfl, hne⟩
        exact absurd rfl hne
    · simp only [Json.nonemptyText?, ht, if_false, Json.text.injEq, Option.some.injEq]
      constructor
      · rintro rfl
        exact ⟨rfl, ht⟩
      · exact fun h => h.1
  | null | bool | int | real | list | object => simp [Json.nonemptyText?]

theorem mapM_nonemptyText_eq_some_iff {vs : List Json} {names : List String} :
    vs.mapM Json.nonemptyText? = some names ↔ vs = names.map .text ∧ ∀ n ∈ names, n ≠ "" := by
  induction vs generalizing names with
  | nil => cases names <;> simp
  | cons v vs ih =>
    simp only [List.mapM_cons, Option.bind_eq_bind, Option.bind_eq_some_iff,
      nonemptyText_eq_some_iff, ih]
    constructor
    · rintro ⟨n, ⟨rfl, hn⟩, rest, ⟨rfl, hrest⟩, hcons⟩
      cases hcons
      exact ⟨rfl, List.forall_mem_cons.mpr ⟨hn, hrest⟩⟩
    · rintro ⟨hvs, hnames⟩
      cases names with
      | nil => cases hvs
      | cons n names =>
        obtain ⟨rfl, rfl⟩ := List.cons.inj hvs
        obtain ⟨hn, hrest⟩ := List.forall_mem_cons.mp hnames
        exact ⟨n, ⟨rfl, hn⟩, names, ⟨rfl, hrest⟩, rfl⟩

/-- **Names** are read if there are some, and all are texts that are not empty. -/
theorem loadNames_eq_ok_iff {node : NodeKind} {m : Members} {names : List String} :
    loadNames node m = .ok names ↔
      (m.getOrNull "name").elements = names.map .text ∧ ValidNames names := by
  unfold loadNames
  constructor
  · intro h
    split at h
    · rename_i n ns hmap
      cases h
      obtain ⟨helements, hnames⟩ := mapM_nonemptyText_eq_some_iff.mp hmap
      exact ⟨helements, List.cons_ne_nil _ _, hnames⟩
    · cases h
  · rintro ⟨helements, hvalid⟩
    rw [mapM_nonemptyText_eq_some_iff.mpr ⟨helements, hvalid.each⟩]
    cases names with
    | nil => exact absurd rfl hvalid.nonempty
    | cons n names => rfl

/-! ## Arguments -/

/-- A command argument stands at most at the end of a list. -/
def CommandLast (args : List Arg) : Prop := ∀ a ∈ args.dropLast, a.command = false

instance (args : List Arg) : Decidable (CommandLast args) :=
  inferInstanceAs (Decidable (∀ a ∈ args.dropLast, a.command = false))

theorem misplacedCommand_eq_none_iff {args : List Arg} {position : Nat} :
    misplacedCommand? position args = none ↔ CommandLast args := by
  unfold CommandLast
  induction args generalizing position with
  | nil => simp [misplacedCommand?]
  | cons a rest ih =>
    cases rest with
    | nil => simp [misplacedCommand?]
    | cons b rest =>
      unfold misplacedCommand?
      rw [List.dropLast_cons_cons, List.forall_mem_cons]
      cases ha : a.command with
      | true => simp
      | false => simpa using ih

/-- **A list of arguments** is read if every argument is, and command arguments stand last. -/
theorem loadArgs_eq_ok_iff {m : Members} {args : List Arg} :
    loadArgs m = .ok args ↔
      List.Forall₂ (fun v a => Arg.ofJson v = .ok a) (m.getOrNull "args").elements args ∧
      CommandLast args := by
  unfold loadArgs
  rw [bind_eq_ok_iff]
  constructor
  · rintro ⟨read, hread, h⟩
    cases hmisplaced : misplacedCommand? 0 read with
    | some found =>
      rw [hmisplaced] at h
      cases h
    | none =>
      rw [hmisplaced] at h
      cases h
      exact ⟨mapM_eq_ok_iff.mp hread, misplacedCommand_eq_none_iff.mp hmisplaced⟩
  · rintro ⟨hread, hlast⟩
    refine ⟨args, mapM_eq_ok_iff.mpr hread, ?_⟩
    rw [misplacedCommand_eq_none_iff.mpr hlast]
    rfl

/-- **An argument** is read if its name, its values, its generator, its templates and its strategy
are. -/
theorem Arg.ofJson_object_eq_ok_iff {m : Members} {a : Arg} :
    Arg.ofJson (.object m) = .ok a ↔
      ∃ values,
        List.Forall₂ (fun v x => loadStaticValues v = .ok x) (m.getOrNull "suggestions").elements
          values ∧
        loadGenerator (m.getOrNull "generator") = .ok a.generator ∧
        loadTemplates m = .ok a.templates ∧ loadStrategyOf m = .ok a.strategy ∧
        loadText ((m.get? "name").getD (.text "")) = .ok a.name ∧
        a.description = m.description ∧
        a.optional = m.flag "is_optional" "isOptional" ∧
        a.variadic = m.flag "is_variadic" "isVariadic" ∧
        a.command = m.flag "is_command" "isCommand" ∧ a.values = values.flatten := by
  simp only [Arg.ofJson, bind_eq_ok_iff, mapM_eq_ok_iff]
  constructor
  · rintro ⟨name, hname, values, hvalues, generator, hgenerator, templates, htemplates, strategy,
      hstrategy, ha⟩
    cases ha
    exact ⟨values, hvalues, hgenerator, htemplates, hstrategy, hname, rfl, rfl, rfl, rfl, rfl⟩
  · rintro ⟨values, hvalues, hgenerator, htemplates, hstrategy, hname, hdescription, hoptional,
      hvariadic, hcommand, hflat⟩
    refine ⟨_, hname, values, hvalues, _, hgenerator, _, htemplates, _, hstrategy, ?_⟩
    rw [← hdescription, ← hoptional, ← hvariadic, ← hcommand, ← hflat]
    rfl

/-! ## Options and commands -/

/-- **An option** is read if its names and its arguments are. -/
theorem Opt.ofJson_object_eq_ok_iff {m : Members} {o : Opt} :
    Opt.ofJson (.object m) = .ok o ↔
      loadNames .option m = .ok o.names ∧ loadArgs m = .ok o.args ∧
      o.description = m.description ∧
      o.persistent = m.flag "is_persistent" "isPersistent" ∧
      o.hidden = m.flag "is_hidden" "isHidden" := by
  simp only [Opt.ofJson, bind_eq_ok_iff]
  constructor
  · rintro ⟨names, hnames, args, hargs, ho⟩
    cases ho
    exact ⟨hnames, hargs, rfl, rfl, rfl⟩
  · rintro ⟨hnames, hargs, hdescription, hpersistent, hhidden⟩
    refine ⟨_, hnames, _, hargs, ?_⟩
    rw [← hdescription, ← hpersistent, ← hhidden]
    rfl

/-- **A command** is read if its names, its children and options one by one, its arguments and its
strategy are. -/
theorem Command.ofJson_object_eq_ok_iff {m : Members} {c : Command} :
    Command.ofJson (.object m) = .ok c ↔
      loadNames .subcommand m = .ok c.names ∧
      List.Forall₂ (fun v d => Command.ofJson v = .ok d) (m.getOrNull "subcommands").elements
        c.children ∧
      List.Forall₂ (fun v o => Opt.ofJson v = .ok o) (m.getOrNull "options").elements c.options ∧
      loadArgs m = .ok c.args ∧ loadStrategyOf m = .ok c.strategy ∧
      c.description = m.description ∧ c.hidden = m.flag "is_hidden" "isHidden" := by
  rw [ofJson_object]
  simp only [Command.ofMembers, bind_eq_ok_iff, mapM_eq_ok_iff]
  constructor
  · rintro ⟨names, hnames, children, hchildren, options, hoptions, args, hargs, strategy, hstrategy,
      hc⟩
    cases hc
    exact ⟨hnames, hchildren, hoptions, hargs, hstrategy, rfl, rfl⟩
  · rintro ⟨hnames, hchildren, hoptions, hargs, hstrategy, hdescription, hhidden⟩
    refine ⟨_, hnames, _, hchildren, _, hoptions, _, hargs, _, hstrategy, ?_⟩
    rw [← hdescription, ← hhidden]
    cases c
    rfl

/-! ## Values below a value -/

theorem mem_of_get {m : Members} {key : String} {v : Json} (h : m.get? key = some v) :
    (key, v) ∈ m := by
  induction m with
  | nil => cases h
  | cons member rest ih =>
    obtain ⟨k, w⟩ := member
    by_cases hk : key = k
    · simp only [Members.get?, hk, List.lookup_cons_self, Option.some.injEq] at h
      rw [h, hk]
      exact List.mem_cons_self
    · have hne : (key == k) = false := beq_eq_false_iff_ne.2 hk
      simp only [Members.get?, List.lookup_cons, hne] at h
      exact List.mem_cons_of_mem _ (ih h)

/-- The elements under a key are smaller than the object. -/
theorem sizeOf_of_mem_elements {m : Members} {key : String} {v : Json}
    (h : v ∈ (m.getOrNull key).elements) : sizeOf v < sizeOf (Json.object m) := by
  unfold Members.getOrNull at h
  cases hget : m.get? key with
  | none =>
    rw [hget] at h
    cases h
  | some w =>
    have hmember : sizeOf (key, w) < sizeOf m := List.sizeOf_lt_of_mem (mem_of_get hget)
    have hw : sizeOf w < sizeOf (Json.object m) := by
      simp only [Prod.mk.sizeOf_spec, Json.object.sizeOf_spec] at hmember ⊢
      omega
    rw [hget, Option.getD_some] at h
    cases w with
    | null => cases h
    | list items =>
      have hv : sizeOf v < sizeOf items := List.sizeOf_lt_of_mem h
      simp only [Json.list.sizeOf_spec] at hw
      omega
    | bool | int | real | text | object =>
      rw [List.mem_singleton.mp h]
      exact hw

/-- What holds of a value if it holds of the values that children are read from holds of every
value. -/
@[elab_as_elim]
theorem Json.below_induction {P : Json → Prop} (other : ∀ v, (∀ m, v ≠ .object m) → P v)
    (object : ∀ m : Members, (∀ v ∈ (m.getOrNull "subcommands").elements, P v) → P (.object m))
    (v : Json) : P v := by
  induction hn : sizeOf v using Nat.strongRecOn generalizing v with
  | _ n ih =>
    cases v with
    | object m => exact object m fun w hw => ih _ (hn ▸ sizeOf_of_mem_elements hw) w rfl
    | null | bool | int | real | text | list => exact other _ nofun

end TabCompletion
