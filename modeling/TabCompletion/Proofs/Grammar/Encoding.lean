import TabCompletion.Proofs.EachArg
import TabCompletion.Proofs.Grammar.WellFormed

/-!
# Grammars written as data

A grammar is written as an object for every node. A key of two words is written in either of its
two spellings, templates under `template` or `templates`, a list of one element as a list or as that
element, and what has its default may be left out. `WrittenAs` leaves all of these choices open at
every node, as well as the order of keys and keys that mean nothing.

What cannot be written is what a generator calls, and a grammar that is not well formed is not read.
Of any other grammar the data says everything.

Results:
* `elements_of_holdsList`, `getEither_of_holdsEither`: what is found of what is written.
* `Arg.ofJson_of_writtenAs`, `Opt.ofJson_of_writtenAs`, `Command.ofJson_of_writtenAs`: a node that is
  written is read back.
* `Command.writtenAs_toJson`: every grammar can be written.
* **`load_written`**: whichever way a grammar is written, loading gives it back.
-/

namespace TabCompletion

/-! ## Members and lists -/

/-- The value stands under the key. If it is the default, the key may be left out. -/
def Members.Holds (m : Members) (key : String) (default v : Json) : Prop :=
  m.get? key = some v ∨ m.get? key = none ∧ v = default

/-- The value stands under one of the two spellings of a key, and nothing under the other. -/
def Members.HoldsEither (m : Members) (snake camel : String) (default v : Json) : Prop :=
  m.get? camel = none ∧ m.Holds snake default v ∨ m.get? snake = none ∧ m.Holds camel default v

/-- The ways to write a list: as it is, without elements also as null, and with one element also as
that element. -/
inductive Json.Lists : Json → List Json → Prop
  | list (items : List Json) : Lists (.list items) items
  | null : Lists .null []
  | alone {v : Json} (hnull : v ≠ .null) (hlist : ∀ items, v ≠ .list items) : Lists v [v]

/-- A list stands under a key. -/
def Members.HoldsList (m : Members) (key : String) (items : List Json) : Prop :=
  ∃ v : Json, m.Holds key .null v ∧ v.Lists items

/-- A list stands under a key, with an element for each of `xs` that is written as `R` says. -/
def Members.HoldsEach {α : Type} (m : Members) (key : String) (R : α → Json → Prop)
    (xs : List α) : Prop :=
  ∃ items, m.HoldsList key items ∧ List.Forall₂ R xs items

/-! ## Nodes -/

/-- The values that one entry of a list says: a text is a value without description, an object gives
several names one description. -/
inductive StaticValue.WrittenAs : List StaticValue → Json → Prop
  | text (name : String) : WrittenAs [{ name }] (.text name)
  | object {m : Members} {names : List String} {description : Json}
      (hnames : m.HoldsList "name" (names.map .text))
      (hdescription : m.Holds "description" (.text "") description) :
      WrittenAs (names.map fun name => { name, description }) (.object m)

/-- A script as data. -/
def Script.toJson : Option Script → Json
  | none => .null
  | some (.shell line) => .text line
  | some (.program argv) => .list (argv.map .text)

/-- A generator as data. -/
inductive Generator.WrittenAs : Option Generator → Json → Prop
  | none : WrittenAs none .null
  | object {g : Generator} {m : Members}
      (hscript : m.Holds "script" .null (Script.toJson g.script))
      (hsplit : m.HoldsEither "split_on" "splitOn" (.text "\n") g.splitOn)
      (htimeout : m.Holds "timeout" .null g.timeout) : WrittenAs (some g) (.object m)

/-- An argument as the members of an object. -/
structure Arg.WrittenIn (a : Arg) (m : Members) : Prop where
  name : m.Holds "name" (.text "") (.text a.name)
  description : m.Holds "description" (.text "") a.description
  optional : m.HoldsEither "is_optional" "isOptional" (.bool false) (.bool a.optional)
  variadic : m.HoldsEither "is_variadic" "isVariadic" (.bool false) (.bool a.variadic)
  command : m.HoldsEither "is_command" "isCommand" (.bool false) (.bool a.command)
  values : ∃ chunks, m.HoldsEach "suggestions" StaticValue.WrittenAs chunks ∧
    a.values = chunks.flatten
  generator : ∃ v, m.Holds "generator" .null v ∧ Generator.WrittenAs a.generator v
  templates : ∃ v : Json, m.HoldsEither "template" "templates" .null v ∧
    v.Lists (a.templates.map fun t => .text t.word)
  strategy : m.HoldsEither "filter_strategy" "filterStrategy" (.text "default")
    (.text a.strategy.word)

/-- An argument as data. -/
def Arg.WrittenAs (a : Arg) (v : Json) : Prop := ∃ m : Members, v = .object m ∧ a.WrittenIn m

/-- An option as the members of an object. -/
structure Opt.WrittenIn (o : Opt) (m : Members) : Prop where
  names : m.HoldsList "name" (o.names.map .text)
  description : m.Holds "description" (.text "") o.description
  args : m.HoldsEach "args" Arg.WrittenAs o.args
  persistent : m.HoldsEither "is_persistent" "isPersistent" (.bool false) (.bool o.persistent)
  hidden : m.HoldsEither "is_hidden" "isHidden" (.bool false) (.bool o.hidden)

/-- An option as data. -/
def Opt.WrittenAs (o : Opt) (v : Json) : Prop := ∃ m : Members, v = .object m ∧ o.WrittenIn m

/-- A command as data, with everything below it. -/
inductive Command.WrittenAs : Command → Json → Prop
  | object {c : Command} {m : Members} {items : List Json}
      (names : m.HoldsList "name" (c.names.map .text))
      (description : m.Holds "description" (.text "") c.description)
      (listed : m.HoldsList "subcommands" items)
      (children : List.Forall₂ WrittenAs c.children items)
      (options : m.HoldsEach "options" Opt.WrittenAs c.options)
      (args : m.HoldsEach "args" Arg.WrittenAs c.args)
      (strategy : m.HoldsEither "filter_strategy" "filterStrategy" (.text "default")
        (.text c.strategy.word))
      (hidden : m.HoldsEither "is_hidden" "isHidden" (.bool false) (.bool c.hidden)) :
      WrittenAs c (.object m)

/-! ## What can be written -/

/-- A generator that calls nothing. Its timeout is a double or none. -/
structure Generator.Plain (g : Generator) : Prop where
  provider : g.provider = none
  reader : g.reader = none
  timeout : g.timeout = .null ∨ ∃ x, g.timeout = .real x

/-- An argument whose generator, if it has one, calls nothing. -/
def Arg.Plain (a : Arg) : Prop := ∀ g, a.generator = some g → g.Plain

/-! ## What is found -/

section Found

variable {m : Members} {key snake camel : String} {default v : Json} {items : List Json}

theorem getD_of_holds (h : m.Holds key default v) : (m.get? key).getD default = v := by
  rcases h with h | ⟨h, rfl⟩
  · rw [h, Option.getD_some]
  · rw [h, Option.getD_none]

/-- A key in either spelling is found. -/
theorem getEither_of_holdsEither (h : m.HoldsEither snake camel default v) :
    m.getEither? snake camel = some v ∨ m.getEither? snake camel = none ∧ v = default := by
  unfold Members.getEither?
  rcases h with ⟨hcamel, h | ⟨h, hv⟩⟩ | ⟨hsnake, h⟩
  · rw [h]
    exact .inl rfl
  · rw [h, hcamel]
    exact .inr ⟨rfl, hv⟩
  · rw [hsnake]
    exact h

theorem getD_of_holdsEither (h : m.HoldsEither snake camel default v) :
    (m.getEither? snake camel).getD default = v := by
  rcases getEither_of_holdsEither h with hfound | ⟨hfound, hv⟩
  · rw [hfound, Option.getD_some]
  · rw [hfound, Option.getD_none, hv]

theorem flag_of_holdsEither {b : Bool} (h : m.HoldsEither snake camel (.bool false) (.bool b)) :
    m.flag snake camel = b := by
  unfold Members.flag
  rcases getEither_of_holdsEither h with h | ⟨h, hb⟩
  · rw [h]
    rfl
  · rw [h]
    cases hb
    rfl

theorem elements_of_lists (h : v.Lists items) : v.elements = items := by
  cases h with
  | list | null => rfl
  | alone hnull hlist =>
    cases v with
    | null => exact absurd rfl hnull
    | list items => exact absurd rfl (hlist items)
    | bool | int | real | text | object => rfl

/-- The elements of a list are found, however it is written. -/
theorem elements_of_holdsList (h : m.HoldsList key items) : (m.getOrNull key).elements = items := by
  obtain ⟨v, hv, hlists⟩ := h
  rw [Members.getOrNull, getD_of_holds hv]
  exact elements_of_lists hlists

/-- A list that is written element by element is read if its elements are. -/
theorem forall₂_of_holdsEach {α : Type} {R : α → Json → Prop} {read : Json → Except LoadFault α}
    {xs : List α} (h : m.HoldsEach key R xs) (hread : ∀ x ∈ xs, ∀ v, R x v → read v = .ok x) :
    List.Forall₂ (fun v x => read v = .ok x) (m.getOrNull key).elements xs := by
  obtain ⟨items, hitems, hall⟩ := h
  rw [elements_of_holdsList hitems]
  exact (forall₂_imp_of_mem (fun x hx v _ hxv => hread x hx v hxv) hall).flip

end Found

/-! ## Reading back -/

variable {m : Members} {v : Json}

theorem loadStrategy_word (s : Strategy) : loadStrategy (.text s.word) = .ok s := by
  cases s <;> rfl

theorem loadTemplate_word (t : Template) : loadTemplate (.text t.word) = .ok t := by
  cases t <;> rfl

theorem loadStrategyOf_of_holds {s : Strategy}
    (h : m.HoldsEither "filter_strategy" "filterStrategy" (.text "default") (.text s.word)) :
    loadStrategyOf m = .ok s := by
  unfold loadStrategyOf
  rcases getEither_of_holdsEither h with h | ⟨h, hword⟩
  · rw [h, Option.getD_some, loadStrategy_word]
  · rw [h]
    -- only the unset strategy may be left out
    cases s with
    | unset => rfl
    | leading | fuzzy => exact absurd (Json.text.inj hword) (by decide)

theorem loadTemplates_of_holds {templates : List Template}
    (h : m.HoldsEither "template" "templates" .null v)
    (hlists : v.Lists (templates.map fun t => .text t.word)) : loadTemplates m = .ok templates := by
  have hfound : (m.get? "template").getD (m.getOrNull "templates") = v := by
    rw [← getD_of_holdsEither h]
    unfold Members.getEither? Members.getOrNull
    cases m.get? "template" <;> rfl
  unfold loadTemplates
  rw [hfound, elements_of_lists hlists, mapM_eq_ok_iff, List.forall₂_map_left_iff]
  exact List.forall₂_same.mpr fun t _ => loadTemplate_word t

/-- Texts are taken as they are. -/
theorem mapM_loadText (texts : List String) : (texts.map Json.text).mapM loadText = .ok texts := by
  rw [mapM_eq_ok_iff, List.forall₂_map_left_iff]
  exact List.forall₂_same.mpr fun s _ => rfl

theorem loadStaticValues_of_writtenAs {values : List StaticValue}
    (h : StaticValue.WrittenAs values v) : loadStaticValues v = .ok values := by
  cases h with
  | text name => rfl
  | object hnames hdescription =>
    simp only [loadStaticValues]
    rw [elements_of_holdsList hnames, mapM_loadText, Members.description,
      getD_of_holds hdescription]
    rfl

theorem loadScript_toJson (script : Option Script) :
    loadScript (Script.toJson script) = .ok script := by
  cases script with
  | none => rfl
  | some s =>
    cases s with
    | shell line => rfl
    | program argv =>
      simp only [Script.toJson, loadScript, mapM_loadText]
      rfl

theorem loadGenerator_of_writtenAs {g : Option Generator} (hplain : ∀ h, g = some h → h.Plain)
    (h : Generator.WrittenAs g v) : loadGenerator v = .ok g := by
  cases h with
  | none => rfl
  | @object g m hscript hsplit htimeout =>
    obtain ⟨hprovider, hreader, hseconds⟩ := hplain g rfl
    have htime : m.getOrNull "timeout" = g.timeout := getD_of_holds htimeout
    rw [loadGenerator, Members.getOrNull, getD_of_holds hscript, loadScript_toJson,
      getD_of_holdsEither hsplit, htime]
    obtain ⟨script, provider, reader, splitOn, timeout⟩ := g
    dsimp only at hprovider hreader hseconds
    rcases hseconds with rfl | ⟨x, rfl⟩
    · rw [hprovider, hreader]
      rfl
    · rw [hprovider, hreader]
      rfl

/-- **An argument** that is written is read back. -/
theorem Arg.ofJson_of_writtenAs {a : Arg} (hplain : a.Plain) (h : a.WrittenAs v) :
    Arg.ofJson v = .ok a := by
  obtain ⟨m, rfl, h⟩ := h
  obtain ⟨chunks, hchunks, hvalues⟩ := h.values
  obtain ⟨g, hg, hgenerator⟩ := h.generator
  obtain ⟨t, ht, htemplates⟩ := h.templates
  refine Arg.ofJson_object_eq_ok_iff.mpr ⟨chunks, ?_, ?_, loadTemplates_of_holds ht htemplates,
    loadStrategyOf_of_holds h.strategy, ?_, (getD_of_holds h.description).symm,
    (flag_of_holdsEither h.optional).symm, (flag_of_holdsEither h.variadic).symm,
    (flag_of_holdsEither h.command).symm, hvalues⟩
  · exact forall₂_of_holdsEach hchunks fun _ _ _ => loadStaticValues_of_writtenAs
  · rw [Members.getOrNull, getD_of_holds hg]
    exact loadGenerator_of_writtenAs hplain hgenerator
  · rw [getD_of_holds h.name]
    rfl

/-- A list of arguments that is written is read back, if command arguments stand last in it. -/
theorem loadArgs_of_holdsEach {args : List Arg} (hlast : CommandLast args)
    (hplain : ∀ a ∈ args, a.Plain) (h : m.HoldsEach "args" Arg.WrittenAs args) :
    loadArgs m = .ok args :=
  loadArgs_eq_ok_iff.mpr
    ⟨forall₂_of_holdsEach h fun a ha _ => Arg.ofJson_of_writtenAs (hplain a ha), hlast⟩

theorem loadNames_of_holdsList {node : NodeKind} {names : List String} (hvalid : ValidNames names)
    (h : m.HoldsList "name" (names.map .text)) : loadNames node m = .ok names :=
  loadNames_eq_ok_iff.mpr ⟨elements_of_holdsList h, hvalid⟩

/-- **An option** that is written is read back, if it is well formed. -/
theorem Opt.ofJson_of_writtenAs {o : Opt} (hwell : o.WellFormed) (hplain : ∀ a ∈ o.args, a.Plain)
    (h : o.WrittenAs v) : Opt.ofJson v = .ok o := by
  obtain ⟨m, rfl, h⟩ := h
  exact Opt.ofJson_object_eq_ok_iff.mpr ⟨loadNames_of_holdsList hwell.names h.names,
    loadArgs_of_holdsEach hwell.args hplain h.args, (getD_of_holds h.description).symm,
    (flag_of_holdsEither h.persistent).symm, (flag_of_holdsEither h.hidden).symm⟩

/-- **A command** that is written is read back, if it is well formed. -/
theorem Command.ofJson_of_writtenAs {c : Command} (hwell : c.WellFormed)
    (hplain : c.EachArg Arg.Plain) (h : c.WrittenAs v) : Command.ofJson v = .ok c := by
  induction v using Json.below_induction generalizing c with
  | other v hv =>
    cases h
    exact absurd rfl (hv _)
  | object m ih =>
    cases h with
    | @object _ _ items names description listed children options args strategy hidden =>
    cases hwell with
    | node wellNames wellArgs wellOptions wellChildren =>
    cases hplain with
    | node plainArgs plainOptions plainChildren =>
    have hitems := elements_of_holdsList listed
    refine Command.ofJson_object_eq_ok_iff.mpr ⟨loadNames_of_holdsList wellNames names, ?_, ?_,
      loadArgs_of_holdsEach wellArgs plainArgs args, loadStrategyOf_of_holds strategy,
      (getD_of_holds description).symm, (flag_of_holdsEither hidden).symm⟩
    · rw [hitems] at ih ⊢
      refine (forall₂_imp_of_mem (fun d hd w hw hdw => ?_) children).flip
      exact ih w hw (wellChildren d hd) (plainChildren d hd) hdw
    · exact forall₂_of_holdsEach options fun o ho _ =>
        Opt.ofJson_of_writtenAs (wellOptions o ho) (plainOptions o ho)

/-! ## Every grammar can be written -/

/-- A value of a list as data. -/
def StaticValue.toJson (x : StaticValue) : Json :=
  .object [("name", .text x.name), ("description", x.description)]

/-- A generator as data, less what it calls. -/
def Generator.toJson (g : Generator) : Json :=
  .object [("script", Script.toJson g.script), ("split_on", g.splitOn), ("timeout", g.timeout)]

/-- An argument as data. -/
def Arg.toJson (a : Arg) : Json :=
  .object [("name", .text a.name), ("description", a.description),
    ("is_optional", .bool a.optional), ("is_variadic", .bool a.variadic),
    ("is_command", .bool a.command), ("suggestions", .list (a.values.map StaticValue.toJson)),
    ("generator", (a.generator.map Generator.toJson).getD .null),
    ("templates", .list (a.templates.map fun t => .text t.word)),
    ("filter_strategy", .text a.strategy.word)]

/-- An option as data. -/
def Opt.toJson (o : Opt) : Json :=
  .object [("name", .list (o.names.map .text)), ("description", o.description),
    ("args", .list (o.args.map Arg.toJson)), ("is_persistent", .bool o.persistent),
    ("is_hidden", .bool o.hidden)]

mutual

/-- A command as data, with everything below it. -/
def Command.toJson : Command → Json
  | { names, description, children, options, args, strategy, hidden } =>
    .object [("name", .list (names.map .text)), ("description", description),
      ("subcommands", .list (Command.toJsonAll children)),
      ("options", .list (options.map Opt.toJson)), ("args", .list (args.map Arg.toJson)),
      ("filter_strategy", .text strategy.word), ("is_hidden", .bool hidden)]

/-- Commands as data. -/
def Command.toJsonAll : List Command → List Json
  | [] => []
  | c :: rest => c.toJson :: Command.toJsonAll rest

end

theorem holdsEach_map {α : Type} {key : String} {R : α → Json → Prop} {write : α → Json}
    {xs : List α} (hget : m.get? key = some (.list (xs.map write))) (hR : ∀ x, R x (write x)) :
    m.HoldsEach key R xs :=
  ⟨_, ⟨_, .inl hget, .list _⟩,
    List.forall₂_map_right_iff.mpr (List.forall₂_same.mpr fun x _ => hR x)⟩

theorem StaticValue.writtenAs_toJson (x : StaticValue) : StaticValue.WrittenAs [x] x.toJson :=
  @StaticValue.WrittenAs.object _ [x.name] _ ⟨_, .inl rfl, .alone nofun nofun⟩ (.inl rfl)

theorem Arg.writtenAs_toJson (a : Arg) : a.WrittenAs a.toJson := by
  refine ⟨_, rfl, .inl rfl, .inl rfl, .inl ⟨rfl, .inl rfl⟩, .inl ⟨rfl, .inl rfl⟩,
    .inl ⟨rfl, .inl rfl⟩, ?_, ?_, ?_, .inl ⟨rfl, .inl rfl⟩⟩
  · refine ⟨a.values.map ([·]), ⟨_, ⟨_, .inl rfl, .list _⟩, ?_⟩,
      (List.flatMap_singleton' a.values).symm⟩
    rw [List.forall₂_map_left_iff, List.forall₂_map_right_iff]
    exact List.forall₂_same.mpr fun x _ => x.writtenAs_toJson
  · refine ⟨_, .inl rfl, ?_⟩
    cases a.generator with
    | none => exact .none
    | some g => exact .object (.inl rfl) (.inl ⟨rfl, .inl rfl⟩) (.inl rfl)
  · exact ⟨_, .inr ⟨rfl, .inl rfl⟩, .list _⟩

theorem Opt.writtenAs_toJson (o : Opt) : o.WrittenAs o.toJson :=
  ⟨_, rfl, ⟨_, .inl rfl, .list _⟩, .inl rfl, holdsEach_map rfl Arg.writtenAs_toJson,
    .inl ⟨rfl, .inl rfl⟩, .inl ⟨rfl, .inl rfl⟩⟩

mutual

/-- **Every grammar can be written.** -/
theorem Command.writtenAs_toJson : ∀ c : Command, c.WrittenAs c.toJson
  | { children, .. } =>
    .object ⟨_, .inl rfl, .list _⟩ (.inl rfl) ⟨_, .inl rfl, .list _⟩
      (Command.writtenAs_toJsonAll children) (holdsEach_map rfl Opt.writtenAs_toJson)
      (holdsEach_map rfl Arg.writtenAs_toJson) (.inl ⟨rfl, .inl rfl⟩) (.inl ⟨rfl, .inl rfl⟩)

theorem Command.writtenAs_toJsonAll :
    ∀ cs : List Command, List.Forall₂ Command.WrittenAs cs (Command.toJsonAll cs)
  | [] => .nil
  | c :: rest => .cons (Command.writtenAs_toJson c) (Command.writtenAs_toJsonAll rest)

end

/-- **Loading gives a grammar back from the data it is written as.** There is such data for every
grammar. If the grammar is well formed and its generators call nothing, loading any such data gives
the grammar, whichever spelling of a key, lone element or omitted default was chosen at which
node. -/
theorem load_written {c : Command} (hwell : c.WellFormed) (hplain : c.EachArg Arg.Plain)
    (source : String) :
    c.WrittenAs c.toJson ∧ ∀ v, c.WrittenAs v → Command.load source v = .ok c :=
  ⟨c.writtenAs_toJson, fun _ h => load_eq_ok_iff.mpr (Command.ofJson_of_writtenAs hwell hplain h)⟩

/-- A command in camel case whose child is in snake case, with lone elements at both. -/
theorem load_written_docker :
    let units : Generator :=
      { script := some (.program ["systemctl", "list-units"]), splitOn := .text " " }
    let image : Arg := {
      name := "image", optional := true, values := [{ name := "alpine" }], generator := some units
      templates := [.folders] }
    let inner : Arg := { name := "command", command := true }
    let run : Command := { names := ["run"], args := [image, inner], strategy := .fuzzy }
    let debug : Opt := { names := ["-D", "--debug"], persistent := true }
    let docker : Command := { names := ["docker"], children := [run], options := [debug] }
    let unitsData : Json := .object [("splitOn", .text " "),
      ("script", .list [.text "systemctl", .text "list-units"])]
    let imageData : Json := .object [("name", .text "image"), ("is_optional", .bool true),
      ("suggestions", .text "alpine"), ("generator", unitsData), ("template", .text "folders")]
    let innerData : Json := .object [("isCommand", .bool true), ("name", .text "command")]
    let runData : Json := .object [("name", .list [.text "run"]),
      ("args", .list [imageData, innerData]), ("filter_strategy", .text "fuzzy")]
    let debugData : Json := .object [("name", .list [.text "-D", .text "--debug"]),
      ("isPersistent", .bool true)]
    let data : Json := .object [("name", .text "docker"), ("options", debugData),
      ("subcommands", runData), ("args", .list []), ("is_hidden", .bool false)]
    docker.WellFormed ∧ docker.EachArg Arg.Plain ∧ docker.WrittenAs data ∧
      Command.load "docker.json" data = .ok docker := by
  intro units image inner run debug docker unitsData imageData innerData runData debugData data
  have himage : image.Plain := fun g hg => Option.some.inj hg ▸ ⟨rfl, rfl, .inl rfl⟩
  have hinner : inner.Plain := nofun
  have himageData : image.WrittenAs imageData := by
    refine ⟨_, rfl, .inl rfl, .inr ⟨rfl, rfl⟩, .inl ⟨rfl, .inl rfl⟩, .inl ⟨rfl, .inr ⟨rfl, rfl⟩⟩,
      .inl ⟨rfl, .inr ⟨rfl, rfl⟩⟩, ?_, ?_, ?_, .inl ⟨rfl, .inr ⟨rfl, rfl⟩⟩⟩
    · exact ⟨[[{ name := "alpine" }]], ⟨_, ⟨_, .inl rfl, .alone nofun nofun⟩,
        .cons (.text "alpine") .nil⟩, rfl⟩
    · exact ⟨_, .inl rfl, .object (.inl rfl) (.inr ⟨rfl, .inl rfl⟩) (.inr ⟨rfl, rfl⟩)⟩
    · exact ⟨_, .inl ⟨rfl, .inl rfl⟩, .alone nofun nofun⟩
  have hinnerData : inner.WrittenAs innerData :=
    ⟨_, rfl, .inl rfl, .inr ⟨rfl, rfl⟩, .inl ⟨rfl, .inr ⟨rfl, rfl⟩⟩, .inl ⟨rfl, .inr ⟨rfl, rfl⟩⟩,
      .inr ⟨rfl, .inl rfl⟩, ⟨[], ⟨_, ⟨_, .inr ⟨rfl, rfl⟩, .null⟩, .nil⟩, rfl⟩,
      ⟨_, .inr ⟨rfl, rfl⟩, .none⟩, ⟨_, .inl ⟨rfl, .inr ⟨rfl, rfl⟩⟩, .null⟩,
      .inl ⟨rfl, .inr ⟨rfl, rfl⟩⟩⟩
  have hrunData : run.WrittenAs runData :=
    .object ⟨_, .inl rfl, .list _⟩ (.inr ⟨rfl, rfl⟩) ⟨_, .inr ⟨rfl, rfl⟩, .null⟩ .nil
      ⟨_, ⟨_, .inr ⟨rfl, rfl⟩, .null⟩, .nil⟩
      ⟨_, ⟨_, .inl rfl, .list _⟩, .cons himageData (.cons hinnerData .nil)⟩
      (.inl ⟨rfl, .inl rfl⟩) (.inl ⟨rfl, .inr ⟨rfl, rfl⟩⟩)
  have hdebugData : debug.WrittenAs debugData :=
    ⟨_, rfl, ⟨_, .inl rfl, .list _⟩, .inr ⟨rfl, rfl⟩, ⟨_, ⟨_, .inr ⟨rfl, rfl⟩, .null⟩, .nil⟩,
      .inr ⟨rfl, .inl rfl⟩, .inl ⟨rfl, .inr ⟨rfl, rfl⟩⟩⟩
  have hdata : docker.WrittenAs data :=
    .object ⟨_, .inl rfl, .alone nofun nofun⟩ (.inr ⟨rfl, rfl⟩)
      ⟨_, .inl rfl, .alone nofun nofun⟩ (.cons hrunData .nil)
      ⟨_, ⟨_, .inl rfl, .alone nofun nofun⟩, .cons hdebugData .nil⟩
      ⟨_, ⟨_, .inl rfl, .list _⟩, .nil⟩ (.inl ⟨rfl, .inr ⟨rfl, rfl⟩⟩) (.inl ⟨rfl, .inl rfl⟩)
  have hrun : run.WellFormed := .node ⟨by decide, by decide⟩ (by decide) nofun nofun
  have hdebug : debug.WellFormed := ⟨⟨by decide, by decide⟩, by decide⟩
  have hwell : docker.WellFormed :=
    .node ⟨by decide, by decide⟩ (by decide) (List.forall_mem_singleton.mpr hdebug)
      (List.forall_mem_singleton.mpr hrun)
  have hrunPlain : run.EachArg Arg.Plain :=
    .node (List.forall_mem_cons.mpr ⟨himage, List.forall_mem_singleton.mpr hinner⟩)
      (List.forall_mem_nil _) (List.forall_mem_nil _)
  have hplain : docker.EachArg Arg.Plain :=
    .node (List.forall_mem_nil _) (List.forall_mem_singleton.mpr (List.forall_mem_nil _))
      (List.forall_mem_singleton.mpr hrunPlain)
  exact ⟨hwell, hplain, hdata, (load_written hwell hplain "docker.json").2 data hdata⟩

end TabCompletion
