import TabCompletion.Proofs.Grammar.Reading
import TabCompletion.Registry.Files

/-!
# What is read is well formed

Every command and option that is read has names, none of them empty, and in every list of arguments
a command argument stands last (`Command.WellFormed`). A grammar has a node for every element of the
data and no other: children, options and arguments stand one to one, in order, for the elements
under their keys (`Command.ReadFrom`). Both hold at every depth.

Results:
* `Opt.wellFormed_of_ofJson`, `Opt.readFrom_of_ofJson`: options.
* **`loaded_wellFormed`**: a grammar that is loaded is well formed and stands for its data.
-/

namespace TabCompletion

/-! ## Well-formed grammars -/

/-- An option with names, and with a command argument at most at the end of its arguments. -/
structure Opt.WellFormed (o : Opt) : Prop where
  names : ValidNames o.names
  args : CommandLast o.args

/-- A command with names, and with a command argument at most at the end of its arguments, whose
options and children are well formed. -/
inductive Command.WellFormed : Command → Prop
  | node {c : Command} (names : ValidNames c.names) (args : CommandLast c.args)
      (options : ∀ o ∈ c.options, o.WellFormed) (children : ∀ d ∈ c.children, WellFormed d) :
      WellFormed c

/-! ## Nodes and the data they stand for -/

/-- An argument stands for the value that it is read from. -/
def Arg.ReadFrom (a : Arg) (v : Json) : Prop := Arg.ofJson v = .ok a

/-- An option stands for the object that it is read from. It has the names in the object, and its
arguments stand one to one for the elements under their key. -/
def Opt.ReadFrom (o : Opt) (v : Json) : Prop :=
  Opt.ofJson v = .ok o ∧ ∃ m : Members, v = .object m ∧
    (m.getOrNull "name").elements = o.names.map .text ∧
    List.Forall₂ Arg.ReadFrom o.args (m.getOrNull "args").elements

/-- A command stands for the object that it is read from. It has the names in the object, and its
children, options and arguments stand one to one for the elements under their keys. -/
inductive Command.ReadFrom : Command → Json → Prop
  | object {c : Command} {m : Members} (read : Command.ofJson (.object m) = .ok c)
      (names : (m.getOrNull "name").elements = c.names.map .text)
      (children : List.Forall₂ ReadFrom c.children (m.getOrNull "subcommands").elements)
      (options : List.Forall₂ Opt.ReadFrom c.options (m.getOrNull "options").elements)
      (args : List.Forall₂ Arg.ReadFrom c.args (m.getOrNull "args").elements) :
      ReadFrom c (.object m)

/-! ## Reading -/

variable {v : Json} {o : Opt} {c : Command}

theorem load_eq_ok_iff {source : String} :
    Command.load source v = .ok c ↔ Command.ofJson v = .ok c := by
  unfold Command.load
  cases Command.ofJson v with
  | error f => exact ⟨nofun, nofun⟩
  | ok d => simp [Except.mapError]

theorem Opt.wellFormed_of_ofJson (h : Opt.ofJson v = .ok o) : o.WellFormed := by
  cases v with
  | object m =>
    obtain ⟨hnames, hargs, -⟩ := Opt.ofJson_object_eq_ok_iff.mp h
    exact ⟨(loadNames_eq_ok_iff.mp hnames).2, (loadArgs_eq_ok_iff.mp hargs).2⟩
  | null | bool | int | real | text | list => cases h

theorem Opt.readFrom_of_ofJson (h : Opt.ofJson v = .ok o) : o.ReadFrom v := by
  cases v with
  | object m =>
    obtain ⟨hnames, hargs, -⟩ := Opt.ofJson_object_eq_ok_iff.mp h
    exact ⟨h, m, rfl, (loadNames_eq_ok_iff.mp hnames).1, (loadArgs_eq_ok_iff.mp hargs).1.flip⟩
  | null | bool | int | real | text | list => cases h

/-- A command is well formed if the children read with it are. -/
theorem Command.wellFormed_of_ofJson (h : Command.ofJson v = .ok c) : c.WellFormed := by
  induction v using Json.below_induction generalizing c with
  | other v hv =>
    cases v with
    | object m => exact absurd rfl (hv m)
    | null | bool | int | real | text | list => cases h
  | object m ih =>
    obtain ⟨hnames, hchildren, hoptions, hargs, -⟩ := Command.ofJson_object_eq_ok_iff.mp h
    refine .node (loadNames_eq_ok_iff.mp hnames).2 (loadArgs_eq_ok_iff.mp hargs).2
      (fun o ho => ?_) (fun d hd => ?_)
    · obtain ⟨w, -, hw⟩ := exists_of_forall₂ hoptions ho
      exact Opt.wellFormed_of_ofJson hw
    · obtain ⟨w, hmem, hw⟩ := exists_of_forall₂ hchildren hd
      exact ih w hmem hw

/-- A command stands for its data if the children read with it do for theirs. -/
theorem Command.readFrom_of_ofJson (h : Command.ofJson v = .ok c) : c.ReadFrom v := by
  induction v using Json.below_induction generalizing c with
  | other v hv =>
    cases v with
    | object m => exact absurd rfl (hv m)
    | null | bool | int | real | text | list => cases h
  | object m ih =>
    obtain ⟨hnames, hchildren, hoptions, hargs, -⟩ := Command.ofJson_object_eq_ok_iff.mp h
    refine .object h (loadNames_eq_ok_iff.mp hnames).1 ?_ ?_ (loadArgs_eq_ok_iff.mp hargs).1.flip
    · exact (forall₂_imp_of_mem (fun w hw d _ hd => ih w hw hd) hchildren).flip
    · exact (hoptions.imp fun _ _ => Opt.readFrom_of_ofJson).flip

/-- **A grammar that is loaded is well formed and stands for its data.** At every depth names are
there and not empty, and command arguments stand last. Every child, option and argument is read from
one element of the data, and every element has one, in order. A value alone counts as a list of one
element, and null or nothing as the empty list. -/
theorem loaded_wellFormed {source : String} {v : Json} {c : Command}
    (h : Command.load source v = .ok c) : c.WellFormed ∧ c.ReadFrom v :=
  have hread := load_eq_ok_iff.mp h
  ⟨Command.wellFormed_of_ofJson hread, Command.readFrom_of_ofJson hread⟩

/-- A command with a lone option, a lone child, whose second argument is a command, and arguments
that are null. -/
theorem loaded_wellFormed_docker :
    let debug : Json := .object [("name", .list [.text "-D", .text "--debug"])]
    let image : Json := .object [("name", .text "image")]
    let inner : Json := .object [("name", .text "command"), ("isCommand", .bool true)]
    let run : Json := .object [("name", .text "run"), ("args", .list [image, inner])]
    let data : Json := .object [("name", .text "docker"), ("options", debug),
      ("subcommands", run), ("args", .null)]
    let docker : Command := {
      names := ["docker"]
      options := [{ names := ["-D", "--debug"] }]
      children := [{ names := ["run"], args := [{ name := "image" },
        { name := "command", command := true }] }] }
    Command.load "docker.json" data = .ok docker ∧ docker.WellFormed ∧ docker.ReadFrom data := by
  intro debug image inner run data docker
  have h : Command.load "docker.json" data = .ok docker := by rfl
  exact ⟨h, loaded_wellFormed h⟩

end TabCompletion
