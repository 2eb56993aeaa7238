import TabCompletion.Proofs.Registry
import TabCompletion.Proofs.Registry.Directory

/-!
# A grammar file is registered as a whole or not at all

All items of a file are read before the first of them is registered. So a file either holds grammars,
and then all of them are registered in order, or it leaves the registry as it was. One value that is
no command is enough for that, wherever it stands: among the items of the file or at any depth below
one of them (`Json.Nests`).

Results:
* `mem_faults_of_nests`: a fault of a command below is one of every command above it.
* `holds_iff_of_writes`, `not_holds_of_fault`: what a file holds that writes a value.
* `fileLoaded_loadFile`: the three ways in which loading a file ends.
* **`file_whole_or_not`**: the registry after a file was loaded, and when it is the one before.
-/

namespace TabCompletion

/-! ## Commands below commands -/

/-- For `v` to be a command, `w` has to be one: it is `v` itself, or it stands at some depth among
the children. -/
inductive Json.Nests : Json → Json → Prop
  | self {v} : Nests v v
  | child {m : Members} {v w} (hv : v ∈ (m.getOrNull "subcommands").elements) (h : Nests v w) :
      Nests (.object m) w

/-- **A fault of a command below** is one of every command above it. -/
theorem mem_faults_of_nests {v w : Json} (h : v.Nests w) {f : LoadFault}
    (hf : f ∈ Command.faults w) : f ∈ Command.faults v := by
  induction h with
  | self => exact hf
  | @child m v w hv _ ih =>
    rw [Command.faults_object, List.mem_append, List.mem_append]
    exact .inr (.inl (List.mem_flatMap.mpr ⟨v, hv, ih hf⟩))

variable {h : Host} {path : String} {v : Json} {cs : List Command}

/-! ## What a file holds -/

/-- What a file holds that writes a value. -/
theorem holds_iff_of_writes (hv : h.Writes path v) :
    h.Holds path cs ↔ List.Forall₂ (fun w c => Command.ofJson w = .ok c) (grammarItems v) cs := by
  rw [← readGrammars_eq_grammars_iff, readGrammars_of_writes hv, grammarsOf_eq_grammars_iff]

/-- A value with a fault is not read. -/
theorem not_ofJson_of_fault {f : LoadFault} (hf : f ∈ Command.faults v) (c : Command) :
    Command.ofJson v ≠ .ok c := by
  intro hc
  have hfirst := Command.firstFault_ofJson v
  rw [hc] at hfirst
  have hnone : Command.faults v = [] := List.head?_eq_none_iff.mp hfirst.symm
  rw [hnone] at hf
  exact List.not_mem_nil hf

/-- **One fault is enough**: the file holds no grammars then, whatever its other items are. -/
theorem not_holds_of_fault (hv : h.Writes path v) {item w : Json} (hitem : item ∈ grammarItems v)
    (hw : item.Nests w) {f : LoadFault} (hf : f ∈ Command.faults w) : ¬ h.Holds path cs := by
  rw [holds_iff_of_writes hv]
  intro hall
  obtain ⟨c, -, hc⟩ := exists_of_forall₂ hall.flip hitem
  exact not_ofJson_of_fault (mem_faults_of_nests hw hf) c hc

/-! ## Loading a file -/

namespace Registry

/-- What came of loading a file into a registry. The grammars that it holds are registered in order,
and counted; if it holds none it is passed over, or it is fatal, and the registry is as it was. -/
inductive FileLoaded (reg : Registry) (h : Host) (path : String) (r : Loaded) : Prop
  | whole {cs : List Command} (hholds : h.Holds path cs) (hregistry : r.registry = reg.registerAll cs)
      (hresult : r.result = .ok cs.length)
  | skipped (hnone : ∀ cs, ¬ h.Holds path cs) (hfatal : ¬ h.Fatal path)
      (hregistry : r.registry = reg) (hresult : r.result = .ok 0)
  | failed {f : Fault} (hnone : ∀ cs, ¬ h.Holds path cs) (hfatal : h.Fatal path)
      (hregistry : r.registry = reg) (hresult : r.result = .error f)

/-- **What comes of loading a file.** -/
theorem fileLoaded_loadFile (reg : Registry) (h : Host) (path : String) :
    reg.FileLoaded h path (reg.loadFile h path) := by
  by_cases hfatal : h.Fatal path
  · obtain ⟨f, hload⟩ := @loadFile_of_fatal h path reg hfatal
    obtain ⟨g, hfile⟩ := readGrammars_fault_iff.mpr hfatal
    have hnone : ∀ cs, ¬ h.Holds path cs := by
      intro cs hcs
      rw [readGrammars_eq_grammars_iff.mpr hcs] at hfile
      cases hfile
    rw [hload]
    exact .failed hnone hfatal rfl rfl
  · obtain ⟨cs, hgives, hregistry, hresult⟩ := @loadFile_of_not_fatal h path reg hfatal
    rcases hgives with hholds | ⟨rfl, hnone⟩
    · exact .whole hholds hregistry hresult
    · exact .skipped hnone hfatal hregistry hresult

namespace FileLoaded

variable {reg : Registry} {r : Loaded}

/-- Without a grammar the registry is as it was. -/
theorem unchanged (hr : reg.FileLoaded h path r) (hnone : ∀ cs, ¬ h.Holds path cs) :
    r.registry = reg ∧ (r.result = .ok 0 ∨ ∃ f, r.result = .error f) := by
  cases hr with
  | whole hholds _ _ => exact absurd hholds (hnone _)
  | skipped _ _ hregistry hresult => exact ⟨hregistry, .inl hresult⟩
  | failed _ _ hregistry hresult => exact ⟨hregistry, .inr ⟨_, hresult⟩⟩

/-- If no grammar is counted the registry is as it was. -/
theorem unchanged_of_result (hr : reg.FileLoaded h path r)
    (hresult : r.result = .ok 0 ∨ ∃ f, r.result = .error f) : r.registry = reg := by
  cases hr with
  | @whole cs _ hregistry hcount =>
    have hlength : cs.length = 0 := by
      rw [hcount] at hresult
      rcases hresult with hzero | ⟨f, hf⟩
      · exact Except.ok.inj hzero
      · cases hf
    obtain rfl := List.length_eq_zero_iff.mp hlength
    exact hregistry
  | skipped _ _ hregistry _ => exact hregistry
  | failed _ _ hregistry _ => exact hregistry

end FileLoaded

theorem loadFile_of_holds (reg : Registry) (hcs : h.Holds path cs) :
    reg.loadFile h path = { registry := reg.registerAll cs, result := .ok cs.length } := by
  unfold loadFile
  rw [readGrammars_eq_grammars_iff.mpr hcs]

/-- **A grammar file is registered as a whole or not at all.** The grammars that a file holds are
registered in order, so that a name leads to the last of them that has it, or else where it led
before; their number is the result. A file that holds none is passed over or ends in a fault, and
then the registry is the one before. That is so whenever the result is no number or zero, and whenever
there is a fault anywhere in the file: in an item at any place, or in a command at any depth below
one. -/
theorem file_whole_or_not (reg : Registry) (h : Host) (path : String) :
    let r := reg.loadFile h path
    reg.FileLoaded h path r ∧
    (∀ cs, h.Holds path cs → ∀ name, r.registry.lookup name =
      (cs.reverse.find? (·.names.contains name)).or (reg.lookup name)) ∧
    ((r.result = .ok 0 ∨ ∃ f, r.result = .error f) → r.registry = reg) ∧
    ∀ v item w f, h.Writes path v → item ∈ grammarItems v → item.Nests w → f ∈ Command.faults w →
      r.registry = reg ∧ (r.result = .ok 0 ∨ ∃ f, r.result = .error f) := by
  intro r
  have hr : reg.FileLoaded h path r := fileLoaded_loadFile reg h path
  refine ⟨hr, fun cs hcs name => ?_, hr.unchanged_of_result, fun v item w f hv hitem hw hf => ?_⟩
  · have hload : r = { registry := reg.registerAll cs, result := .ok cs.length } :=
      loadFile_of_holds reg hcs
    rw [hload]
    exact lookup_registerAll reg cs name
  · exact hr.unchanged fun cs => not_holds_of_fault hv hitem hw hf

/-! ## A child without a name -/

/-- A child without a name. -/
def nameless : Json := .object [("name", .text "")]

/-- Two commands as data, the second of which has that child. -/
def halfValid : List Json :=
  [.object [("name", .text "a")], .object [("name", .text "b"), ("subcommands", nameless)]]

/-- The two as a text. -/
def halfValidText : String :=
  "[\x7b\"name\":\"a\"\x7d,\x7b\"name\":\"b\",\"subcommands\":\x7b\"name\":\"\"\x7d\x7d]"

/-- A file with that text. -/
def halfValidHost : Host where
  disk :=
    { nodes := [(["tools.json"], { entry := .file (.bytes halfValidText.toUTF8), modified := 0 })] }
  home := "/"
  workingDir := { path := "/" }

theorem writes_halfValidHost : halfValidHost.Writes "/tools.json" (.list halfValid) := by
  have hway : Disk.way halfValidHost.workingDir "/tools.json" = .ok ([], ["", "tools.json"]) := by
    rfl
  have hwalk : halfValidHost.disk.walk true Disk.maxLinks [] ["", "tools.json"] =
      .ok ["tools.json"] := by cbv
  have htext : String.fromUTF8? halfValidText.toUTF8 = some halfValidText := by
    simp only [String.fromUTF8?]
    rfl
  have hparse : Json.parse halfValidText = .ok (.list halfValid) := by cbv
  exact ⟨_, _, Disk.read_of_locate (Disk.locate_of_walk hway hwalk) rfl, htext, hparse⟩

/-- The first of the two could be registered alone, and it is not. -/
theorem file_whole_or_not_half :
    (∀ item ∈ halfValid.head?, ∃ c, Command.ofJson item = .ok c) ∧
    ∀ reg : Registry, (reg.loadFile halfValidHost "/tools.json").registry = reg := by
  have hfirst : ∀ item ∈ halfValid.head?, ∃ c, Command.ofJson item = .ok c := by
    rintro item ⟨⟩
    exact ⟨{ names := ["a"] }, rfl⟩
  have hfault : .spec (.noName .subcommand) ∈ Command.faults nameless := by
    unfold nameless
    rw [Command.faults_object]
    exact List.mem_append_left _ List.mem_cons_self
  have hnests : (Json.object [("name", .text "b"), ("subcommands", nameless)]).Nests nameless :=
    .child List.mem_cons_self .self
  refine ⟨hfirst, fun reg => ?_⟩
  obtain ⟨-, -, -, hnothing⟩ := file_whole_or_not reg halfValidHost "/tools.json"
  exact (hnothing _ _ _ _ writes_halfValidHost (.tail _ List.mem_cons_self) hnests hfault).1

end Registry

end TabCompletion
