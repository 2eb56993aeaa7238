import Mathlib
import TabCompletion.Proofs.Disk.Way
import TabCompletion.Proofs.Grammar.Faults

/-!
# Directories of grammar files

The grammar files of a directory are read one after the other, in the order of their names
(`Host.GrammarFiles`). A file that holds grammars (`Host.Holds`) has them registered, any other is
passed over, except for one that is fatal (`Host.Fatal`): it ends the reading, and what comes after
it is lost. A file is fatal if it is no UTF-8 text, if it writes a whole number with too many
digits, or if the first fault of its grammars is one that escapes.

Results:
* `readGrammars_eq_grammars_iff`, `readGrammars_fault_iff`: what a file holds, and when it is fatal.
* `filesLoaded_loadFiles`: what comes of loading files, by induction on the files. A file that is
  not fatal is one more step before the rest (`FilesLoaded.cons`).
* `grammarPaths_eq_ok_iff`, `grammarPaths_error_iff`: the files of a directory, in order.
* **`loadDirectory_spec`**: exactly when a directory fails to be loaded, and what is registered.
* `fatal_file_not_skipped`: a file that is no UTF-8 text keeps the one after it from being loaded.
-/

namespace TabCompletion

/-! ## Files -/

/-- The values of a file that have to be grammars: the items of a list, else the value alone. -/
def grammarItems : Json → List Json
  | .list items => items
  | v => [v]

/-- A file writes a value: it can be read, and it is UTF-8 text that is the value as JSON. -/
def Host.Writes (h : Host) (path : String) (v : Json) : Prop :=
  ∃ bytes text, h.disk.read h.workingDir (Path.normalize path) = .ok bytes ∧
    String.fromUTF8? bytes = some text ∧ Json.parse text = .ok v

/-- A file holds grammars: it writes a value whose items are the grammars, one by one. -/
def Host.Holds (h : Host) (path : String) (cs : List Command) : Prop :=
  ∃ v, h.Writes path v ∧ List.Forall₂ (fun w c => Command.ofJson w = .ok c) (grammarItems v) cs

/-- A file is not passed over: its path has a null character, it is no UTF-8 text, it writes a whole
number with too many digits, or the first fault of its items is none of a grammar. -/
inductive Host.Fatal (h : Host) (path : String) : Prop
  | nullInPath (hread : h.disk.read h.workingDir (Path.normalize path) = .error .nullInPath)
  | notText {bytes : ByteArray}
      (hread : h.disk.read h.workingDir (Path.normalize path) = .ok bytes)
      (htext : String.fromUTF8? bytes = none)
  | longInteger {bytes : ByteArray} {text : String} {digits : Nat}
      (hread : h.disk.read h.workingDir (Path.normalize path) = .ok bytes)
      (htext : String.fromUTF8? bytes = some text)
      (hparse : Json.parse text = .error (.longInteger digits))
  | escapes {v : Json} {f : LoadFault} (hv : h.Writes path v)
      (hfirst : ((grammarItems v).flatMap Command.faults).head? = some f)
      (hf : f.escapes = true)

/-- What a file adds to a registry: the grammars that it holds, else nothing. -/
def Host.Gives (h : Host) (path : String) (cs : List Command) : Prop :=
  h.Holds path cs ∨ cs = [] ∧ ∀ ds, ¬ h.Holds path ds

variable {h : Host} {path source : String} {v : Json} {cs : List Command}

theorem grammarsOf_eq (source : String) (v : Json) :
    grammarsOf source v =
      match (grammarItems v).mapM Command.ofJson with
      | .ok cs => .grammars cs
      | .error (.spec f) => .skipped (.skippedSpec (LoadFault.message source (.spec f)))
      | .error f => .fault (.load f source) := by
  cases v <;> rfl

theorem grammarsOf_eq_grammars_iff :
    grammarsOf source v = .grammars cs ↔
      List.Forall₂ (fun w c => Command.ofJson w = .ok c) (grammarItems v) cs := by
  rw [← mapM_eq_ok_iff, grammarsOf_eq]
  cases (grammarItems v).mapM Command.ofJson with
  | ok ds => simp
  | error f => cases f <;> simp

/-- Grammars are not passed over if the first fault among them escapes. -/
theorem grammarsOf_fault_iff :
    (∃ f, grammarsOf source v = .fault f) ↔
      ∃ f, ((grammarItems v).flatMap Command.faults).head? = some f ∧ f.escapes = true := by
  rw [← firstFault_mapM fun w _ => Command.firstFault_ofJson w, grammarsOf_eq]
  cases (grammarItems v).mapM Command.ofJson with
  | ok ds => simp [firstFault?]
  | error f => cases f <;> simp [firstFault?, LoadFault.escapes]

theorem readGrammars_of_writes (hv : h.Writes path v) :
    h.readGrammars path = grammarsOf path v := by
  obtain ⟨bytes, text, hread, htext, hparse⟩ := hv
  unfold Host.readGrammars
  rw [hread]
  dsimp only
  rw [htext]
  dsimp only
  rw [hparse]

theorem readGrammars_of_not_text {bytes : ByteArray}
    (hread : h.disk.read h.workingDir (Path.normalize path) = .ok bytes)
    (htext : String.fromUTF8? bytes = none) : h.readGrammars path = .fault .notText := by
  unfold Host.readGrammars
  rw [hread]
  dsimp only
  rw [htext]

/-- **What a file holds.** -/
theorem readGrammars_eq_grammars_iff : h.readGrammars path = .grammars cs ↔ h.Holds path cs := by
  constructor
  · intro hfile
    unfold Host.readGrammars at hfile
    split at hfile
    · cases hfile
    · cases hfile
    · rename_i bytes hread
      split at hfile
      · cases hfile
      · rename_i text htext
        split at hfile
        · cases hfile
        · cases hfile
        · rename_i v hparse
          exact ⟨v, ⟨bytes, text, hread, htext, hparse⟩, grammarsOf_eq_grammars_iff.mp hfile⟩
  · rintro ⟨v, hv, hall⟩
    rw [readGrammars_of_writes hv]
    exact grammarsOf_eq_grammars_iff.mpr hall

/-- **When a file is fatal.** -/
theorem readGrammars_fault_iff : (∃ f, h.readGrammars path = .fault f) ↔ h.Fatal path := by
  constructor
  · rintro ⟨f, hfile⟩
    unfold Host.readGrammars at hfile
    split at hfile
    · rename_i hread
      exact .nullInPath hread
    · cases hfile
    · rename_i bytes hread
      split at hfile
      · rename_i htext
        exact .notText hread htext
      · rename_i text htext
        split at hfile
        · cases hfile
        · rename_i digits hparse
          exact .longInteger hread htext hparse
        · rename_i v hparse
          obtain ⟨g, hfirst, hg⟩ := grammarsOf_fault_iff.mp ⟨f, hfile⟩
          exact .escapes ⟨bytes, text, hread, htext, hparse⟩ hfirst hg
  · intro hfatal
    cases hfatal with
    | nullInPath hread => exact ⟨_, by unfold Host.readGrammars; rw [hread]⟩
    | notText hread htext => exact ⟨_, readGrammars_of_not_text hread htext⟩
    | @longInteger _ _ digits hread htext hparse =>
      refine ⟨.longInteger digits, ?_⟩
      unfold Host.readGrammars
      rw [hread]
      dsimp only
      rw [htext]
      dsimp only
      rw [hparse]
    | escapes hv hfirst hf =>
      rw [readGrammars_of_writes hv]
      exact grammarsOf_fault_iff.mpr ⟨_, hfirst, hf⟩

namespace Registry

variable {reg : Registry} {directory : String} {paths : List String}

/-! ## Files one after the other -/

/-- A file that is not fatal has what it gives registered. -/
theorem loadFile_of_not_fatal (hfatal : ¬ h.Fatal path) :
    ∃ cs, h.Gives path cs ∧ (reg.loadFile h path).registry = reg.registerAll cs ∧
      (reg.loadFile h path).result = .ok cs.length := by
  unfold loadFile
  cases hfile : h.readGrammars path with
  | grammars cs => exact ⟨cs, .inl (readGrammars_eq_grammars_iff.mp hfile), rfl, rfl⟩
  | skipped n =>
    refine ⟨[], .inr ⟨rfl, fun ds hds => ?_⟩, rfl, rfl⟩
    rw [readGrammars_eq_grammars_iff.mpr hds] at hfile
    cases hfile
  | fault f => exact absurd (readGrammars_fault_iff.mp ⟨f, hfile⟩) hfatal

/-- A fatal file leaves the registry as it is. -/
theorem loadFile_of_fatal (hfatal : h.Fatal path) :
    ∃ f, reg.loadFile h path = { registry := reg, result := .error f } := by
  obtain ⟨f, hfile⟩ := readGrammars_fault_iff.mpr hfatal
  exact ⟨f, by unfold loadFile; rw [hfile]⟩

theorem registerAll_flatten_cons (cs : List Command) (css : List (List Command)) :
    reg.registerAll (cs :: css).flatten = (reg.registerAll cs).registerAll css.flatten := by
  rw [List.flatten_cons]
  exact List.foldl_append

/-- What came of loading some files into a registry. If none is fatal, what they give is registered
in order, and counted. Else there is no count, and only the files before the first fatal one have
what they give registered. -/
inductive FilesLoaded (reg : Registry) (h : Host) (paths : List String) (r : Loaded) : Prop
  | whole {css : List (List Command)} (hread : ∀ p ∈ paths, ¬ h.Fatal p)
      (hgives : List.Forall₂ h.Gives paths css)
      (hregistry : r.registry = reg.registerAll css.flatten)
      (hresult : r.result = .ok css.flatten.length)
  | stopped {read after : List String} {p : String} {css : List (List Command)} {f : Fault}
      (hpaths : paths = read ++ p :: after) (hread : ∀ q ∈ read, ¬ h.Fatal q) (hp : h.Fatal p)
      (hgives : List.Forall₂ h.Gives read css)
      (hregistry : r.registry = reg.registerAll css.flatten) (hresult : r.result = .error f)

/-- A file that is not fatal, and then the others, loaded into the registry that it leaves. -/
theorem FilesLoaded.cons {r : Loaded} (notes : List Note) (hfatal : ¬ h.Fatal path)
    (hgives : h.Gives path cs) (hr : (reg.registerAll cs).FilesLoaded h paths r) :
    reg.FilesLoaded h (path :: paths)
      { r with notes := notes ++ r.notes, result := r.result.map (cs.length + ·) } := by
  cases hr with
  | @whole css hread hall hregistry hresult =>
    have hcount : r.result.map (cs.length + ·) = .ok (cs :: css).flatten.length := by
      rw [hresult, List.flatten_cons, List.length_append]
      rfl
    exact .whole (List.forall_mem_cons.mpr ⟨hfatal, hread⟩) (.cons hgives hall)
      (hregistry.trans (registerAll_flatten_cons cs css).symm) hcount
  | @stopped read after p css f hpaths hread hp hall hregistry hresult =>
    have hbefore : path :: paths = (path :: read) ++ p :: after := by
      rw [hpaths]
      rfl
    have hfault : r.result.map (cs.length + ·) = .error f := by
      rw [hresult]
      rfl
    exact .stopped hbefore (List.forall_mem_cons.mpr ⟨hfatal, hread⟩) hp (.cons hgives hall)
      (hregistry.trans (registerAll_flatten_cons cs css).symm) hfault

/-- A fault ends the loading. -/
theorem loadFiles_of_error {f : Fault} (paths : List String)
    (hfile : (reg.loadFile h path).result = .error f) :
    reg.loadFiles h (path :: paths) = reg.loadFile h path := by
  -- Only the head is unfolded, as the equation of the definition would look into the reading.
  conv => lhs; whnf
  rw [hfile]

/-- A file that is passed over or registered is followed by the others. -/
theorem loadFiles_of_ok {n : Nat} (paths : List String)
    (hfile : (reg.loadFile h path).result = .ok n) :
    reg.loadFiles h (path :: paths) =
      let others := (reg.loadFile h path).registry.loadFiles h paths
      { others with
        notes := (reg.loadFile h path).notes ++ others.notes
        result := others.result.map (n + ·) } := by
  conv => lhs; whnf
  rw [hfile]

/-- **What comes of loading files.** -/
theorem filesLoaded_loadFiles (reg : Registry) (h : Host) (paths : List String) :
    reg.FilesLoaded h paths (reg.loadFiles h paths) := by
  induction paths generalizing reg with
  | nil => exact .whole (List.forall_mem_nil _) .nil rfl rfl
  | cons path paths ih =>
    by_cases hfatal : h.Fatal path
    · obtain ⟨f, hfile⟩ := @loadFile_of_fatal h path reg hfatal
      rw [loadFiles_of_error paths (by rw [hfile]), hfile]
      exact .stopped rfl (List.forall_mem_nil _) hfatal .nil rfl rfl
    · obtain ⟨cs, hgives, hreg, hcount⟩ := @loadFile_of_not_fatal h path reg hfatal
      rw [loadFiles_of_ok paths hcount, hreg]
      exact .cons _ hfatal hgives (ih (reg.registerAll cs))

/-- Loading files fails if there is a fatal one among them. -/
theorem FilesLoaded.error_iff {r : Loaded} (hr : reg.FilesLoaded h paths r) :
    (∃ f, r.result = .error f) ↔ ∃ p ∈ paths, h.Fatal p := by
  cases hr with
  | whole hread _ _ hresult =>
    rw [hresult]
    exact ⟨nofun, fun ⟨p, hmem, hp⟩ => absurd hp (hread p hmem)⟩
  | @stopped _ _ p _ _ hpaths _ hp _ _ hresult =>
    have hmem : p ∈ paths := by
      rw [hpaths]
      exact List.mem_append_cons_self
    exact ⟨fun _ => ⟨_, hmem, hp⟩, fun _ => ⟨_, hresult⟩⟩

end Registry

/-! ## The files of a directory -/

/-- The path of a file in a directory. -/
def grammarPath (directory name : String) : String :=
  if Path.normalize directory = "." then name else Path.join (Path.normalize directory) name

/-- The grammar files of a directory: the entries whose names end in `.json`, in the order of their
names. A directory that is not there has none, nor one that may not be read. -/
inductive Host.GrammarFiles (h : Host) (directory : String) : List String → Prop
  | missing (hdir : h.disk.isDirectory h.workingDir (Path.normalize directory) = .ok false) :
      GrammarFiles h directory []
  | denied (hdir : h.disk.isDirectory h.workingDir (Path.normalize directory) = .ok true)
      (hentries : h.disk.entries h.workingDir (Path.normalize directory) = .error .denied) :
      GrammarFiles h directory []
  | listed {entries : List (String × Node)} {names : List String}
      (hdir : h.disk.isDirectory h.workingDir (Path.normalize directory) = .ok true)
      (hentries : h.disk.entries h.workingDir (Path.normalize directory) = .ok entries)
      (hperm : names.Perm ((entries.map (·.1)).filter (·.endsWith ".json")))
      (hsorted : names.Pairwise (· ≤ ·)) :
      GrammarFiles h directory (names.map (grammarPath directory))

/-- A directory of which it cannot be told what is in it: not whether it is one, or not its
entries, for another reason than that it may not be read. -/
inductive Host.Unlistable (h : Host) (directory : String) : Prop
  | unseen {f : FileFault}
      (hdir : h.disk.isDirectory h.workingDir (Path.normalize directory) = .error f)
  | unread {f : FileFault}
      (hdir : h.disk.isDirectory h.workingDir (Path.normalize directory) = .ok true)
      (hentries : h.disk.entries h.workingDir (Path.normalize directory) = .error f)
      (hf : f ≠ .denied)

namespace Registry

/-- A permutation of some names that is in order is those names sorted. -/
theorem eq_mergeSort {names sorted : List String} (hperm : sorted.Perm names)
    (hsorted : sorted.Pairwise (· ≤ ·)) : sorted = names.mergeSort (· ≤ ·) :=
  List.Perm.eq_of_pairwise (fun _ _ _ _ => String.le_antisymm) hsorted
    (List.pairwise_mergeSort' (· ≤ ·) names) (hperm.trans (List.mergeSort_perm names _).symm)

/-- **The files of a directory, in order.** -/
theorem grammarPaths_eq_ok_iff :
    grammarPaths h directory = .ok paths ↔ h.GrammarFiles directory paths := by
  unfold grammarPaths
  constructor
  · intro hpaths
    dsimp only at hpaths
    split at hpaths
    · cases hpaths
    · rename_i hdir
      cases hpaths
      exact .missing hdir
    · rename_i hdir
      split at hpaths
      · rename_i hentries
        cases hpaths
        exact .denied hdir hentries
      · cases hpaths
      · rename_i entries hentries
        cases hpaths
        exact .listed hdir hentries (List.mergeSort_perm _ _)
          (List.pairwise_mergeSort' (· ≤ ·) _)
  · intro hfiles
    dsimp only
    cases hfiles with
    | missing hdir => rw [hdir]
    | denied hdir hentries =>
      rw [hdir]
      dsimp only
      rw [hentries]
    | listed hdir hentries hperm hsorted =>
      rw [hdir]
      dsimp only
      rw [hentries]
      dsimp only
      rw [eq_mergeSort hperm hsorted]
      rfl

/-- When it cannot be told which files a directory has. -/
theorem grammarPaths_error_iff :
    (∃ f, grammarPaths h directory = .error f) ↔ h.Unlistable directory := by
  unfold grammarPaths
  constructor
  · rintro ⟨f, hpaths⟩
    dsimp only at hpaths
    split at hpaths
    · rename_i hdir
      exact .unseen hdir
    · cases hpaths
    · rename_i hdir
      split at hpaths
      · cases hpaths
      · rename_i g hg hentries
        exact .unread hdir hentries hg
      · cases hpaths
  · intro hfault
    dsimp only
    cases hfault with
    | unseen hdir => exact ⟨_, by rw [hdir]⟩
    | @unread f hdir hentries hf =>
      refine ⟨.file f, ?_⟩
      rw [hdir]
      dsimp only
      rw [hentries]
      cases f with
      | denied => exact absurd rfl hf
      | _ => rfl

/-- **Directories of grammar files.** A directory fails to be loaded exactly if it cannot be told
which files it has, or one of them is fatal. What is registered is what the files give, in order and
up to the first fatal one. -/
theorem loadDirectory_spec (reg : Registry) (h : Host) (directory : String) :
    ((∃ f, (reg.loadDirectory h directory).result = .error f) ↔
      h.Unlistable directory ∨ ∃ paths, h.GrammarFiles directory paths ∧ ∃ p ∈ paths, h.Fatal p) ∧
    (h.Unlistable directory ∧ (reg.loadDirectory h directory).registry = reg ∨
      ∃ paths, h.GrammarFiles directory paths ∧
        reg.FilesLoaded h paths (reg.loadDirectory h directory)) := by
  unfold loadDirectory
  cases hpaths : grammarPaths h directory with
  | error f =>
    have hfault : h.Unlistable directory := grammarPaths_error_iff.mp ⟨f, hpaths⟩
    exact ⟨⟨fun _ => .inl hfault, fun _ => ⟨f, rfl⟩⟩, .inl ⟨hfault, rfl⟩⟩
  | ok paths =>
    have hfiles : h.GrammarFiles directory paths := grammarPaths_eq_ok_iff.mp hpaths
    have hloaded := filesLoaded_loadFiles reg h paths
    refine ⟨?_, .inr ⟨paths, hfiles, hloaded⟩⟩
    dsimp only
    rw [hloaded.error_iff]
    constructor
    · exact fun hfatal => .inr ⟨paths, hfiles, hfatal⟩
    · rintro (hfault | ⟨others, hothers, hfatal⟩)
      · obtain ⟨f, hf⟩ := grammarPaths_error_iff.mpr hfault
        rw [hpaths] at hf
        cases hf
      · rw [← grammarPaths_eq_ok_iff, hpaths] at hothers
        cases hothers
        exact hfatal

end Registry

/-! ## A file that is no text -/

/-- A directory with a file that is no text, and after it one that holds a grammar. -/
def mixedHost : Host where
  disk :=
    { nodes := [
        (["specs"], { entry := .directory, modified := 0 }),
        (["specs", "a.json"], { entry := .file (.bytes ⟨#[0xff]⟩), modified := 0 }),
        (["specs", "b.json"],
          { entry := .file (.bytes "\x7b\"name\":\"tool\"\x7d".toUTF8), modified := 0 })] }
  home := "/"
  workingDir := { path := "/" }

theorem locate_mixedHost :
    mixedHost.disk.locate true mixedHost.workingDir "/specs" = .ok ["specs"] := by
  have hway : Disk.way mixedHost.workingDir "/specs" = .ok ([], ["", "specs"]) := by rfl
  have hwalk : mixedHost.disk.walk true Disk.maxLinks [] ["", "specs"] = .ok ["specs"] := by cbv
  exact Disk.locate_of_walk hway hwalk

theorem grammarFiles_mixedHost :
    mixedHost.GrammarFiles "/specs" ["/specs/a.json", "/specs/b.json"] := by
  have hdir : mixedHost.disk.isDirectory mixedHost.workingDir "/specs" = .ok true := by
    unfold Disk.isDirectory Disk.existsWith Disk.stat
    rw [locate_mixedHost]
    rfl
  have hentries : mixedHost.disk.entries mixedHost.workingDir "/specs" =
      .ok (mixedHost.disk.children ["specs"]) := by
    unfold Disk.entries
    rw [locate_mixedHost]
    rfl
  have hnames : ["a.json", "b.json"].Perm
      (((mixedHost.disk.children ["specs"]).map (·.1)).filter (·.endsWith ".json")) :=
    .of_eq (by cbv)
  have hpath : Path.normalize "/specs" = "/specs" := by rfl
  have hpaths : ["a.json", "b.json"].map (grammarPath "/specs") =
      ["/specs/a.json", "/specs/b.json"] := by rfl
  rw [← hpaths]
  exact .listed (by rw [hpath, hdir]) (by rw [hpath, hentries]) hnames (by decide)

theorem read_mixedHost_text :
    mixedHost.disk.read mixedHost.workingDir "/specs/b.json" =
      .ok "\x7b\"name\":\"tool\"\x7d".toUTF8 := by
  have hway : Disk.way mixedHost.workingDir "/specs/b.json" =
      .ok ([], ["", "specs", "b.json"]) := by rfl
  have hwalk : mixedHost.disk.walk true Disk.maxLinks [] ["", "specs", "b.json"] =
      .ok ["specs", "b.json"] := by cbv
  exact Disk.read_of_locate (Disk.locate_of_walk hway hwalk) rfl

theorem holds_mixedHost : mixedHost.Holds "/specs/b.json" [{ names := ["tool"] }] := by
  have htext : String.fromUTF8? "\x7b\"name\":\"tool\"\x7d".toUTF8 =
      some "\x7b\"name\":\"tool\"\x7d" := by
    simp only [String.fromUTF8?]
    rfl
  have hparse : Json.parse "\x7b\"name\":\"tool\"\x7d" =
      .ok (.object [("name", .text "tool")]) := by cbv
  exact ⟨_, ⟨_, _, read_mixedHost_text, htext, hparse⟩, .cons rfl .nil⟩

theorem read_mixedHost_bytes :
    mixedHost.disk.read mixedHost.workingDir "/specs/a.json" = .ok ⟨#[0xff]⟩ := by
  have hway : Disk.way mixedHost.workingDir "/specs/a.json" =
      .ok ([], ["", "specs", "a.json"]) := by rfl
  have hwalk : mixedHost.disk.walk true Disk.maxLinks [] ["", "specs", "a.json"] =
      .ok ["specs", "a.json"] := by cbv
  exact Disk.read_of_locate (Disk.locate_of_walk hway hwalk) rfl

/-- **A file that is no UTF-8 text is not passed over**: the grammar of the file after it is not
registered. -/
theorem fatal_file_not_skipped :
    mixedHost.GrammarFiles "/specs" ["/specs/a.json", "/specs/b.json"] ∧
      mixedHost.Holds "/specs/b.json" [{ names := ["tool"] }] ∧
      (Registry.loadDirectory {} mixedHost "/specs").result = .error .notText ∧
      (Registry.loadDirectory {} mixedHost "/specs").registry = {} := by
  refine ⟨grammarFiles_mixedHost, holds_mixedHost, ?_⟩
  have hpaths := Registry.grammarPaths_eq_ok_iff.mpr grammarFiles_mixedHost
  have hfile : mixedHost.readGrammars "/specs/a.json" = .fault .notText :=
    readGrammars_of_not_text read_mixedHost_bytes rfl
  have hloaded : Registry.loadFile {} mixedHost "/specs/a.json" =
      { registry := {}, result := .error .notText } := by
    unfold Registry.loadFile
    rw [hfile]
  unfold Registry.loadDirectory
  rw [hpaths]
  dsimp only
  rw [Registry.loadFiles_of_error _ (by rw [hloaded]), hloaded]
  exact ⟨rfl, rfl⟩

end TabCompletion
