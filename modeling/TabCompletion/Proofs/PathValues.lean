import Mathlib
import TabCompletion.Proofs.Listing
import TabCompletion.Proofs.TypedText

/-!
# Files and folders that are offered

The typed text is cut after its last slash (`CutAtSlash`). The part before names the directory that
is listed (`Host.Target`), the part after filters its entries (`Settings.Shown`). An entry counts as
a folder or as a file, or as neither if it is a link that cannot be followed (`Disk.Counts`).

The directory that paths are seen from is looked up first, even for a path that starts at the root.
If it is not given and the working directory is gone (`Host.Adrift`), nothing is offered: the query
fails.

Results:
* `targetDirectory_of_target`: the directory that is listed.
* `counts_iff`, `shows_iff`: what its entries count as, and which are shown.
* `offeredEntries_of_listing`: what is offered of a directory that can be listed, in the order of the
  names.
* **`path_values`**: the path values of an argument, from a scanner that remembers nothing.
* `adrift_not_listed`: a home directory that is there but not listed.
-/

namespace TabCompletion

/-! ## The directory -/

namespace Host

variable {h : Host} {given : Option String} {directoryPart path : String}

/-- The directory that a directory part names: the one that paths are seen from if it is empty, else
the part with a home directory in the place of `~`, seen from there. -/
inductive Target (h : Host) (given : Option String) : String → String → Prop
  | start {start : String} (hstart : h.directoryOr given = .ok start) : Target h given "" start
  | fromRoot {directoryPart path : String} (hpart : directoryPart ≠ "")
      (hhome : h.expandHome directoryPart = .ok path) (hroot : Path.isAbsolute path = true) :
      Target h given directoryPart path
  | below {directoryPart start path : String} (hpart : directoryPart ≠ "")
      (hhome : h.expandHome directoryPart = .ok path) (hroot : Path.isAbsolute path = false)
      (hstart : h.directoryOr given = .ok start) :
      Target h given directoryPart (Path.join start path)

/-- No directory is given to see paths from, and the working directory is gone. -/
def Adrift (h : Host) (given : Option String) : Prop :=
  given.getD "" = "" ∧ h.workingDir.removed = true

/-- Without a directory to see paths from there is no directory at all. -/
theorem directoryOr_of_adrift (hadrift : h.Adrift given) :
    h.directoryOr given = .error (.file .notFound) := by
  obtain ⟨hgiven, hremoved⟩ := hadrift
  unfold directoryOr WorkingDir.currentPath
  rw [hremoved]
  cases given with
  | none => rfl
  | some directory =>
    obtain rfl : directory = "" := hgiven
    rfl

theorem exists_directoryOr (hadrift : ¬ h.Adrift given) :
    ∃ start, h.directoryOr given = .ok start := by
  unfold directoryOr
  split
  case h_3 directory _ => exact ⟨directory, rfl⟩
  all_goals
    have hthere : h.workingDir.removed = false := by simpa [Adrift] using hadrift
    unfold WorkingDir.currentPath
    rw [hthere]
    exact ⟨h.workingDir.path, rfl⟩

/-- **The directory that is listed.** -/
theorem targetDirectory_of_target {start : String} (htarget : h.Target given directoryPart path)
    (hstart : h.directoryOr given = .ok start) :
    h.targetDirectory start directoryPart = .ok path := by
  unfold targetDirectory
  cases htarget with
  | start hstart' =>
    rw [hstart] at hstart'
    rw [if_pos rfl]
    exact congrArg Except.ok (Except.ok.inj hstart')
  | fromRoot hpart hhome hroot =>
    rw [if_neg hpart, hhome]
    exact congrArg Except.ok (if_pos hroot)
  | below hpart hhome hroot hstart' =>
    rw [hstart] at hstart'
    obtain rfl := Except.ok.inj hstart'
    rw [if_neg hpart, hhome]
    rfl

end Host

/-! ## Its entries -/

namespace Disk

/-- What the entry of a directory counts as, if it stands at a path: a link as what it leads to, and
as a file if it leads nowhere. -/
inductive Counts (d : Disk) (base : WorkingDir) (path : String) (n : Node) : Kind → Prop
  | directory (hentry : n.entry = .directory) : Counts d base path n .folder
  | file {content : Content} (hentry : n.entry = .file content) : Counts d base path n .file
  | toDirectory {target : String} {m : Node} (hlink : n.entry = .link target)
      (hstat : d.stat base path = .ok m) (hm : m.entry = .directory) : Counts d base path n .folder
  | toFile {target : String} {m : Node} (hlink : n.entry = .link target)
      (hstat : d.stat base path = .ok m) (hm : m.entry ≠ .directory) : Counts d base path n .file
  | dangling {target : String} (hlink : n.entry = .link target)
      (hstat : d.stat base path = .error .notFound) : Counts d base path n .file

variable {d : Disk} {base : WorkingDir} {path : String} {n : Node} {kind : Kind}

/-- **What an entry counts as.** -/
theorem counts_iff :
    d.Counts base path n kind ↔
      (d.entryKind? base path n).map (if · then Kind.folder else .file) = some kind := by
  unfold entryKind?
  constructor
  · intro h
    cases h with
    | directory hentry => rw [hentry]; rfl
    | file hentry => rw [hentry]; rfl
    | toDirectory hlink hstat hm => simp [hlink, hstat, hm]
    | toFile hlink hstat hm => simp [hlink, hstat, hm]
    | dangling hlink hstat => simp [hlink, hstat]
  · intro h
    cases hentry : n.entry with
    | directory =>
      obtain rfl : Kind.folder = kind := by simpa [hentry] using h
      exact .directory hentry
    | file content =>
      obtain rfl : Kind.file = kind := by simpa [hentry] using h
      exact .file hentry
    | link target =>
      rw [hentry] at h
      dsimp only at h
      split at h
      · rename_i m hstat
        by_cases hm : m.entry = .directory
        · obtain rfl : Kind.folder = kind := by simpa [hm] using h
          exact .toDirectory hentry hstat hm
        · obtain rfl : Kind.file = kind := by simpa [hm] using h
          exact .toFile hentry hstat hm
      · rename_i hstat
        obtain rfl : Kind.file = kind := by simpa using h
        exact .dangling hentry hstat
      · cases h

instance : Decidable (d.Counts base path n kind) := decidable_of_iff' _ counts_iff

end Disk

/-- The entry of a name is shown for a typed name: it passes the filter, and starts with no dot
unless the typed name does or all entries are shown. -/
structure Settings.Shown (c : Settings) (s : Strategy) (base name : String) : Prop where
  admitted : c.admits s (some base) name = true
  visible : ".".toList <+: name.toList → ".".toList <+: base.toList ∨ c.showHidden.truthy = true

theorem shows_iff {c : Settings} {s : Strategy} {base name : String} :
    c.shows s base name = true ↔ c.Shown s base name := by
  unfold Settings.shows
  rw [Bool.and_eq_true, Bool.or_eq_true, Bool.or_eq_true, Bool.not_eq_true', ← Bool.not_eq_true,
    startsWith_iff, startsWith_iff]
  constructor
  · rintro ⟨hvisible, hadmits⟩
    exact ⟨hadmits, fun hdot => hvisible.elim Or.symm (absurd hdot)⟩
  · intro h
    refine ⟨?_, h.admitted⟩
    by_cases hdot : ".".toList <+: name.toList
    · exact .inl (h.visible hdot).symm
    · exact .inr hdot

instance {c : Settings} {s : Strategy} {base name : String} : Decidable (c.Shown s base name) :=
  decidable_of_iff _ shows_iff

/-! ## What is offered -/

section Offered

variable (d : Disk) (wd : WorkingDir) (path : String) (entries : List (String × Node))
  (c : Settings) (s : Strategy)

/-- The names of the entries that count as a kind and are shown for a typed name, one for each entry
and in order. -/
structure OfferedNames (base : String) (kind : Kind) (names : List String) : Prop where
  sorted : names.Pairwise (· ≤ ·)
  perm : names.Perm ((entries.filter fun e =>
    d.Counts wd (Path.join path e.1) e.2 kind ∧ c.Shown s base e.1).map (·.1))

/-- The candidates for the entries of a directory: first the folders, whose names end in a slash,
then the files if the templates ask for them. The names start with the directory part as it was
typed. -/
def OfferedEntries (templates : List Template) (directoryPart base : String)
    (cands : List Candidate) : Prop :=
  ∃ folders files : List String,
    OfferedNames d wd path entries c s base .folder folders ∧
    OfferedNames d wd path entries c s base .file files ∧
    cands.map (fun cand => (cand.kind, cand.name)) =
      folders.map (fun name => (.folder, directoryPart ++ name ++ "/")) ++
        if .filepaths ∈ templates then files.map (fun name => (.file, directoryPart ++ name))
        else []

end Offered

section Offered

variable {d : Disk} {wd : WorkingDir} {path : String} {entries : List (String × Node)}
  {c : Settings} {s : Strategy} {base : String}

/-- The names that a listing has of a kind, as far as they are shown. -/
theorem offeredNames_of_sorted (directory : Bool) :
    OfferedNames d wd path entries c s base (if directory then .folder else .file)
      ((((entries.filter fun e => d.entryKind? wd (Path.join path e.1) e.2 = some directory).map
        (·.1)).mergeSort (· ≤ ·)).filter (c.shows s base)) where
  sorted := (List.pairwise_mergeSort' (· ≤ ·) _).filter _
  perm := by
    have hcounts : ∀ e : String × Node,
        d.entryKind? wd (Path.join path e.1) e.2 = some directory ↔
          d.Counts wd (Path.join path e.1) e.2 (if directory then .folder else .file) := by
      intro e
      rw [Disk.counts_iff]
      cases d.entryKind? wd (Path.join path e.1) e.2 with
      | none => simp
      | some directory' => cases directory <;> cases directory' <;> simp
    refine ((List.mergeSort_perm _ _).filter _).trans (List.Perm.of_eq ?_)
    rw [List.filter_map, List.filter_filter]
    refine congrArg _ (List.filter_congr fun e _ => ?_)
    rw [Bool.eq_iff_iff]
    simp only [Function.comp, Bool.and_eq_true, decide_eq_true_eq, shows_iff, hcounts, and_comm]

/-- **What is offered of a directory that can be listed.** -/
theorem offeredEntries_of_listing {l : Listing} (hentries : d.entries wd path = .ok entries)
    (hl : d.listing wd path = .ok l) (templates : List Template) (directoryPart : String) :
    OfferedEntries d wd path entries c s templates directoryPart base
      (l.candidates c s (templates.contains .filepaths) directoryPart base) := by
  unfold Disk.listing at hl
  rw [hentries] at hl
  cases hl
  refine ⟨_, _, offeredNames_of_sorted true, offeredNames_of_sorted false, ?_⟩
  unfold Listing.candidates
  by_cases hfiles : .filepaths ∈ templates <;> simp [hfiles, Function.comp_def]

end Offered

/-! ## The path values of an argument -/

section Argument

variable {a : Arg} {given typed : Option String} {s : Strategy} {context : Context}
  {events : List Event} {directoryPart base start path : String}

/-- If there is no directory to see paths from, the query fails before any is listed. -/
theorem pathsFrom_of_adrift (htemplates : a.templates ≠ [])
    (hadrift : context.host.Adrift given) (memory : Memory) :
    ((a.pathsFrom given typed s).answer context memory).1 = .error (.file .notFound) := by
  unfold Arg.pathsFrom
  rw [if_neg (by simpa using htemplates), Query.answer_bind, Query.answer_read]
  dsimp only
  rw [Query.answer_bind, Query.answer_liftM, Host.directoryOr_of_adrift hadrift]

/-- Else the entries of one directory are offered, as they are read now. -/
theorem pathsFrom_of_start (htemplates : a.templates ≠ [])
    (hcut : CutAtSlash (typed.getD "") directoryPart base)
    (hstart : context.host.directoryOr given = .ok start) :
    ((a.pathsFrom given typed s).answer context { events }).1 =
      (context.host.targetDirectory start directoryPart).bind fun path =>
        ((context.host.disk.listing context.host.workingDir path).mapError .file).map
          (·.candidates context.settings s (a.templates.contains .filepaths) directoryPart base) := by
  unfold Arg.pathsFrom
  rw [if_neg (by simpa using htemplates), Query.answer_bind, Query.answer_read]
  dsimp only
  rw [splitPath_of_cut hcut]
  dsimp only
  rw [Query.answer_bind, Query.answer_liftM, hstart]
  dsimp only
  rw [Query.answer_bind, Query.answer_liftM]
  cases context.host.targetDirectory start directoryPart with
  | error f => rfl
  | ok path =>
    dsimp only [Except.bind]
    rw [Query.answer_bind, Query.answer_scan, ← Listings.seen_nil]
    unfold Listings.seen
    cases Listings.scan [] context.host.disk context.host.workingDir path with
    | ok r => rfl
    | error f => rfl

/-- **The path values of an argument**, from a scanner that remembers nothing. If no directory is
given and the working directory is gone, the query fails, whatever is typed. Else the entries of the
directory that is typed are offered if it can be listed. If it is missing or may not be read, nothing
is offered. Any other fault of opening it is the answer, and so is one of telling a home. -/
theorem path_values (a : Arg) (htemplates : a.templates ≠ []) (given typed : Option String)
    (s : Strategy) (context : Context) (events : List Event) {directoryPart base : String}
    (hcut : CutAtSlash (typed.getD "") directoryPart base) :
    let host := context.host
    let result := ((a.pathsFrom given typed s).answer context { events }).1
    (host.Adrift given → result = .error (.file .notFound)) ∧
    (¬ host.Adrift given →
      (∀ path, host.Target given directoryPart path →
        (∀ entries, host.disk.entries host.workingDir path = .ok entries →
          ∃ cands, result = .ok cands ∧ OfferedEntries host.disk host.workingDir path entries
            context.settings s a.templates directoryPart base cands) ∧
        ∀ f, host.disk.entries host.workingDir path = .error f →
          result = if f.meansEmpty then .ok [] else .error (.file f)) ∧
      ∀ f, host.expandHome directoryPart = .error f → result = .error f) := by
  intro host result
  refine ⟨fun hadrift => pathsFrom_of_adrift htemplates hadrift _, fun hadrift => ?_⟩
  obtain ⟨start, hstart⟩ := Host.exists_directoryOr hadrift
  have hresult : result = _ := pathsFrom_of_start htemplates hcut hstart
  refine ⟨fun path htarget => ?_, fun f hhome => ?_⟩
  · rw [Host.targetDirectory_of_target htarget hstart] at hresult
    dsimp only [Except.bind] at hresult
    refine ⟨fun entries hentries => ?_, fun f hf => ?_⟩
    · cases hl : host.disk.listing host.workingDir path with
      | ok l =>
        rw [hl] at hresult
        exact ⟨_, hresult, offeredEntries_of_listing hentries hl _ _⟩
      | error f =>
        obtain ⟨g, hg, -⟩ := Disk.listing_error_iff.mp ⟨f, hl⟩
        rw [hentries] at hg
        cases hg
    · have hl : host.disk.listing host.workingDir path =
          if f.meansEmpty then .ok {} else .error f := by
        unfold Disk.listing
        rw [hf]
      rw [hresult, hl]
      cases f.meansEmpty with
      | true => cases hfiles : a.templates.contains .filepaths <;> rfl
      | false => rfl
  · have hpart : directoryPart ≠ "" := by
      rintro rfl
      cases hhome
    unfold Host.targetDirectory at hresult
    rw [if_neg hpart, hhome] at hresult
    exact hresult

end Argument

/-- A host with a directory of three entries: a directory, a file and a link that leads nowhere. -/
def threeEntries : Host where
  disk :=
    { nodes := [(["d"], { entry := .directory, modified := 0 }),
        (["d", "gone"], { entry := .link "nowhere", modified := 0 }),
        (["d", "b"], { entry := .file (.zeros 1), modified := 0 }),
        (["d", "sub"], { entry := .directory, modified := 0 })] }
  home := "/"
  workingDir := { path := "/" }

theorem entries_threeEntries :
    threeEntries.disk.entries threeEntries.workingDir "/d/" =
      .ok [("gone", { entry := .link "nowhere", modified := 0 }),
        ("b", { entry := .file (.zeros 1), modified := 0 }),
        ("sub", { entry := .directory, modified := 0 })] := by
  have hway : Disk.way threeEntries.workingDir "/d/" = .ok ([], ["", "d", ""]) := by rfl
  have hwalk : threeEntries.disk.walk true Disk.maxLinks [] ["", "d", ""] = .ok ["d"] := by cbv
  unfold Disk.entries
  rw [Disk.locate_of_walk hway hwalk]
  rfl

/-- The link leads nowhere. -/
theorem stat_threeEntries :
    threeEntries.disk.stat threeEntries.workingDir (Path.join "/d/" "gone") = .error .notFound := by
  have hway : Disk.way threeEntries.workingDir (Path.join "/d/" "gone") =
      .ok ([], ["", "d", "gone"]) := by rfl
  have hwalk : threeEntries.disk.walk true Disk.maxLinks [] ["", "d", "gone"] =
      .error .notFound := by
    have hshort : ∀ part ∈ ["d", "gone", "nowhere"],
        ¬ Disk.maxNameBytes < part.utf8ByteSize := by decide
    have hparts : Path.parts "nowhere" = ["nowhere"] := by rfl
    have hbelow : Path.isAbsolute "nowhere" = false := by rfl
    simp [Disk.walk, Disk.node?, threeEntries, Disk.maxLinks, List.lookup, hshort, hparts, hbelow]
  unfold Disk.stat Disk.locate
  rw [hway]
  simp only [bind, Except.bind, hwalk]

/-- Of three entries the directory comes first, and the link that leads nowhere is a file. -/
theorem path_values_threeEntries :
    let a : Arg := { name := "path", templates := [.filepaths] }
    let context : Context := { host := threeEntries }
    a.templates ≠ [] ∧ CutAtSlash "d/" "d/" "" ∧ threeEntries.Target none "d/" "/d/" ∧
    ¬ threeEntries.Adrift none ∧
    ∃ cands, ((a.pathsFrom none (some "d/") .unset).answer context {}).1 = .ok cands ∧
      cands.map (fun cand => (cand.kind, cand.name)) =
        [(.folder, "d/sub/"), (.file, "d/b"), (.file, "d/gone")] := by
  intro a context
  have hcut : CutAtSlash "d/" "d/" "" := ⟨rfl, .inr ⟨"d", rfl⟩, by decide⟩
  have hhome : threeEntries.expandHome "d/" = .ok "d/" := rfl
  have hstart : threeEntries.directoryOr none = .ok "/" := rfl
  have hjoin : Path.join "/" "d/" = "/d/" := by rfl
  have htarget : threeEntries.Target none "d/" "/d/" := by
    rw [← hjoin]
    exact .below (by decide) hhome rfl hstart
  have hthere : ¬ threeEntries.Adrift none := by
    rintro ⟨-, hremoved⟩
    cases hremoved
  obtain ⟨cands, hanswer, folders, files, hfolders, hfiles, hcands⟩ :=
    (((path_values a (by decide) none (some "d/") .unset context [] hcut).2 hthere).1 "/d/"
      htarget).1 _ entries_threeEntries
  -- what the entries count as
  have hgone : context.host.disk.entryKind? context.host.workingDir (Path.join "/d/" "gone")
      { entry := .link "nowhere", modified := 0 } = some false := by
    unfold Disk.entryKind?
    dsimp only
    rw [stat_threeEntries]
  have hb : context.host.disk.entryKind? context.host.workingDir (Path.join "/d/" "b")
      { entry := .file (.zeros 1), modified := 0 } = some false := rfl
  have hsub : context.host.disk.entryKind? context.host.workingDir (Path.join "/d/" "sub")
      { entry := .directory, modified := 0 } = some true := rfl
  have hshown : ∀ name ∈ ["gone", "b", "sub"], context.settings.Shown .unset "" name := by decide
  have hfolders' : folders = ["sub"] := by
    simpa [List.filter_cons, Disk.counts_iff, hgone, hb, hsub, hshown] using hfolders.perm
  have hfiles' : files.Perm ["gone", "b"] := by
    simpa [List.filter_cons, Disk.counts_iff, hgone, hb, hsub, hshown] using hfiles.perm
  have hsorted : files = ["b", "gone"] :=
    List.Perm.eq_of_pairwise (fun _ _ _ _ => String.le_antisymm) hfiles.sorted (by decide)
      (hfiles'.trans (.swap "b" "gone" []))
  rw [hfolders', hsorted] at hcands
  exact ⟨by decide, hcut, htarget, hthere, cands, hanswer, hcands⟩

/-- A host with a home directory, and a working directory that is gone. -/
def adriftHost : Host where
  disk :=
    { nodes := [(["home"], { entry := .directory, modified := 0 }),
        (["home", "x"], { entry := .file (.zeros 1), modified := 0 })] }
  home := "/home"
  workingDir := { path := "/work", removed := true }

/-- **A home directory is not listed from a working directory that is gone**, though it is there and
the path to it starts at the root. -/
theorem adrift_not_listed :
    let a : Arg := { name := "path", templates := [.filepaths] }
    CutAtSlash "~/" "~/" "" ∧ adriftHost.Target none "~/" "/home/" ∧
    adriftHost.disk.entries adriftHost.workingDir "/home/" =
      .ok [("x", { entry := .file (.zeros 1), modified := 0 })] ∧
    ((a.pathsFrom none (some "~/") .leading).answer { host := adriftHost } {}).1 =
      .error (.file .notFound) := by
  intro a
  have hway : Disk.way adriftHost.workingDir "/home/" = .ok ([], ["", "home", ""]) := by rfl
  have hwalk : adriftHost.disk.walk true Disk.maxLinks [] ["", "home", ""] = .ok ["home"] := by cbv
  have hentries : adriftHost.disk.entries adriftHost.workingDir "/home/" =
      .ok [("x", { entry := .file (.zeros 1), modified := 0 })] := by
    unfold Disk.entries
    rw [Disk.locate_of_walk hway hwalk]
    rfl
  have hhome : adriftHost.expandHome "~/" = .ok "/home/" := by rfl
  exact ⟨⟨rfl, .inr ⟨"~", rfl⟩, by decide⟩, .fromRoot (by decide) hhome rfl, hentries,
    pathsFrom_of_adrift (by decide) ⟨rfl, rfl⟩ {}⟩

end TabCompletion
