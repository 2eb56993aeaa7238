import Mathlib
import TabCompletion.Proofs.Listing
import TabCompletion.Proofs.Query.Fails

/-!
# Remembered listings are listings of an earlier moment

A scanner is asked for the listings of paths, and between two scans its host may change in any way.
It remembers listings by path, each with the time that the path had when it was read, and reads a
path again only when its time differs. A listing tells more than the time does: the sizes of files,
what links lead to and what may not be read can change while the time stays. So what a scan answers
is what a scanner that remembers nothing answers, but at a moment that may lie in the past, and had
the time that the path has now.

* `Happening` is what happens to a scanner, `Scanner.after` the scanner after a history, and
  `moments` are the hosts of a history so far.
* `Host.listingAt` and `Host.timeAt` are the listing of a path, read now, and the time it goes by.
* `TimesTell` says that moments at which a path has the same time agree in what is at the path.

Results:
* `Scanner.Invariant.next`, `Scanner.Invariant.after`: whatever happens, what is remembered was read
  at a moment of the history.
* `timesTell_of_dated`: times tell what is there if every change gives a time that was never there.
* **`scan_of_same_time`**: what a scan answers after any history.
* `stale_size_listed`: a file that grows is listed with its old size.
-/

namespace TabCompletion

/-! ## What is at a path -/

namespace Disk

/-- What is found at a place, up to the content of a file. -/
def outline? (d : Disk) (p : Place) : Option Entry :=
  (d.node? p).map fun n =>
    match n.entry with
    | .file _ => .file (.zeros 0)
    | e => e

/-- Of the places that it passes, a way along a path sees no more than the outlines. -/
theorem walk_cons (d : Disk) (follow : Bool) (links : Nat) (here : Place) (part : String)
    (rest : List String) :
    d.walk follow links here (part :: rest) =
      match d.outline? here with
      | none => .error .notFound
      | some .directory =>
        if part = "" ∨ part = "." then d.walk follow links here rest
        else if part = ".." then d.walk follow links here.dropLast rest
        else if maxNameBytes < part.utf8ByteSize then .error .nameTooLong
        else match d.outline? (here ++ [part]) with
          | none => .error .notFound
          | some (.link target) =>
            if rest.isEmpty && !follow then .ok (here ++ [part])
            else match links with
              | 0 => .error .linkLoop
              | links + 1 =>
                d.walk follow links (if Path.isAbsolute target then [] else here)
                  (Path.parts target ++ rest)
          | some _ => d.walk follow links (here ++ [part]) rest
      | some _ => .error .notDirectory := by
  rw [walk]
  unfold outline?
  cases d.node? here with
  | none => rfl
  | some n =>
    obtain ⟨entry, time, fault⟩ := n
    cases entry with
    | file content => rfl
    | link target => rfl
    | directory =>
      simp only [ne_eq, not_true_eq_false, if_false, Option.map_some]
      cases d.node? (here ++ [part]) with
      | none => rfl
      | some m =>
        obtain ⟨entry, time, fault⟩ := m
        cases entry <;> rfl

/-- Disks with the same outlines lead along a path to the same place. -/
theorem walk_congr {d d' : Disk} (h : ∀ p, d'.outline? p = d.outline? p) (follow : Bool)
    (links : Nat) (here : Place) (parts : List String) :
    d'.walk follow links here parts = d.walk follow links here parts := by
  induction links generalizing here parts with
  | zero =>
    induction parts generalizing here with
    | nil => rw [walk, walk]
    | cons part rest ih => simp only [walk_cons, h, ih]
  | succ links ihLinks =>
    induction parts generalizing here with
    | nil => rw [walk, walk]
    | cons part rest ih => simp only [walk_cons, h, ih, ihLinks]

/-- The set of the names in the directory at a path, if there is one. -/
def names? (d : Disk) (base : WorkingDir) (path : String) : Option (Finset String) :=
  match d.locate true base path with
  | .ok place =>
    match d.outline? place with
    | some .directory => some ((d.children place).map (·.1)).toFinset
    | _ => none
  | .error _ => none

/-- The names in a directory are told by the places alone. -/
theorem map_children (d : Disk) (p : Place) :
    (d.children p).map (·.1) = (d.nodes.map (·.1)).filterMap fun place =>
      place.getLast?.filter fun name => place = p ++ [name] := by
  unfold children
  rw [List.map_filterMap, List.filterMap_map]
  refine List.filterMap_congr fun e _ => ?_
  obtain ⟨place, n⟩ := e
  simp only [Function.comp]
  cases place.getLast? with
  | none => rfl
  | some name => by_cases h : place = p ++ [name] <;> simp [Option.filter, h]

/-- Disks with the same outlines and the same places have the same sets of entries. -/
theorem names_congr {d d' : Disk} (h : ∀ p, d'.outline? p = d.outline? p)
    (hplaces : d'.nodes.map (·.1) = d.nodes.map (·.1)) (base : WorkingDir) (path : String) :
    d'.names? base path = d.names? base path := by
  simp only [names?, locate, walk_congr h, h, map_children, hplaces]

end Disk

namespace Host

/-- The listing of a path, from a scanner that remembers nothing. -/
def listingAt (h : Host) (path : String) : Except FileFault Listing :=
  Listings.seen [] h.disk h.workingDir path

/-- The time by which a listing of a path is known to hold. -/
def timeAt (h : Host) (path : String) : Except FileFault Int :=
  h.disk.listingTime h.workingDir path

/-- The set of entries of the directory at a path, if there is one. -/
def namesAt (h : Host) (path : String) : Option (Finset String) :=
  h.disk.names? h.workingDir path

end Host

/-! ## Histories -/

/-- What happens to a scanner: its host changes, in any way, or it scans a path. -/
inductive Happening where
  | change (host : Host)
  | scan (path : String)

/-- The host that something leads to, if it is a change. -/
def Happening.hosts : Happening → List Host
  | .change host => [host]
  | .scan _ => []

/-- A scanner: its host as it is now, and the listings it remembers. -/
structure Scanner where
  host : Host
  known : Listings := []

namespace Scanner

/-- What the scanner answers for a path. -/
def answer (s : Scanner) (path : String) : Except FileFault Listing :=
  s.known.seen s.host.disk s.host.workingDir path

/-- The scanner after something happened. A scan that fails leaves what is remembered. -/
def next (s : Scanner) : Happening → Scanner
  | .change host => { s with host }
  | .scan path =>
    match s.known.scan s.host.disk s.host.workingDir path with
    | .ok (_, known) => { s with known }
    | .error _ => s

/-- The scanner after a history. -/
def after (s : Scanner) (past : List Happening) : Scanner := past.foldl next s

end Scanner

/-- A query that scans a path answers as its scanner, and goes on with what that remembers. -/
theorem query_scan_eq (path : String) (context : Context) (memory : Memory) :
    let s : Scanner := { host := context.host, known := memory.listings }
    (Query.scan path).answer context memory =
      ((s.answer path).mapError .file,
        { memory with listings := (s.next (.scan path)).known }) := by
  intro s
  rw [Query.answer_scan]
  unfold Scanner.answer Scanner.next Listings.seen
  dsimp only [s]
  cases memory.listings.scan context.host.disk context.host.workingDir path <;> rfl

/-- The hosts of a history that begins at `start`. -/
def moments (start : Host) (past : List Happening) : List Host :=
  start :: past.flatMap Happening.hosts

section Dated

variable {α : Type} (path : String) (what : Host → α)

/-- The time of a path tells what is there: two moments with the same time agree in it. -/
def TimesTell (ms : List Host) : Prop :=
  ∀ g ∈ ms, ∀ h ∈ ms, g.timeAt path = h.timeAt path → what g = what h

/-- Every change of what is at a path gives the path a time it never had before. -/
def ChangesDated (start : Host) (past : List Happening) : Prop :=
  ∀ before g later, past = before ++ .change g :: later →
    what g ≠ what (Scanner.after { host := start } before).host →
      ∀ h ∈ moments start before, h.timeAt path ≠ g.timeAt path

end Dated

/-- The time of a path is not set back: where it changes, it is one that the path never had. -/
def NeverSetBack (path : String) (start : Host) (past : List Happening) : Prop :=
  ChangesDated path (·.timeAt path) start past

/-! ## What a history preserves -/

/-- **The invariant** of a scanner: each listing that is remembered was read at one of the moments,
when the path had the time that is remembered with it. -/
structure Scanner.Invariant (ms : List Host) (s : Scanner) : Prop where
  now : s.host ∈ ms
  read : ∀ path time l, s.known.lookup path = some (time, l) →
    ∃ h ∈ ms, h.timeAt path = .ok time ∧ h.listingAt path = .ok l

variable {ms : List Host} {s : Scanner} {start : Host} {past : List Happening}

/-- Without anything to remember, a path is read. -/
theorem listingAt_eq (h : Host) (path : String) :
    h.listingAt path = h.timeAt path >>= fun _ => h.disk.listing h.workingDir path := by
  unfold Host.listingAt
  rw [Listings.seen_eq]
  rfl

/-- **What happens to a scanner preserves the invariant.** -/
theorem Scanner.Invariant.next (hi : s.Invariant ms) (e : Happening) :
    (s.next e).Invariant (ms ++ e.hosts) := by
  cases e with
  | change host =>
    refine ⟨List.mem_append_right ms List.mem_cons_self, fun path time l hl => ?_⟩
    obtain ⟨h, hh, hread⟩ := hi.read path time l hl
    exact ⟨h, List.mem_append_left _ hh, hread⟩
  | scan path =>
    have hms : ms ++ (Happening.scan path).hosts = ms := List.append_nil ms
    rw [hms]
    unfold Scanner.next
    dsimp only
    split
    · rename_i l known hscan
      rcases Listings.scan_cases hscan with rfl | ⟨time, htime, hlisting, rfl⟩
      · exact hi
      · have hread : s.host.listingAt path = .ok l := by
          rw [listingAt_eq, Host.timeAt, htime]
          exact hlisting
        refine ⟨hi.now, fun other time' l' hl' => ?_⟩
        rw [Listings.lookup_remember] at hl'
        split at hl'
        · rename_i hpath
          cases hl'
          subst hpath
          exact ⟨s.host, hi.now, htime, hread⟩
        · exact hi.read other time' l' hl'
    · exact hi

/-- **What a history preserves.** -/
theorem Scanner.Invariant.after (hi : s.Invariant ms) (past : List Happening) :
    (s.after past).Invariant (ms ++ past.flatMap Happening.hosts) := by
  induction past generalizing s ms with
  | nil => rwa [List.flatMap_nil, List.append_nil]
  | cons e rest ih =>
    rw [List.flatMap_cons, ← List.append_assoc]
    exact ih (hi.next e)

/-- A scanner that remembers nothing has the invariant. -/
theorem Scanner.Invariant.fresh (start : Host) : Scanner.Invariant [start] { host := start } where
  now := List.mem_cons_self
  read := nofun

/-- A path that is scanned first is remembered with its time. -/
theorem next_scan_fresh {h : Host} {path : String} {time : Int} {l : Listing}
    (htime : h.timeAt path = .ok time) (hl : h.listingAt path = .ok l) :
    Scanner.next { host := h } (.scan path) = { host := h, known := [(path, time, l)] } := by
  rw [listingAt_eq, htime] at hl
  unfold Host.timeAt at htime
  have hscan : Listings.scan [] h.disk h.workingDir path = .ok (l, [(path, time, l)]) := by
    unfold Listings.scan Listings.scan.fresh
    rw [htime]
    simp only [bind, Except.bind] at hl
    simp only [bind, Except.bind, List.lookup_nil, hl]
    rfl
  simp only [Scanner.next, hscan]

/-- A listing that is remembered with the time that the path has is the answer. -/
theorem answer_of_lookup {path : String} {time : Int} {l : Listing}
    (hlookup : s.known.lookup path = some (time, l)) (htime : s.host.timeAt path = .ok time) :
    s.answer path = .ok l := by
  unfold Host.timeAt at htime
  rw [Scanner.answer, Listings.seen_eq, htime, hlookup]
  exact if_pos rfl

/-- A path is read, or its listing is remembered with the time that it has. -/
theorem answer_cases (s : Scanner) (path : String) :
    s.answer path = s.host.listingAt path ∨ ∃ time l, s.known.lookup path = some (time, l) ∧
      s.host.timeAt path = .ok time ∧ s.answer path = .ok l := by
  by_cases hknown : ∃ time l, s.known.lookup path = some (time, l) ∧ s.host.timeAt path = .ok time
  · obtain ⟨time, l, hlookup, htime⟩ := hknown
    exact .inr ⟨time, l, hlookup, htime, answer_of_lookup hlookup htime⟩
  · refine .inl ?_
    rw [listingAt_eq, Scanner.answer, Listings.seen_eq]
    unfold Host.timeAt at hknown ⊢
    cases htime : s.host.disk.listingTime s.host.workingDir path with
    | error f => rfl
    | ok time =>
      cases hlookup : s.known.lookup path with
      | none => rfl
      | some entry =>
        obtain ⟨t, l⟩ := entry
        have ht : t ≠ time := by
          rintro rfl
          exact hknown ⟨t, l, hlookup, htime⟩
        exact if_neg ht

/-- **What a scanner with the invariant answers** is the listing of a moment with the same time. -/
theorem exists_moment (hi : s.Invariant ms) (path : String) :
    ∃ h ∈ ms, h.timeAt path = s.host.timeAt path ∧ s.answer path = h.listingAt path := by
  rcases answer_cases s path with hread | ⟨time, l, hlookup, htime, hanswer⟩
  · exact ⟨s.host, hi.now, rfl, hread⟩
  · obtain ⟨h, hh, htime', hread⟩ := hi.read path time l hlookup
    exact ⟨h, hh, htime'.trans htime.symm, hanswer.trans hread.symm⟩

/-! ## Times that tell -/

/-- The hosts of a history so far, and what the last thing added. -/
theorem moments_concat (start : Host) (past : List Happening) (e : Happening) :
    moments start (past ++ [e]) = moments start past ++ e.hosts := by
  unfold moments
  rw [List.flatMap_append, List.flatMap_singleton, List.cons_append]

section Dated

variable {α : Type} {path : String} {what : Host → α}

theorem ChangesDated.of_concat {e : Happening} (h : ChangesDated path what start (past ++ [e])) :
    ChangesDated path what start past := by
  intro before g later hpast
  refine h before g (later ++ [e]) ?_
  rw [hpast, List.append_assoc, List.cons_append]

/-- What never changes has no change to be dated. -/
theorem changesDated_of_forall (h : ∀ g ∈ moments start past, what g = what start) :
    ChangesDated path what start past := by
  rintro before g later rfl hchange
  have hg : g ∈ moments start (before ++ .change g :: later) :=
    List.mem_cons_of_mem _ (List.mem_flatMap.mpr ⟨.change g, by simp, List.mem_singleton_self g⟩)
  have hlast := ((Scanner.Invariant.fresh start).after before).now
  have hbefore : (Scanner.after { host := start } before).host ∈
      moments start (before ++ .change g :: later) := by
    unfold moments
    rw [List.flatMap_append, ← List.cons_append]
    exact List.mem_append_left _ hlast
  exact absurd ((h g hg).trans (h _ hbefore).symm) hchange

/-- **Times tell what is there** if no time is set back and every change gives a time that was never
there. -/
theorem timesTell_of_dated (hback : NeverSetBack path start past)
    (hdated : ChangesDated path what start past) : TimesTell path what (moments start past) := by
  induction past using List.reverseRecOn with
  | nil =>
    intro g hg h hh _
    rw [List.mem_singleton.mp hg, List.mem_singleton.mp hh]
  | append_singleton past e ih =>
    have htell := ih (ChangesDated.of_concat hback) hdated.of_concat
    rw [moments_concat]
    cases e with
    | scan other => rwa [Happening.hosts, List.append_nil]
    | change new =>
      -- the new host agrees with the one before it, or has a time that was never there
      have hlast := ((Scanner.Invariant.fresh start).after past).now
      have hnew : ∀ h ∈ moments start past, h.timeAt path = new.timeAt path → what h = what new := by
        intro h hh htime
        by_cases hsame : new.timeAt path = (Scanner.after { host := start } past).host.timeAt path
        · by_cases hwhat : what new = what (Scanner.after { host := start } past).host
          · rw [hwhat]
            exact htell h hh _ hlast (htime.trans hsame)
          · exact absurd htime (hdated past new [] rfl hwhat h hh)
        · exact absurd htime (hback past new [] rfl hsame h hh)
      intro g hg h hh htime
      rcases List.mem_append.mp hg with hg | hg <;> rcases List.mem_append.mp hh with hh | hh
      · exact htell g hg h hh htime
      · cases List.mem_singleton.mp hh
        exact hnew g hg htime
      · cases List.mem_singleton.mp hg
        exact (hnew h hh htime.symm).symm
      · rw [List.mem_singleton.mp hg, List.mem_singleton.mp hh]

end Dated

/-! ## Names that are listed -/

namespace Disk

/-- Entries are those of the directory that the path leads to. -/
theorem names_of_entries {d : Disk} {base : WorkingDir} {path : String}
    {found : List (String × Node)} (h : d.entries base path = .ok found) :
    d.names? base path = some (found.map (·.1)).toFinset := by
  unfold entries at h
  unfold names? outline?
  cases hplace : d.locate true base path with
  | error f =>
    rw [hplace] at h
    cases h
  | ok place =>
    rw [hplace] at h
    simp only [bind, Except.bind] at h ⊢
    cases hnode : d.node? place with
    | none =>
      rw [hnode] at h
      cases h
    | some n =>
      obtain ⟨entry, time, fault⟩ := n
      rw [hnode] at h
      cases entry with
      | directory =>
        cases fault with
        | none =>
          cases h
          rfl
        | some f => cases h
      | _ => cases h

/-- A name is listed only if it is one of the directory. -/
theorem mem_names_of_listing {d : Disk} {base : WorkingDir} {path : String} {l : Listing}
    (h : d.listing base path = .ok l) {name : String} (hname : name ∈ l.files ++ l.directories) :
    ∃ names, d.names? base path = some names ∧ name ∈ names := by
  unfold listing at h
  split at h
  · rename_i found hfound
    refine ⟨_, names_of_entries hfound, ?_⟩
    cases h
    simp only [List.mem_append, List.mem_mergeSort, List.mem_map, List.mem_filter] at hname
    rw [List.mem_toFinset, List.mem_map]
    rcases hname with ⟨e, ⟨he, -⟩, hname⟩ | ⟨e, ⟨he, -⟩, hname⟩
    · exact ⟨e, he, hname⟩
    · exact ⟨e, he, hname⟩
  · split at h
    · cases h
      cases hname
    · cases h

end Disk

theorem mem_namesAt_of_listingAt {h : Host} {path : String} {l : Listing}
    (hl : h.listingAt path = .ok l) {name : String} (hname : name ∈ l.files ++ l.directories) :
    ∃ names, h.namesAt path = some names ∧ name ∈ names := by
  rw [listingAt_eq] at hl
  cases htime : h.timeAt path with
  | error f =>
    rw [htime] at hl
    cases hl
  | ok time =>
    rw [htime] at hl
    exact Disk.mem_names_of_listing hl hname

/-! ## After any history -/

/-- **A scan answers what holds at some moment with the same time.** After any history of changes of
the host and scans of any paths, a query that scans a path answers as the scanner, and leaves behind
what the scanner remembers then. A scan answers what a scanner that remembers nothing answers at some
moment of the history at which the path has the time that it has now. Where times tell the sets of
entries apart, every name that is listed is a name in the directory now. Where they tell listings
apart, the answer is the listing now. Times tell what is at a path if no time is set back and every
change of it gives a time that the path never had. -/
theorem scan_of_same_time (start : Host) (past : List Happening) (path : String) :
    let now := Scanner.after { host := start } past
    (∀ settings events,
      (Query.scan path).answer { settings, host := now.host } { listings := now.known, events } =
        ((now.answer path).mapError .file,
          { listings := (now.next (.scan path)).known, events })) ∧
    (∃ h ∈ moments start past, h.timeAt path = now.host.timeAt path ∧
      now.answer path = h.listingAt path) ∧
    (TimesTell path (·.namesAt path) (moments start past) → ∀ l, now.answer path = .ok l →
      ∀ name ∈ l.files ++ l.directories,
        ∃ names, now.host.namesAt path = some names ∧ name ∈ names) ∧
    (TimesTell path (·.listingAt path) (moments start past) →
      now.answer path = now.host.listingAt path) ∧
    ∀ (α : Type) (what : Host → α), NeverSetBack path start past →
      ChangesDated path what start past → TimesTell path what (moments start past) := by
  intro now
  have hi : now.Invariant (moments start past) := (Scanner.Invariant.fresh start).after past
  obtain ⟨h, hh, htime, hanswer⟩ := exists_moment hi path
  refine ⟨fun settings events => query_scan_eq path _ _, ⟨h, hh, htime, hanswer⟩,
    fun htell l hl name hname => ?_, fun htell => ?_, fun α what => timesTell_of_dated⟩
  · have hnames : h.namesAt path = now.host.namesAt path := htell h hh now.host hi.now htime
    rw [← hnames]
    exact mem_namesAt_of_listingAt (hanswer.symm.trans hl) hname
  · exact hanswer.trans (htell h hh now.host hi.now htime)

/-! ## A file that grows -/

/-- A host with a directory that was changed at a time and holds files, by their names and sizes. -/
def filesHost (time : Int) (files : List (String × Nat)) : Host where
  disk :=
    { nodes := (["d"], { entry := .directory, modified := time }) ::
        files.map fun f => (["d", f.1], { entry := .file (.zeros f.2), modified := 0 }) }
  home := "/"
  workingDir := { path := "/" }

theorem locate_filesHost (time : Int) (files : List (String × Nat)) :
    (filesHost time files).disk.locate true { path := "/" } "/d" = .ok ["d"] := by
  have hway : Disk.way { path := "/" } "/d" = .ok ([], ["", "d"]) := by rfl
  have hwalk : (filesHost time files).disk.walk true Disk.maxLinks [] ["", "d"] = .ok ["d"] := by
    cbv
  exact Disk.locate_of_walk hway hwalk

theorem timeAt_filesHost (time : Int) (files : List (String × Nat)) :
    (filesHost time files).timeAt "/d" = .ok time := by
  unfold Host.timeAt Disk.listingTime Disk.modified Disk.stat
  rw [show (filesHost time files).workingDir = { path := "/" } from rfl, locate_filesHost]
  rfl

theorem listingAt_filesHost (time : Int) (size : Nat) :
    (filesHost time [("a", size)]).listingAt "/d" = .ok
      { files := ["a"], details := ((ByteSize.text? size).map ("a", ·)).toList } := by
  let disk := (filesHost time [("a", size)]).disk
  let base : WorkingDir := { path := "/" }
  let node : Node := { entry := .file (.zeros size), modified := 0 }
  have hentries : disk.entries base "/d" = .ok [("a", node)] := by
    unfold Disk.entries
    rw [locate_filesHost]
    rfl
  have hkind : disk.entryKind? base (Path.join "/d" "a") node = some false := rfl
  have hshort : Disk.isShortPath (Path.join "/d" "a") = true := by rfl
  have hdetail : disk.entryDetail? base (Path.join "/d" "a") node = ByteSize.text? size := by
    unfold Disk.entryDetail?
    exact if_pos hshort
  rw [listingAt_eq, timeAt_filesHost]
  show disk.listing base "/d" = _
  unfold Disk.listing
  rw [hentries]
  cases htext : ByteSize.text? size <;> simp [hkind, hdetail, htext]

/-- A file that grows gives its directory no new time, but one that is set by hand tells: the next
scan lists the new size. -/
theorem scan_of_same_time_touched :
    let old := filesHost 1000 [("a", 3)]
    let new := filesHost 1001 [("a", 5)]
    let past := [Happening.scan "/d", .change new]
    NeverSetBack "/d" old past ∧ ChangesDated "/d" (·.listingAt "/d") old past ∧
    TimesTell "/d" (·.listingAt "/d") (moments old past) ∧
    (Scanner.after { host := old } past).answer "/d" =
      .ok { files := ["a"], details := [("a", "5 B")] } := by
  intro old new past
  -- whatever the change concerns, it gives a time that was never there
  have hdated {α : Type} (what : Host → α) : ChangesDated "/d" what old past := by
    intro before g later hpast _ h hh
    obtain ⟨rfl, rfl⟩ : before = [.scan "/d"] ∧ g = new := by
      match before with
      | [] => simp [past] at hpast
      | [e] =>
        obtain ⟨rfl, hg, -⟩ : Happening.scan "/d" = e ∧ new = g ∧ [] = later := by
          simpa [past] using hpast
        exact ⟨rfl, hg.symm⟩
      | _ :: _ :: _ => simp [past] at hpast
    rw [List.mem_singleton.mp hh, timeAt_filesHost, timeAt_filesHost]
    decide
  obtain ⟨-, -, -, hlisting, htimes⟩ := scan_of_same_time old past "/d"
  have htell := htimes _ (·.listingAt "/d") (hdated _) (hdated _)
  exact ⟨hdated _, hdated _, htell, (hlisting htell).trans (listingAt_filesHost 1001 5)⟩

/-- Of the sizes of its files the names on a host do not tell. -/
theorem namesAt_filesHost (time : Int) (size size' : Nat) (path : String) :
    (filesHost time [("a", size')]).namesAt path = (filesHost time [("a", size)]).namesAt path := by
  let disk (size : Nat) : Disk := (filesHost time [("a", size)]).disk
  have hplaces : (disk size').nodes.map (·.1) = (disk size).nodes.map (·.1) := rfl
  refine Disk.names_congr (fun p => ?_) hplaces { path := "/" } path
  by_cases hd : p = ["d"]
  · rw [hd]
    rfl
  · by_cases ha : p = ["d", "a"]
    · rw [ha]
      rfl
    · simp [disk, Disk.outline?, Disk.node?, filesHost, List.lookup_cons, beq_eq_false_iff_ne.mpr hd,
        beq_eq_false_iff_ne.mpr ha]

/-- **A file that grows is listed with its old size.** Its directory keeps the names and the time
that it had when it was scanned, so what the next scan answers is not what the directory has now. No
path has its set of entries changed. -/
theorem stale_size_listed :
    let old := filesHost 1000 [("a", 3)]
    let new := filesHost 1000 [("a", 5)]
    let past := [Happening.scan "/d", .change new]
    let now := Scanner.after { host := old } past
    (∀ path, ChangesDated path (·.namesAt path) old past) ∧
    now.answer "/d" = .ok { files := ["a"], details := [("a", "3 B")] } ∧
    now.host.listingAt "/d" = .ok { files := ["a"], details := [("a", "5 B")] } := by
  intro old new past now
  refine ⟨fun path => changesDated_of_forall fun g hg => ?_, ?_, listingAt_filesHost 1000 5⟩
  · have hms : moments old past = [old, new] := rfl
    rw [hms, List.mem_pair] at hg
    rcases hg with rfl | rfl
    · rfl
    · exact namesAt_filesHost 1000 3 5 path
  · have hscan : Scanner.next { host := old } (.scan "/d") =
        { host := old, known := [("/d", 1000, _)] } :=
      next_scan_fresh (timeAt_filesHost 1000 _) (listingAt_filesHost 1000 3)
    have hnow : now = { host := new, known := [("/d", 1000, _)] } :=
      congrArg (Scanner.next · (.change new)) hscan
    rw [hnow]
    exact answer_of_lookup rfl (timeAt_filesHost 1000 _)

end TabCompletion
