import Mathlib.Logic.Basic
import TabCompletion.Disk

/-!
# Where a path leads

The disk follows a path part by part and gives up after a number of links. Where a path leads is
told without that bound by `Leads`, with one case of `Moves` for each kind of part; what the disk
finds within its bound is where the path leads.

A path with a null character is refused before any part of it is followed.

* `locate_eq_nullInPath_iff`: that fault shows for just these paths.
* **`Leads.of_walk`**: what the disk finds is where the path leads.
* **`Leads.unique`**: a path leads to one place at most.
* `Leads.split`, `Leads.filter`: a path leads through the places on its way, and empty parts at its
  end make no difference.
-/

namespace TabCompletion

/-- A path with a null character, which no directory can have. -/
def HasNull (path : String) : Prop := path.toList.contains '\x00' = true

namespace Disk

variable {d : Disk} {base : WorkingDir} {path : String} {p q here : Place} {parts a b : List String}

/-! ## Null characters -/

/-- No way along a path meets a null character. -/
theorem walk_ne_nullInPath (d : Disk) (follow : Bool) (links : Nat) (here : Place)
    (parts : List String) : d.walk follow links here parts ≠ .error .nullInPath := by
  fun_induction Disk.walk d follow links here parts <;> first | assumption | simp

/-- Where a path is followed from, a null character shows. -/
theorem way_eq_nullInPath_iff :
    way base path = .error .nullInPath ↔ HasNull path := by
  unfold way HasNull
  split
  · rename_i h
    exact ⟨fun _ => h, fun _ => rfl⟩
  · rename_i h
    refine ⟨fun hway => ?_, fun hnull => absurd hnull h⟩
    split at hway
    · cases hway
    · split at hway
      · cases hway
      · split at hway
        · cases hway
        · unfold WorkingDir.lead at hway
          split at hway
          · split at hway <;> cases hway
          · cases hway

theorem locate_eq_nullInPath_iff {follow : Bool} :
    d.locate follow base path = .error .nullInPath ↔ HasNull path := by
  rw [← way_eq_nullInPath_iff]
  unfold locate
  cases way base path with
  | error f => simp [bind, Except.bind]
  | ok start =>
    exact ⟨fun h => absurd h (walk_ne_nullInPath d follow maxLinks start.1 start.2), nofun⟩

theorem modified_eq_nullInPath_iff :
    d.modified base path = .error .nullInPath ↔ HasNull path := by
  rw [← locate_eq_nullInPath_iff]
  unfold modified stat
  cases d.locate true base path with
  | error f => simp [bind, Except.bind, Except.map]
  | ok place =>
    simp only [bind, Except.bind]
    cases d.node? place with
    | none => exact ⟨nofun, nofun⟩
    | some n => exact ⟨nofun, nofun⟩

/-- Whether a path with a null character leads anywhere can always be told: it does not. -/
theorem pathExists_ne_nullInPath :
    d.pathExists base path ≠ .error .nullInPath := by
  intro h
  unfold pathExists existsWith at h
  split at h
  · cases h
  · rename_i f hf
    split at h
    · cases h
    · rename_i habsent
      cases h
      exact habsent rfl

/-! ## Reading at a place -/

theorem locate_of_walk {start : Place} {follow : Bool}
    (hway : way base path = .ok (start, parts))
    (hwalk : d.walk follow maxLinks start parts = .ok p) : d.locate follow base path = .ok p := by
  unfold locate
  rw [hway]
  exact hwalk

theorem read_of_locate {content : Content} {time : Int}
    (hplace : d.locate true base path = .ok p)
    (hnode : d.node? p = some { entry := .file content, modified := time }) :
    d.read base path = .ok content.data := by
  unfold read stat
  rw [hplace]
  simp only [bind, Except.bind]
  rw [hnode]
  rfl

/-- A file that is read is there. -/
theorem pathExists_of_read {bytes : ByteArray}
    (h : d.read base path = .ok bytes) : d.pathExists base path = .ok true := by
  unfold read at h
  unfold pathExists existsWith
  cases hstat : d.stat base path with
  | error f =>
    rw [hstat] at h
    cases h
  | ok n => rfl

/-! ## The parts of a path -/

/-- What is at a place. -/
def entryAt? (d : Disk) (p : Place) : Option Entry := (d.node? p).map (·.entry)

/-- A part of a path that stands for an entry. -/
def IsName (part : String) : Prop := part ≠ "" ∧ part ≠ "." ∧ part ≠ ".."

/-- Where one part of a path leads to from a directory, and the parts that a link puts before those
that follow. -/
inductive Moves (d : Disk) (here : Place) (part : String) : Place → List String → Prop
  | stay (hpart : part = "" ∨ part = ".") : Moves d here part here []
  | up (hpart : part = "..") : Moves d here part here.dropLast []
  | enter {e : Entry} (hname : IsName part) (hentry : d.entryAt? (here ++ [part]) = some e)
      (hlink : ∀ target, e ≠ .link target) : Moves d here part (here ++ [part]) []
  | follow {target : String} (hname : IsName part)
      (hentry : d.entryAt? (here ++ [part]) = some (.link target)) :
      Moves d here part (if Path.isAbsolute target then [] else here) (Path.parts target)

/-- Where the parts of a path lead to, whatever number of links is followed. -/
inductive Leads (d : Disk) : Place → List String → Place → Prop
  | here (here : Place) : Leads d here [] here
  | step {here there q : Place} {part : String} {more rest : List String}
      (hdir : d.entryAt? here = some .directory) (hmove : d.Moves here part there more)
      (h : Leads d there (more ++ rest) q) : Leads d here (part :: rest) q

theorem entryAt?_of_node? {n : Node} (h : d.node? p = some n) : d.entryAt? p = some n.entry := by
  unfold entryAt?
  rw [h]
  rfl

/-- What the disk finds within its bound on links is where the parts lead. -/
theorem Leads.of_walk {links : Nat} (h : d.walk true links here parts = .ok q) :
    d.Leads here parts q := by
  fun_induction Disk.walk d true links here parts with
  | case1 links here =>
    cases h
    exact .here _
  | case4 links here part rest n hnode hdir hpart ih =>
    have hdir : d.entryAt? here = some .directory := by
      rw [entryAt?_of_node? hnode, not_ne_iff.mp hdir]
    exact .step hdir (.stay hpart) (ih h)
  | case5 links here rest n hnode hdir hpart ih =>
    have hdir : d.entryAt? here = some .directory := by
      rw [entryAt?_of_node? hnode, not_ne_iff.mp hdir]
    exact .step hdir (.up rfl) (ih h)
  | case10 here part rest n hnode hdir hpart hup hlong there target time fault hthere hend links
      start ih =>
    have hdir : d.entryAt? here = some .directory := by
      rw [entryAt?_of_node? hnode, not_ne_iff.mp hdir]
    have hname : IsName part := ⟨fun e => hpart (.inl e), fun e => hpart (.inr e), hup⟩
    exact .step hdir (.follow hname (entryAt?_of_node? hthere)) (ih h)
  | case11 links here part rest n hnode hdir hpart hup hlong there m hm hthere ih =>
    have hdir : d.entryAt? here = some .directory := by
      rw [entryAt?_of_node? hnode, not_ne_iff.mp hdir]
    have hname : IsName part := ⟨fun e => hpart (.inl e), fun e => hpart (.inr e), hup⟩
    have hlink : ∀ target, m.entry ≠ .link target := by
      rintro target he
      obtain ⟨entry, time, fault⟩ := m
      exact hm target time fault (by rw [← he])
    exact .step hdir (.enter hname (entryAt?_of_node? hthere) hlink) (ih h)
  | case8 links here part rest n hnode hdir hpart hup hlong there target time fault hthere hend =>
    exact absurd hend (by simp)
  | _ => cases h

theorem Moves.unique {part : String} {x y : Place} {more more' : List String}
    (h : d.Moves here part x more) (h' : d.Moves here part y more') : x = y ∧ more = more' := by
  have hname : IsName part → ¬ (part = "" ∨ part = ".") ∧ part ≠ ".." := fun hp =>
    ⟨not_or.mpr ⟨hp.1, hp.2.1⟩, hp.2.2⟩
  cases h with
  | stay hpart =>
    cases h' with
    | stay _ => exact ⟨rfl, rfl⟩
    | up hpart' =>
      subst hpart'
      exact absurd hpart (by decide)
    | enter hp _ _ => exact absurd hpart (hname hp).1
    | follow hp _ => exact absurd hpart (hname hp).1
  | up hpart =>
    cases h' with
    | stay hpart' =>
      subst hpart
      exact absurd hpart' (by decide)
    | up _ => exact ⟨rfl, rfl⟩
    | enter hp _ _ => exact absurd hpart (hname hp).2
    | follow hp _ => exact absurd hpart (hname hp).2
  | enter hp hentry hlink =>
    cases h' with
    | stay hpart => exact absurd hpart (hname hp).1
    | up hpart => exact absurd hpart (hname hp).2
    | enter _ _ _ => exact ⟨rfl, rfl⟩
    | follow _ hentry' =>
      rw [hentry] at hentry'
      exact absurd (Option.some.inj hentry') (hlink _)
  | follow hp hentry =>
    cases h' with
    | stay hpart => exact absurd hpart (hname hp).1
    | up hpart => exact absurd hpart (hname hp).2
    | enter _ hentry' hlink =>
      rw [hentry] at hentry'
      exact absurd (Option.some.inj hentry').symm (hlink _)
    | follow _ hentry' =>
      rw [hentry] at hentry'
      cases hentry'
      exact ⟨rfl, rfl⟩

/-- A path leads to one place at most. -/
theorem Leads.unique {q' : Place} (h : d.Leads here parts q) (h' : d.Leads here parts q') :
    q = q' := by
  induction h with
  | here _ =>
    cases h'
    rfl
  | step _ hmove _ ih =>
    cases h' with
    | step _ hmove' h' =>
      obtain ⟨rfl, rfl⟩ := hmove.unique hmove'
      exact ih h'

/-- Parts one behind the other lead through a place between them. -/
theorem Leads.split (h : d.Leads here (a ++ b) q) : ∃ p, d.Leads here a p ∧ d.Leads p b q := by
  generalize hparts : a ++ b = parts at h
  induction h generalizing a with
  | here here =>
    obtain ⟨rfl, rfl⟩ := List.append_eq_nil_iff.mp hparts
    exact ⟨here, .here here, .here here⟩
  | @step here there q part more rest hdir hmove h ih =>
    cases a with
    | nil =>
      have hb : b = part :: rest := hparts
      exact ⟨here, .here here, hb ▸ .step hdir hmove h⟩
    | cons x a =>
      obtain ⟨rfl, rfl⟩ := List.cons.inj hparts
      obtain ⟨p, ha, hb⟩ := ih (List.append_assoc more a b)
      exact ⟨p, .step hdir hmove ha, hb⟩

/-- Empty parts at the end of a path may be left out. -/
theorem Leads.filter (h : d.Leads here (a ++ b) q) : d.Leads here (a ++ b.filter (· ≠ "")) q := by
  generalize hparts : a ++ b = parts at h
  induction h generalizing a b with
  | here here =>
    obtain ⟨rfl, rfl⟩ := List.append_eq_nil_iff.mp hparts
    exact .here here
  | @step here there q part more rest hdir hmove h ih =>
    cases a with
    | nil =>
      have hb : b = part :: rest := hparts
      subst hb
      have hrest := ih rfl
      by_cases hpart : part = ""
      · have hstay := hmove.unique (.stay (.inl hpart))
        obtain ⟨rfl, rfl⟩ := hstay
        simpa [hpart] using hrest
      · simpa [hpart] using Leads.step hdir hmove hrest
    | cons x a =>
      obtain ⟨rfl, rfl⟩ := List.cons.inj hparts
      have hrest := ih (List.append_assoc more a b)
      rw [List.append_assoc] at hrest
      exact .step hdir hmove hrest

/-- Where there is a name in a directory, one part leads to what it stands for. -/
theorem Leads.of_name {name : String} (hname : IsName name) (h : d.Leads here [name] q) :
    (∃ e, d.entryAt? (here ++ [name]) = some e ∧ (∀ target, e ≠ .link target) ∧ q = here ++ [name]) ∨
    ∃ target, d.entryAt? (here ++ [name]) = some (.link target) ∧
      d.Leads (if Path.isAbsolute target then [] else here) (Path.parts target) q := by
  cases h with
  | step hdir hmove h =>
    rw [List.append_nil] at h
    cases hmove with
    | stay hpart => exact absurd hpart (not_or.mpr ⟨hname.1, hname.2.1⟩)
    | up hpart => exact absurd hpart hname.2.2
    | @enter e _ hentry hlink =>
      cases h
      exact .inl ⟨e, hentry, hlink, rfl⟩
    | @follow target _ hentry => exact .inr ⟨target, hentry, h⟩

/-- A name with a file leads to the file. -/
theorem Leads.eq_of_file {name : String} (hname : IsName name) {content : Content}
    (hfile : d.entryAt? (here ++ [name]) = some (.file content)) (h : d.Leads here [name] q) :
    q = here ++ [name] := by
  rcases h.of_name hname with ⟨e, -, -, rfl⟩ | ⟨target, hentry, -⟩
  · rfl
  · rw [hfile] at hentry
    cases hentry

/-- What is at a path that leads to something. -/
theorem stat_of_pathExists
    (h : d.pathExists base path = .ok true) :
    ∃ start parts q n, way base path = .ok (start, parts) ∧ d.Leads start parts q ∧
      d.node? q = some n ∧ d.stat base path = .ok n := by
  cases hstat : d.stat base path with
  | error f =>
    unfold pathExists existsWith at h
    rw [hstat] at h
    dsimp only at h
    split at h <;> cases h
  | ok n =>
    have hfound := hstat
    unfold stat locate at hfound
    simp only [bind, Except.bind] at hfound
    split at hfound
    · cases hfound
    · rename_i q hq
      split at hq
      · cases hq
      · rename_i way' hway
        split at hfound
        · rename_i m hm
          cases hfound
          exact ⟨way'.1, way'.2, q, n, hway, .of_walk hq, hm, rfl⟩
        · cases hfound

end Disk

end TabCompletion
