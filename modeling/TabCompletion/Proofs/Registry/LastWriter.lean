import Mathlib.Data.List.Induction
import Mathlib.Data.List.Sort
import Mathlib.Data.String.Basic
import TabCompletion.Proofs.Registry

/-!
# The last grammar with a name

Grammars are registered one after the other, under names that they may share. A name leads to the
last of them that has it (`LastNamed`), and all that a registry tells agrees with that: which names
there are, how many, and the candidates with the descriptions of the grammars they stand for.

Results:
* `lastNamed_concat_of_mem`, `lastNamed_concat_of_not_mem`: what one more grammar changes.
* **`lookup_entries_ofCommands`**: a name leads to the last registration with it, by induction on the
  registrations.
* `mem_names_iff`, `pairwise_names`: the names of a registry, in strict order.
* **`lastWriterMap_ofCommands`**: all that a registry tells after any registrations
  (`LastWriterMap`).
-/

namespace TabCompletion

/-- Of some grammars that are registered one after the other, `r` is the last one with a name. -/
structure LastNamed (cs : List Command) (name : String) (r : Registration) : Prop where
  registered : cs[r.serial]? = some r.command
  named : name ∈ r.command.names
  last : ∀ i d, r.serial < i → cs[i]? = some d → name ∉ d.names

variable {cs : List Command} {c : Command} {name : String} {r : Registration}

/-- A name of the grammar that comes last is a name of that one. -/
theorem lastNamed_concat_of_mem (h : name ∈ c.names) :
    LastNamed (cs ++ [c]) name r ↔ r = ⟨cs.length, c⟩ := by
  have hend : (cs ++ [c])[cs.length]? = some c := List.getElem?_concat_length
  constructor
  · intro hr
    have hlt : r.serial < (cs ++ [c]).length := (List.getElem?_eq_some_iff.mp hr.registered).1
    have hle : r.serial ≤ cs.length := by
      rw [List.length_append, List.length_singleton] at hlt
      exact Nat.le_of_lt_succ hlt
    rcases Nat.lt_or_eq_of_le hle with hbefore | hserial
    · exact absurd h (hr.last cs.length c hbefore hend)
    · have hcommand := hr.registered
      rw [hserial, hend] at hcommand
      obtain ⟨serial, command⟩ := r
      cases hserial
      cases hcommand
      rfl
  · rintro rfl
    refine ⟨hend, h, fun i d hi hd => ?_⟩
    have hlt : i < (cs ++ [c]).length := (List.getElem?_eq_some_iff.mp hd).1
    rw [List.length_append, List.length_singleton] at hlt
    exact absurd hi (Nat.not_lt.mpr (Nat.le_of_lt_succ hlt))

/-- A grammar without the name changes nothing. -/
theorem lastNamed_concat_of_not_mem (h : name ∉ c.names) :
    LastNamed (cs ++ [c]) name r ↔ LastNamed cs name r := by
  have hbefore : ∀ {i : Nat} {d : Command}, name ∈ d.names → (cs ++ [c])[i]? = some d →
      cs[i]? = some d := by
    intro i d hd hi
    rw [List.getElem?_append] at hi
    split at hi
    · exact hi
    · rw [List.getElem?_singleton] at hi
      split at hi
      · cases hi
        exact absurd hd h
      · cases hi
  have hafter : ∀ {i : Nat} {d : Command}, cs[i]? = some d → (cs ++ [c])[i]? = some d := fun hi =>
    List.getElem?_append_left (List.getElem?_eq_some_iff.mp hi).1 ▸ hi
  constructor
  · intro hr
    exact ⟨hbefore hr.named hr.registered, hr.named, fun i d hi hd => hr.last i d hi (hafter hd)⟩
  · intro hr
    refine ⟨hafter hr.registered, hr.named, fun i d hi hd hname => ?_⟩
    exact hr.last i d hi (hbefore hname hd) hname

namespace Registry

theorem ofCommands_concat (cs : List Command) (c : Command) :
    ofCommands (cs ++ [c]) = (ofCommands cs).register c := by
  unfold ofCommands registerAll
  rw [List.foldl_append, List.foldl_cons, List.foldl_nil]

theorem count_ofCommands (cs : List Command) : (ofCommands cs).count = cs.length := by
  induction cs using List.reverseRecOn with
  | nil => rfl
  | append_singleton cs c ih =>
    rw [ofCommands_concat, List.length_append, List.length_singleton, ← ih]
    rfl

/-- **A name leads to the last registration with it.** -/
theorem lookup_entries_ofCommands :
    (ofCommands cs).entries.lookup name = some r ↔ LastNamed cs name r := by
  induction cs using List.reverseRecOn with
  | nil => exact ⟨nofun, fun hr => nomatch hr.registered⟩
  | append_singleton cs c ih =>
    rw [ofCommands_concat, lookup_entries_register, count_ofCommands]
    split
    · rename_i hname
      rw [lastNamed_concat_of_mem hname, Option.some.injEq, eq_comm]
    · rename_i hname
      rw [lastNamed_concat_of_not_mem hname, ih]

/-- A name leads to a grammar if that is the last one with the name. -/
theorem lookup_ofCommands_eq_some_iff :
    (ofCommands cs).lookup name = some c ↔ ∃ i, LastNamed cs name ⟨i, c⟩ := by
  unfold lookup
  rw [Option.map_eq_some_iff]
  constructor
  · rintro ⟨⟨i, command⟩, hr, rfl⟩
    exact ⟨i, lookup_entries_ofCommands.mp hr⟩
  · rintro ⟨i, hr⟩
    exact ⟨⟨i, c⟩, lookup_entries_ofCommands.mpr hr, rfl⟩

/-- A name leads somewhere if one of the grammars has it. -/
theorem contains_ofCommands_iff :
    (ofCommands cs).contains name = true ↔ ∃ c ∈ cs, name ∈ c.names := by
  unfold contains ofCommands
  rw [lookup_registerAll]
  simp [lookup]

theorem mem_names_iff {reg : Registry} : name ∈ reg.names ↔ reg.contains name = true := by
  unfold names contains lookup
  rw [List.mem_mergeSort, Option.isSome_map, List.lookup_isSome_iff]
  simp

/-- The names of a registry are in strict order. -/
theorem pairwise_names (cs : List Command) : (ofCommands cs).names.Pairwise (· < ·) :=
  ((List.pairwise_mergeSort' (· ≤ ·) _).and (nodup_names cs)).imp fun h =>
    lt_of_le_of_ne h.1 h.2

/-- The descriptions of candidates are those of the grammars that their names lead to. -/
theorem mem_candidates {reg : Registry} {settings : Settings} {typed : Option String}
    {s : Strategy} {cand : Candidate} (h : cand ∈ reg.candidates settings typed s) :
    cand.kind = .subcommand ∧
      cand.description = ((reg.lookup cand.name).map (·.description)).getD (.text "") := by
  unfold candidates at h
  obtain ⟨name, -, rfl⟩ := List.mem_map.mp h
  exact ⟨rfl, rfl⟩

/-! ## All that a registry tells -/

/-- What a registry tells is what the last grammar with each name says. -/
structure LastWriterMap (reg : Registry) (cs : List Command) : Prop where
  lookup : ∀ name c, reg.lookup name = some c ↔ ∃ i, LastNamed cs name ⟨i, c⟩
  missing : ∀ name, reg.lookup name = none ↔ ∀ c ∈ cs, name ∉ c.names
  contains : ∀ name, reg.contains name = true ↔ ∃ c ∈ cs, name ∈ c.names
  /-- The names are listed in strict order, so each of them once. -/
  ordered : reg.names.Pairwise (· < ·)
  names : ∀ name, name ∈ reg.names ↔ ∃ c ∈ cs, name ∈ c.names
  size : reg.size = reg.names.length
  /-- The candidates are the names that pass the filter, in strict order. -/
  offeredOrdered : ∀ settings typed s,
    ((reg.candidates settings typed s).map (·.name)).Pairwise (· < ·)
  offered : ∀ settings typed s name, name ∈ (reg.candidates settings typed s).map (·.name) ↔
    (∃ c ∈ cs, name ∈ c.names) ∧ settings.admits s typed name = true
  /-- Each has the description of the last grammar with its name. -/
  described : ∀ settings typed s, ∀ cand ∈ reg.candidates settings typed s,
    cand.kind = .subcommand ∧
      ∃ i c, LastNamed cs cand.name ⟨i, c⟩ ∧ cand.description = c.description

/-- **The last writer wins.** After any registrations a name leads to the last grammar that has it,
and the names, their number and the candidates are those that this gives. -/
theorem lastWriterMap_ofCommands (cs : List Command) : (ofCommands cs).LastWriterMap cs where
  lookup _ _ := lookup_ofCommands_eq_some_iff
  missing name := by
    rw [← Option.not_isSome_iff_eq_none]
    refine (not_congr contains_ofCommands_iff).trans ?_
    push Not
    rfl
  contains _ := contains_ofCommands_iff
  ordered := pairwise_names cs
  names _ := mem_names_iff.trans contains_ofCommands_iff
  size := by
    unfold size names
    rw [List.length_mergeSort, List.length_map]
  offeredOrdered settings typed s := by
    rw [map_name_candidates]
    exact (pairwise_names cs).filter _
  offered settings typed s name := by
    rw [map_name_candidates, List.mem_filter, mem_names_iff, contains_ofCommands_iff]
  described settings typed s cand hcand := by
    obtain ⟨hkind, hdescription⟩ := mem_candidates hcand
    have hname : cand.name ∈ (ofCommands cs).names := by
      have hmem := List.mem_map_of_mem (f := (·.name)) hcand
      rw [map_name_candidates] at hmem
      exact (List.mem_filter.mp hmem).1
    obtain ⟨c, hc⟩ := Option.isSome_iff_exists.mp (mem_names_iff.mp hname)
    obtain ⟨i, hlast⟩ := lookup_ofCommands_eq_some_iff.mp hc
    rw [hc] at hdescription
    exact ⟨hkind, i, c, hlast, hdescription⟩

end Registry

end TabCompletion
