import Mathlib.Data.List.Nodup
import TabCompletion.Registry.Basic

/-!
# The names in a registry

A registration lets its names lead to it. A name that is there keeps its place, another comes in at
the end, so no name comes in twice. It leads to the last grammar that was registered with it.

Results:
* `keys_assign`: the names after one is assigned.
* **`nodup_names`**: every name of a registry is listed once.
* **`lookup_registerAll`**: where a name leads after some registrations.
-/

namespace TabCompletion.Registry

/-- A name that is there keeps its place, another comes in at the end. -/
theorem keys_assign (entries : List (String × Registration)) (name : String) (r : Registration) :
    (assign entries name r).map (·.1) =
      if name ∈ entries.map (·.1) then entries.map (·.1) else entries.map (·.1) ++ [name] := by
  induction entries with
  | nil => rfl
  | cons e rest ih =>
    obtain ⟨n, old⟩ := e
    unfold assign
    by_cases hn : n = name
    · subst hn
      simp
    · have hne : name ≠ n := Ne.symm hn
      rw [if_neg hn, List.map_cons, ih]
      by_cases hrest : name ∈ rest.map (·.1) <;> simp [hrest, hne]

theorem nodup_keys_assign {entries : List (String × Registration)}
    (h : (entries.map (·.1)).Nodup) (name : String) (r : Registration) :
    ((assign entries name r).map (·.1)).Nodup := by
  rw [keys_assign]
  split
  · exact h
  · rename_i hnew
    rw [← List.concat_eq_append]
    exact h.concat hnew

theorem nodup_keys_register {reg : Registry} (h : (reg.entries.map (·.1)).Nodup) (c : Command) :
    ((reg.register c).entries.map (·.1)).Nodup :=
  List.foldlRecOn (motive := fun entries : List (String × Registration) =>
    (entries.map (·.1)).Nodup) c.names _ h fun _ hentries name _ =>
      nodup_keys_assign hentries name _

/-- Registrations keep the names apart, however many there are. -/
theorem nodup_keys_registerAll {reg : Registry} (h : (reg.entries.map (·.1)).Nodup)
    (cs : List Command) : ((reg.registerAll cs).entries.map (·.1)).Nodup :=
  List.foldlRecOn (motive := fun reg : Registry => (reg.entries.map (·.1)).Nodup) cs _ h
    fun _ hreg c _ => nodup_keys_register hreg c

/-- **Every name is listed once.** -/
theorem nodup_names (cs : List Command) : (ofCommands cs).names.Nodup :=
  (List.mergeSort_perm _ _).nodup_iff.mpr (@nodup_keys_registerAll {} List.nodup_nil cs)

/-- A name leads to the last of some grammars that has it, or else where it led before. -/
theorem lookup_registerAll (reg : Registry) (cs : List Command) (name : String) :
    (reg.registerAll cs).lookup name =
      (cs.reverse.find? (·.names.contains name)).or (reg.lookup name) := by
  induction cs generalizing reg with
  | nil => rfl
  | cons c rest ih =>
    have hcons : reg.registerAll (c :: rest) = (reg.register c).registerAll rest := rfl
    rw [hcons, ih, lookup_register, List.reverse_cons, List.find?_append, Option.or_assoc]
    by_cases hname : name ∈ c.names
    · rw [if_pos hname, List.find?_cons_of_pos (by simpa using hname), Option.some_or]
    · rw [if_neg hname, List.find?_cons_of_neg (by simpa using hname), List.find?_nil,
        Option.none_or]

/-- The candidates of a registry are its names that pass the filter. -/
theorem map_name_candidates (reg : Registry) (settings : Settings) (typed : Option String)
    (s : Strategy) :
    (reg.candidates settings typed s).map (·.name) =
      reg.names.filter (settings.admits s typed) := by
  unfold candidates
  rw [List.map_map]
  exact List.map_id _

/-- The candidates of a registry have different names. -/
theorem nodup_candidates (cs : List Command) (settings : Settings) (typed : Option String)
    (s : Strategy) : (((ofCommands cs).candidates settings typed s).map (·.name)).Nodup := by
  rw [map_name_candidates]
  exact (nodup_names cs).filter _

end TabCompletion.Registry
