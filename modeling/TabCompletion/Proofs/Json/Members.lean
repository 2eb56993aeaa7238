import Mathlib
import TabCompletion.Json.Basic

/-!
# Members put into an object

`Members.putAll` puts members one by one into an object. Where no name stands twice in the object,
what comes of it is told by the names, in order, and by the value of each.

Results:
* `ext_of_get?`: an object without a name twice is told by its names in order and their values.
* `get?_putAll`: the last value that is put under a name counts, else the one that was there.
* **`putAll_self`**, **`putAll_putAll`**: members that are there already change nothing, and the same
  members put twice are put once.
* `ofList_eq_self`: members without a name twice are an object as they are.
-/

namespace TabCompletion.Members

/-- The names of an object, in order. -/
abbrev keys (m : Members) : List String := m.map (·.1)

variable {m n new : Members} {key : String} {v : Json}

theorem get?_cons (kv : String × Json) (m : Members) (key : String) :
    get? (kv :: m) key = if key = kv.1 then some kv.2 else get? m key := by
  unfold get?
  rw [List.lookup_cons]
  by_cases h : key = kv.1
  · simp [h]
  · simp [h, beq_eq_false_iff_ne.mpr h]

/-- A name that is not there goes to the end. -/
theorem put_of_not_mem (h : key ∉ keys m) : put m key v = m ++ [(key, v)] := by
  induction m with
  | nil => rfl
  | cons kv rest ih =>
    have hne : kv.1 ≠ key := fun e => h (e ▸ List.mem_cons_self)
    rw [put, if_neg hne, ih fun hmem => h (List.mem_cons_of_mem _ hmem), List.cons_append]

/-- A value that is there already changes nothing. -/
theorem put_of_get? (h : get? m key = some v) : put m key v = m := by
  induction m with
  | nil => cases h
  | cons kv rest ih =>
    rw [get?_cons] at h
    by_cases hk : key = kv.1
    · rw [if_pos hk] at h
      cases h
      rw [put, if_pos hk.symm]
    · rw [if_neg hk] at h
      rw [put, if_neg (Ne.symm hk), ih h]

theorem get?_put (m : Members) (key other : String) (v : Json) :
    get? (put m key v) other = if other = key then some v else get? m other := by
  by_cases h : other = key
  · rw [if_pos h, h, get?_put_self]
  · rw [if_neg h, get?_put_of_ne m v h]

/-- The value under a name is that of its member. -/
theorem get?_of_mem (hm : (keys m).Nodup) (h : (key, v) ∈ m) : get? m key = some v := by
  induction m with
  | nil => cases h
  | cons kv rest ih =>
    rw [keys, List.map_cons, List.nodup_cons] at hm
    rw [get?_cons]
    rcases List.mem_cons.mp h with rfl | hrest
    · rw [if_pos rfl]
    · have hne : key ≠ kv.1 := by
        rintro rfl
        exact hm.1 (List.mem_map.mpr ⟨_, hrest, rfl⟩)
      rw [if_neg hne, ih hm.2 hrest]

/-- **An object is told by its names in order and the value of each.** -/
theorem ext_of_get? (hm : (keys m).Nodup) (hkeys : keys m = keys n)
    (hget : ∀ key, get? m key = get? n key) : m = n := by
  induction m generalizing n with
  | nil => exact (List.map_eq_nil_iff.mp hkeys.symm).symm
  | cons kv rest ih =>
    cases n with
    | nil => cases hkeys
    | cons kv' rest' =>
      obtain ⟨k, v⟩ := kv
      obtain ⟨k', v'⟩ := kv'
      obtain ⟨rfl, htail⟩ : k = k' ∧ keys rest = keys rest' := List.cons.inj hkeys
      have hfirst := hget k
      rw [get?_cons, get?_cons, if_pos rfl, if_pos rfl] at hfirst
      cases hfirst
      rw [keys, List.map_cons, List.nodup_cons] at hm
      -- Neither rest has the first name.
      have hnone {l : Members} (hl : k ∉ keys l) : get? l k = none := by
        rw [get?, List.lookup_eq_none_iff]
        intro kv hkv
        rw [bne_iff_ne]
        rintro rfl
        exact hl (List.mem_map_of_mem hkv)
      have hrest : ∀ key, get? rest key = get? rest' key := by
        intro key
        by_cases hk : key = k
        · rw [hk, hnone hm.1, hnone (htail ▸ hm.1)]
        · have := hget key
          rwa [get?_cons, get?_cons, if_neg hk, if_neg hk] at this
      rw [ih hm.2 htail hrest]

/-! ## All members of an object -/

theorem putAll_cons (m : Members) (kv : String × Json) (new : Members) :
    putAll m (kv :: new) = putAll (put m kv.1 kv.2) new := rfl

theorem nodup_put (hm : (keys m).Nodup) (key : String) (v : Json) : (keys (put m key v)).Nodup := by
  rw [keys, keys_put]
  split
  · exact hm
  · rename_i hkey
    rw [List.nodup_append]
    exact ⟨hm, List.nodup_singleton key, fun a ha b hb => by
      rintro rfl
      exact hkey ((List.mem_singleton.mp hb) ▸ ha)⟩

/-- No name comes to stand twice. -/
theorem nodup_putAll (hm : (keys m).Nodup) (new : Members) : (keys (putAll m new)).Nodup := by
  induction new generalizing m with
  | nil => exact hm
  | cons kv new ih => exact ih (nodup_put hm kv.1 kv.2)

/-- **The last value put under a name counts**, else the one that was there. -/
theorem get?_putAll (m new : Members) (key : String) :
    get? (putAll m new) key = (get? new.reverse key).or (get? m key) := by
  induction new generalizing m with
  | nil => rfl
  | cons kv new ih =>
    have hlast : get? (new.reverse ++ [kv]) key =
        (get? new.reverse key).or (if key = kv.1 then some kv.2 else none) := by
      rw [get?, List.lookup_append]
      congr 1
      exact get?_cons kv [] key
    rw [putAll_cons, ih, List.reverse_cons, hlast, get?_put, Option.or_assoc]
    congr 1
    split <;> rfl

/-- Names that are there stay as they are, in order. -/
theorem keys_putAll_of_subset (h : keys new ⊆ keys m) : keys (putAll m new) = keys m := by
  induction new generalizing m with
  | nil => rfl
  | cons kv new ih =>
    obtain ⟨hkv, hnew⟩ := List.cons_subset.mp h
    have hput : keys (put m kv.1 kv.2) = keys m := by
      rw [keys, keys_put, if_pos hkv]
    rw [putAll_cons, ih (by rw [hput]; exact hnew), hput]

/-- All names are there afterwards. -/
theorem subset_keys_putAll (m new : Members) :
    keys m ⊆ keys (putAll m new) ∧ keys new ⊆ keys (putAll m new) := by
  induction new generalizing m with
  | nil => exact ⟨List.Subset.refl _, List.nil_subset _⟩
  | cons kv new ih =>
    obtain ⟨hput, hnew⟩ := ih (put m kv.1 kv.2)
    have hkeys := keys_put m kv.1 kv.2
    have hm : keys m ⊆ keys (put m kv.1 kv.2) := by
      intro key hkey
      rw [keys, hkeys]
      split
      · exact hkey
      · exact List.mem_append_left _ hkey
    have hkv : kv.1 ∈ keys (put m kv.1 kv.2) := by
      rw [keys, hkeys]
      split
      · assumption
      · exact List.mem_append_right _ (List.mem_singleton_self _)
    exact ⟨List.Subset.trans hm hput, List.cons_subset.mpr ⟨hput hkv, hnew⟩⟩

/-- **Members that are there already change nothing.** -/
theorem putAll_self (hm : (keys m).Nodup) : putAll m m = m := by
  have hput : ∀ new, (∀ kv ∈ new, get? m kv.1 = some kv.2) → putAll m new = m := by
    intro new hnew
    induction new with
    | nil => rfl
    | cons kv new ih =>
      rw [putAll_cons, put_of_get? (hnew kv List.mem_cons_self)]
      exact ih fun kv' h => hnew kv' (List.mem_cons_of_mem _ h)
  exact hput m fun kv hkv => get?_of_mem hm hkv

/-- **The same members put twice are put once.** -/
theorem putAll_putAll (hm : (keys m).Nodup) (new : Members) :
    putAll (putAll m new) new = putAll m new := by
  refine ext_of_get? (nodup_putAll (nodup_putAll hm new) new)
    (keys_putAll_of_subset (subset_keys_putAll m new).2) fun key => ?_
  rw [get?_putAll, get?_putAll, ← Option.or_assoc, Option.or_self]

/-- Members that are new go to the end as they are. -/
theorem putAll_eq_append (h : (keys (m ++ new)).Nodup) : putAll m new = m ++ new := by
  induction new generalizing m with
  | nil => exact (List.append_nil m).symm
  | cons kv new ih =>
    have hkv : kv.1 ∉ keys m := by
      rw [keys, List.map_append, List.nodup_append] at h
      exact fun hmem => h.2.2 kv.1 hmem kv.1 List.mem_cons_self rfl
    rw [putAll_cons, put_of_not_mem hkv, ih (by rwa [List.append_assoc]), List.append_assoc]
    rfl

/-- Members without a name twice are an object as they are. -/
theorem ofList_eq_self (hm : (keys m).Nodup) : ofList m = m := @putAll_eq_append [] m hm

end TabCompletion.Members
