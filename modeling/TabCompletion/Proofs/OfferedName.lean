import TabCompletion.Offer

/-!
# The name under which a node is offered

A child or an option is offered under one of its names, the first among the longest of those that
pass the filter of the typed text.

Results:
* **`longestName_eq`**: what the first among the longest is (`FirstLongest`).
* `firstLongest_longestName`: of some names there is one.
* `mem_filter_of_offerNode`: a node is offered under one of its names that passes.
* `offerNode_untyped`: before anything is typed every name passes.
-/

namespace TabCompletion

/-- No name of the list is longer, and those before it are shorter. -/
def FirstLongest (names : List String) (name : String) : Prop :=
  ∃ shorter others, names = shorter ++ name :: others ∧
    (∀ n ∈ shorter, n.length < name.length) ∧ ∀ n ∈ others, n.length ≤ name.length

/-- The longer of two names, the first one if they are equally long. -/
def longerName (best n : String) : String := if best.length < n.length then n else best

theorem foldl_longer_of_shorter {best : String} {names : List String} {length : Nat}
    (hbest : best.length < length) (h : ∀ n ∈ names, n.length < length) :
    (names.foldl longerName best).length < length := by
  refine List.foldlRecOn (motive := fun best : String => best.length < length) names _ hbest ?_
  intro best hbest n hn
  unfold longerName
  split
  · exact h n hn
  · exact hbest

theorem foldl_longer_of_longest {best : String} {names : List String}
    (h : ∀ n ∈ names, n.length ≤ best.length) : names.foldl longerName best = best := by
  refine List.foldlRecOn (motive := fun b => b = best) names _ rfl ?_
  rintro b rfl n hn
  exact if_neg (Nat.not_lt.mpr (h n hn))

/-- **The first among the longest names.** -/
theorem longestName_eq {names : List String} {name : String} (h : FirstLongest names name)
    (hne : name ≠ "") : longestName names = name := by
  obtain ⟨shorter, others, rfl, hshorter, hothers⟩ := h
  have hpos : "".length < name.length := by
    rw [← String.length_toList, ← String.length_toList]
    exact List.length_pos_iff.mpr fun hnil => hne (String.toList_eq_nil_iff.mp hnil)
  have hbefore : (shorter.foldl longerName "").length < name.length :=
    foldl_longer_of_shorter hpos hshorter
  show (shorter ++ name :: others).foldl longerName "" = name
  rw [List.foldl_append, List.foldl_cons, longerName, if_pos hbefore]
  exact foldl_longer_of_longest hothers

theorem FirstLongest.length_le {names : List String} {name n : String}
    (h : FirstLongest names name) (hn : n ∈ names) : n.length ≤ name.length := by
  obtain ⟨shorter, others, rfl, hshorter, hothers⟩ := h
  rcases List.mem_append.mp hn with hn | hn
  · exact Nat.le_of_lt (hshorter n hn)
  · rcases List.mem_cons.mp hn with rfl | hn
    · exact Nat.le_refl _
    · exact hothers n hn

theorem FirstLongest.mem {names : List String} {name : String} (h : FirstLongest names name) :
    name ∈ names := by
  obtain ⟨shorter, others, rfl, -⟩ := h
  exact List.mem_append_cons_self

/-- One more name is the first among the longest if it is longer than all before it. -/
theorem FirstLongest.concat {names : List String} {name : String} (h : FirstLongest names name)
    (n : String) : FirstLongest (names ++ [n]) (longerName name n) := by
  unfold longerName
  split
  · rename_i hlt
    exact ⟨names, [], rfl, fun m hm => Nat.lt_of_le_of_lt (h.length_le hm) hlt,
      List.forall_mem_nil _⟩
  · rename_i hle
    obtain ⟨shorter, others, rfl, hshorter, hothers⟩ := h
    refine ⟨shorter, others ++ [n], by simp, hshorter, fun m hm => ?_⟩
    rcases List.mem_append.mp hm with hm | hm
    · exact hothers m hm
    · rw [List.mem_singleton.mp hm]
      exact Nat.not_lt.mp hle

theorem FirstLongest.append {names : List String} {name : String} (h : FirstLongest names name)
    (more : List String) : FirstLongest (names ++ more) (more.foldl longerName name) := by
  induction more generalizing names name with
  | nil => rwa [List.append_nil]
  | cons n rest ih =>
    rw [List.append_cons, List.foldl_cons]
    exact ih (h.concat n)

/-- Of some names there is a first among the longest. -/
theorem firstLongest_longestName {names : List String} (h : names ≠ []) :
    FirstLongest names (longestName names) := by
  obtain ⟨n, rest, rfl⟩ := List.exists_cons_of_ne_nil h
  have hone : FirstLongest [n] n :=
    ⟨[], [], rfl, List.forall_mem_nil _, List.forall_mem_nil _⟩
  have hstart : longerName "" n = n := by
    unfold longerName
    split
    · rfl
    · rename_i hle
      exact (String.length_eq_zero_iff.mp (Nat.le_zero.mp (Nat.not_lt.mp hle))).symm
  show FirstLongest ([n] ++ rest) (rest.foldl longerName (longerName "" n))
  rw [hstart]
  exact hone.append rest

theorem longestName_mem (names : List String) :
    longestName names = "" ∨ longestName names ∈ names := by
  by_cases h : names = []
  · rw [h]
    exact .inl rfl
  · exact .inr (firstLongest_longestName h).mem

/-! ## Nodes -/

section Nodes

variable {settings : Settings} {s : Strategy} {typed : Option String} {kind : Kind}
  {names : List String} {description : Json} {cand : Candidate}

theorem mem_filter_of_offerNode
    (h : settings.offerNode s typed kind names description = some cand) :
    cand.name ∈ names.filter (settings.admits s typed) := by
  unfold Settings.offerNode at h
  dsimp only at h
  split at h
  · cases h
  · rename_i hne
    cases h
    exact (longestName_mem _).resolve_left hne

/-- A node is offered under one of its names. -/
theorem name_mem_of_offerNode
    (h : settings.offerNode s typed kind names description = some cand) : cand.name ∈ names :=
  (List.mem_filter.mp (mem_filter_of_offerNode h)).1

/-- A node is offered under a name that passes the filter. -/
theorem admits_of_offerNode
    (h : settings.offerNode s typed kind names description = some cand) :
    settings.admits s typed cand.name = true :=
  (List.mem_filter.mp (mem_filter_of_offerNode h)).2

end Nodes

/-- Before anything is typed a node is offered under the first among its longest names. -/
theorem offerNode_untyped (settings : Settings) (s : Strategy) (kind : Kind)
    {names : List String} {name : String} (h : FirstLongest names name) (hne : name ≠ "")
    (description : Json) :
    settings.offerNode s none kind names description = some { name, kind, description } := by
  have hname : settings.offeredName s none names = name := by
    unfold Settings.offeredName
    have hall : names.filter (settings.admits s none) = names :=
      List.filter_eq_self.mpr fun _ _ => rfl
    rw [hall, longestName_eq h hne]
  unfold Settings.offerNode
  rw [hname]
  exact if_neg hne

end TabCompletion
