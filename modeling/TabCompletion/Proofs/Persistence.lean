import TabCompletion.Grammar.Persistent

/-!
# Gathering persistent options

On the way down a path of commands the persistent options of each are merged into those in force
(`mergePersistent`). What a merge brings in is `newPersistent`, which skips an option all of whose
names are known.

Results:
* `mem_allNames_newPersistent`: after a merge every name of every persistent option is known,
  whether the option itself came in or not.
* **`mergePersistent_self`**: a second merge of the same options brings in nothing. A command may be
  reached again after an option of its own, and what is in force stays as it is.
* `mergePersistent_append`: two merges one after the other are one merge of all the options.
* `inForceAlong` is what is in force at the end of a path, `inForceAlong_concat` its last step.
* **`inForceAlong_eq`**: what is in force at the end is merged of all options on the path, so that
  an option comes in if it has a name that none before it on the path has
  (`mem_mergePersistent_of_new`).
-/

namespace TabCompletion

/-! ## Known names -/

theorem Opt.mem_allNames {options : List Opt} {name : String} :
    name ∈ Opt.allNames options ↔ ∃ o ∈ options, name ∈ o.names := by
  unfold Opt.allNames
  exact List.mem_flatMap

theorem Opt.allNames_append (a b : List Opt) :
    Opt.allNames (a ++ b) = Opt.allNames a ++ Opt.allNames b := by
  unfold Opt.allNames
  exact List.flatMap_append

/-- Every name of a persistent option is known after the option was passed: it came in, or all its
names were known before. -/
theorem mem_allNames_newPersistent {known : List String} {incoming : List Opt} {o : Opt}
    (ho : o ∈ incoming) (hp : o.persistent = true) {name : String} (hn : name ∈ o.names) :
    name ∈ known ∨ name ∈ Opt.allNames (newPersistent known incoming) := by
  induction incoming generalizing known with
  | nil => exact absurd ho List.not_mem_nil
  | cons a rest ih =>
    unfold newPersistent
    split
    · rw [Opt.mem_allNames]
      rcases List.mem_cons.mp ho with rfl | ho
      · exact .inr ⟨o, List.mem_cons_self, hn⟩
      · rcases @ih (known ++ a.names) ho with h | h
        · rcases List.mem_append.mp h with h | h
          · exact .inl h
          · exact .inr ⟨a, List.mem_cons_self, h⟩
        · obtain ⟨b, hb, hname⟩ := Opt.mem_allNames.mp h
          exact .inr ⟨b, List.mem_cons_of_mem _ hb, hname⟩
    · rename_i hskip
      rcases List.mem_cons.mp ho with rfl | ho
      · by_cases hknown : name ∈ known
        · exact .inl hknown
        · refine absurd ?_ hskip
          rw [hp, Bool.true_and, List.any_eq_true]
          exact ⟨name, hn, by simpa using hknown⟩
      · exact ih ho

/-- Options of which every persistent one is known by all its names bring in nothing. -/
theorem newPersistent_eq_nil {known : List String} {incoming : List Opt}
    (h : ∀ o ∈ incoming, o.persistent = true → ∀ name ∈ o.names, name ∈ known) :
    newPersistent known incoming = [] := by
  induction incoming with
  | nil => rfl
  | cons a rest ih =>
    unfold newPersistent
    have hskip : ¬ (a.persistent && a.names.any fun n => !(known.contains n)) = true := by
      intro hnew
      obtain ⟨hp, hany⟩ := Bool.and_eq_true_iff.mp hnew
      obtain ⟨name, hn, hunknown⟩ := List.any_eq_true.mp hany
      have hknown := h a List.mem_cons_self hp name hn
      simp [hknown] at hunknown
    rw [if_neg hskip]
    exact ih fun o ho => h o (List.mem_cons_of_mem _ ho)

/-! ## Merging -/

theorem mem_allNames_mergePersistent {inForce incoming : List Opt} {o : Opt}
    (ho : o ∈ incoming) (hp : o.persistent = true) {name : String} (hn : name ∈ o.names) :
    name ∈ Opt.allNames (mergePersistent inForce incoming) := by
  unfold mergePersistent
  rw [Opt.allNames_append, List.mem_append]
  exact mem_allNames_newPersistent ho hp hn

/-- **A second merge of the same options changes nothing.** -/
theorem mergePersistent_self (inForce incoming : List Opt) :
    mergePersistent (mergePersistent inForce incoming) incoming =
      mergePersistent inForce incoming := by
  have h : newPersistent (Opt.allNames (mergePersistent inForce incoming)) incoming = [] :=
    newPersistent_eq_nil fun _ ho hp _ hn => mem_allNames_mergePersistent ho hp hn
  rw [mergePersistent, h, List.append_nil]

theorem newPersistent_append (known : List String) (a b : List Opt) :
    newPersistent known (a ++ b) =
      newPersistent known a ++ newPersistent (known ++ Opt.allNames (newPersistent known a)) b := by
  induction a generalizing known with
  | nil =>
    have hnone : Opt.allNames [] = [] := rfl
    rw [List.nil_append, newPersistent, hnone, List.append_nil, List.nil_append]
  | cons o rest ih =>
    rw [List.cons_append, newPersistent, newPersistent]
    split
    · have hnames : ∀ os, Opt.allNames (o :: os) = o.names ++ Opt.allNames os := fun _ => rfl
      rw [ih, hnames, List.append_assoc, List.cons_append]
    · exact ih known

/-- Two merges one after the other are one merge. -/
theorem mergePersistent_append (inForce a b : List Opt) :
    mergePersistent (mergePersistent inForce a) b = mergePersistent inForce (a ++ b) := by
  unfold mergePersistent
  rw [newPersistent_append, Opt.allNames_append, List.append_assoc]

/-- A persistent option comes in if one of its names is neither known nor a name of a persistent
option before it. -/
theorem mem_mergePersistent_of_new {inForce earlier later : List Opt} {o : Opt}
    (hp : o.persistent = true) {name : String} (hn : name ∈ o.names)
    (hknown : name ∉ Opt.allNames inForce)
    (hearlier : ∀ e ∈ earlier, e.persistent = true → name ∉ e.names) :
    o ∈ mergePersistent inForce (earlier ++ o :: later) := by
  rw [← mergePersistent_append]
  have hnew : name ∉ Opt.allNames (mergePersistent inForce earlier) := by
    unfold mergePersistent
    rw [Opt.allNames_append, List.mem_append, not_or]
    refine ⟨hknown, fun hmem => ?_⟩
    obtain ⟨e, he, hname⟩ := Opt.mem_allNames.mp hmem
    obtain ⟨hpersistent, hmem⟩ := mem_newPersistent he
    exact hearlier e hmem hpersistent hname
  have hcomes : (o.persistent && o.names.any fun n =>
      !((Opt.allNames (mergePersistent inForce earlier)).contains n)) = true := by
    rw [hp, Bool.true_and, List.any_eq_true]
    exact ⟨name, hn, by simpa using hnew⟩
  rw [mergePersistent, newPersistent, if_pos hcomes]
  exact List.mem_append_right _ List.mem_cons_self

/-! ## Along a path -/

/-- The options in force after the commands of a path: each merges in its persistent ones. -/
def inForceAlong (path : List Command) : List Opt :=
  path.foldl (fun inForce c => mergePersistent inForce c.options) []

@[simp] theorem inForceAlong_concat (path : List Command) (c : Command) :
    inForceAlong (path ++ [c]) = mergePersistent (inForceAlong path) c.options := by
  unfold inForceAlong
  rw [List.foldl_append, List.foldl_cons, List.foldl_nil]

/-- At the end of a path a merge of the last command's own options changes nothing. -/
theorem mergePersistent_inForceAlong (path : List Command) (c : Command) :
    mergePersistent (inForceAlong (path ++ [c])) c.options = inForceAlong (path ++ [c]) := by
  rw [inForceAlong_concat, mergePersistent_self]

/-- **What is in force at the end of a path** is merged of all the options on it. -/
theorem inForceAlong_eq (path : List Command) :
    inForceAlong path = mergePersistent [] (path.flatMap (·.options)) := by
  have hgeneral : ∀ (path : List Command) (declared : List Opt),
      path.foldl (fun inForce c => mergePersistent inForce c.options)
          (mergePersistent [] declared) =
        mergePersistent [] (declared ++ path.flatMap (·.options)) := by
    intro path
    induction path with
    | nil =>
      intro declared
      rw [List.foldl_nil, List.flatMap_nil, List.append_nil]
    | cons c rest ih =>
      intro declared
      rw [List.foldl_cons, mergePersistent_append, ih, List.flatMap_cons, List.append_assoc]
  exact hgeneral path []

end TabCompletion
