import TabCompletion.Proofs.Persistence

/-!
# Laws of merging

A merge goes through the options from the first to the last. What is known at an option is what was
known before the merge and the names of the options that came in on the way, so each that comes in
brings a name that stands nowhere before it. A command is merged again whenever the walk returns to
it; that this is harmless rests on these laws.

Results:
* `newPersistent_sublist`: only persistent options come in, in their order.
* `exists_new_of_newPersistent`: each brings a name of its own, by induction on the options with
  what is known generalized.
* `mem_allNames_mergePersistent_iff`: which names are known after a merge.
* **`merging_laws`**: all of this, with the laws for two merges.
-/

namespace TabCompletion

variable {inForce incoming before after : List Opt} {known : List String} {o : Opt} {name : String}

theorem newPersistent_sublist (known : List String) (incoming : List Opt) :
    (newPersistent known incoming).Sublist (incoming.filter (·.persistent)) := by
  induction incoming generalizing known with
  | nil => exact .slnil
  | cons a rest ih =>
    unfold newPersistent
    split
    · rename_i hcomes
      rw [List.filter_cons_of_pos (Bool.and_eq_true_iff.mp hcomes).1]
      exact (ih _).cons_cons a
    · exact (ih known).trans ((List.sublist_cons_self a rest).filter _)

/-- An option that comes in brings a name that was not known and that no option brought before. -/
theorem exists_new_of_newPersistent (h : newPersistent known incoming = before ++ o :: after) :
    ∃ new ∈ o.names, new ∉ known ∧ new ∉ Opt.allNames before := by
  induction incoming generalizing known before with
  | nil => simp [newPersistent] at h
  | cons a rest ih =>
    unfold newPersistent at h
    split at h
    · rename_i hcomes
      cases before with
      | nil =>
        obtain ⟨rfl, -⟩ := List.cons.inj h
        obtain ⟨new, hnew, hunknown⟩ := List.any_eq_true.mp (Bool.and_eq_true_iff.mp hcomes).2
        exact ⟨new, hnew, by simpa using hunknown, List.not_mem_nil⟩
      | cons b before =>
        obtain ⟨rfl, hrest⟩ := List.cons.inj h
        obtain ⟨new, hnew, hknown, hbefore⟩ := ih hrest
        rw [List.mem_append, not_or] at hknown
        refine ⟨new, hnew, hknown.1, fun hmem => ?_⟩
        obtain ⟨e, he, hname⟩ := Opt.mem_allNames.mp hmem
        rcases List.mem_cons.mp he with rfl | he
        · exact hknown.2 hname
        · exact hbefore (Opt.mem_allNames.mpr ⟨e, he, hname⟩)
    · exact ih h

/-- After a merge the names are known that were known before, and those of all persistent options
that were merged, whether the option came in or not. -/
theorem mem_allNames_mergePersistent_iff :
    name ∈ Opt.allNames (mergePersistent inForce incoming) ↔
      name ∈ Opt.allNames inForce ∨ ∃ o ∈ incoming, o.persistent = true ∧ name ∈ o.names := by
  constructor
  · intro h
    unfold mergePersistent at h
    rw [Opt.allNames_append, List.mem_append] at h
    refine h.imp_right fun hadded => ?_
    obtain ⟨o, ho, hname⟩ := Opt.mem_allNames.mp hadded
    obtain ⟨hp, hmem⟩ := mem_newPersistent ho
    exact ⟨o, hmem, hp, hname⟩
  · rintro (h | ⟨o, ho, hp, hname⟩)
    · unfold mergePersistent
      rw [Opt.allNames_append, List.mem_append]
      exact .inl h
    · exact mem_allNames_mergePersistent ho hp hname

/-- **The laws of merging.** What was in force stays in front. Behind it stand persistent options of
those that were merged, in their order, each with a name that no option before it has. The known
names are those from before and all names of the persistent options. Merging the same options again
changes nothing, and merging two lists one after the other is merging them as one. -/
theorem merging_laws (inForce a b : List Opt) :
    (∃ added, mergePersistent inForce a = inForce ++ added ∧
      added.Sublist (a.filter (·.persistent)) ∧
      ∀ before o after, added = before ++ o :: after →
        ∃ new ∈ o.names, new ∉ Opt.allNames (inForce ++ before)) ∧
    (∀ name, name ∈ Opt.allNames (mergePersistent inForce a) ↔
      name ∈ Opt.allNames inForce ∨ ∃ o ∈ a, o.persistent = true ∧ name ∈ o.names) ∧
    mergePersistent (mergePersistent inForce a) a = mergePersistent inForce a ∧
    mergePersistent (mergePersistent inForce a) b = mergePersistent inForce (a ++ b) := by
  have hnew : ∀ before o after,
      newPersistent (Opt.allNames inForce) a = before ++ o :: after →
        ∃ new ∈ o.names, new ∉ Opt.allNames (inForce ++ before) := by
    intro before o after hsplit
    obtain ⟨new, hname, hknown, hbefore⟩ := exists_new_of_newPersistent hsplit
    refine ⟨new, hname, ?_⟩
    rw [Opt.allNames_append, List.mem_append, not_or]
    exact ⟨hknown, hbefore⟩
  exact ⟨⟨_, rfl, newPersistent_sublist _ a, hnew⟩, fun _ => mem_allNames_mergePersistent_iff,
    mergePersistent_self inForce a, mergePersistent_append inForce a b⟩

end TabCompletion
