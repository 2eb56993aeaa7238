import TabCompletion.Grammar.Basic

/-!
# Persistent options

A persistent option of a command holds for the commands below it. On the way down the options in
force are gathered: one comes in if it brings a name that none before it has.

* `mergePersistent_eq_append`: what was in force stays, and the new options follow in order.
* `mem_newPersistent`: only persistent options come in.
-/

namespace TabCompletion

/-- A token that was read as an option or a value; a persistent one is kept on the way down. -/
structure Accepted where
  text : String
  persist : Bool := false
  deriving DecidableEq, Repr

/-- The names of some options. -/
def Opt.allNames (options : List Opt) : List String := options.flatMap (·.names)

/-- The persistent options that bring a name which is neither known nor brought before. -/
def newPersistent (known : List String) : List Opt → List Opt
  | [] => []
  | o :: rest =>
    if o.persistent && o.names.any (fun n => !(known.contains n)) then
      o :: newPersistent (known ++ o.names) rest
    else newPersistent known rest

/-- The options in force below a command with options `incoming`, where `inForce` hold above. -/
def mergePersistent (inForce incoming : List Opt) : List Opt :=
  inForce ++ newPersistent (Opt.allNames inForce) incoming

theorem mergePersistent_eq_append (inForce incoming : List Opt) :
    ∃ added, mergePersistent inForce incoming = inForce ++ added ∧ added.Sublist incoming := by
  refine ⟨_, rfl, ?_⟩
  generalize Opt.allNames inForce = known
  induction incoming generalizing known with
  | nil => exact .slnil
  | cons o rest ih =>
    unfold newPersistent
    split
    · exact (ih _).cons_cons _
    · exact (ih _).cons _

theorem mem_newPersistent {known : List String} {incoming : List Opt} {o : Opt}
    (h : o ∈ newPersistent known incoming) : o.persistent = true ∧ o ∈ incoming := by
  induction incoming generalizing known with
  | nil => simp [newPersistent] at h
  | cons a rest ih =>
    unfold newPersistent at h
    split at h
    · rename_i hp
      rcases List.mem_cons.1 h with rfl | h
      · simp_all
      · exact ⟨(ih h).1, List.mem_cons_of_mem _ (ih h).2⟩
    · exact ⟨(ih h).1, List.mem_cons_of_mem _ (ih h).2⟩

/-- Whether a token names one of the options in force. -/
def isPersistentName (name : String) (inForce : List Opt) : Bool :=
  (Opt.find? name inForce).isSome

/-- The accepted tokens that are kept when a child command is entered. -/
def keptBelow (accepted : List Accepted) : List Accepted := accepted.filter (·.persist)

end TabCompletion
