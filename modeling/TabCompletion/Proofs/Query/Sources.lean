import TabCompletion.Offer
import TabCompletion.Proofs.Listing
import TabCompletion.Proofs.Query.Fails

/-!
# Sources of values that fail

A generator that cannot be called offers nothing, and so does one whose program is missing, is
denied, takes too long or ends with a code, and a directory that is missing. Two things are left
that end a query in a fault: a generator whose script cannot be run or read, or whose output is to
be cut at something that is no text (`Generator.Faulty`), and a directory whose listing fails
(`Arg.Unlistable`).

* `candidates_fails_iff`, `paths_fails_iff`: the two, source by source.
* **`sourced_fails_iff`**: what an argument offers fails exactly where one of its sources does.
* `faulty_of_refused`: a script without a program, or with a null character, is such a source.
-/

namespace TabCompletion

variable {context : Context} {memory : Memory}

/-! ## Generators -/

/-- What a script leaves: its output if it ends well and nothing if it fails, unless running it is
a fault. -/
def Outcome.result : Outcome → Except Fault (Option String)
  | .finished output 0 => .ok (some output)
  | .escaped f => .error (.script f)
  | _ => .ok none

/-- The output is to be cut at a value that is no text. -/
def Generator.Uncut (g : Generator) : Prop := g.splitOn.truthy = true ∧ ∀ s, g.splitOn ≠ .text s

/-- The generator runs a script, and running it is a fault, or it ends well and its output is to be
cut at a value that is no text. -/
def Generator.Faulty (g : Generator) (context : Context) : Prop :=
  g.provider = none ∧ ∃ s, g.script = some s ∧
    ((∃ f, g.outcome context s = .escaped f) ∨
      (∃ output, g.outcome context s = .finished output 0) ∧ g.reader = none ∧ g.Uncut)

theorem result_eq_some_iff {o : Outcome} {output : String} :
    o.result = .ok (some output) ↔ o = .finished output 0 := by
  unfold Outcome.result
  split <;> simp_all

theorem result_error_iff {o : Outcome} :
    (∃ f, o.result = .error f) ↔ ∃ f, o = .escaped f := by
  unfold Outcome.result
  split <;> simp_all

/-- A script that neither ends well nor is a fault leaves nothing. -/
theorem result_of_otherwise {o : Outcome} (hfinished : ∀ output, o ≠ .finished output 0)
    (hescaped : ∀ f, o ≠ .escaped f) : o.result = .ok none := by
  unfold Outcome.result
  split
  · rename_i output
    exact absurd rfl (hfinished output)
  · rename_i f
    exact absurd rfl (hescaped f)
  · rfl

theorem separator_error_iff {g : Generator} : (∃ f, g.separator = .error f) ↔ g.Uncut := by
  unfold Generator.separator Generator.Uncut
  split
  · rename_i ht
    cases hv : g.splitOn <;> simp_all
  · rename_i ht
    simp [ht]

/-- What a generator makes of how its script ends. -/
def Generator.afterRun : Outcome → Query (Option String)
  | .finished output 0 => pure (some output)
  | .escaped f => throw (.script f)
  | _ => do
    Query.log .scriptFailed
    pure none

theorem output_eq (g : Generator) (s : Script) :
    g.output s = (do
      let context ← read
      Query.emit (.script s (g.patience context.settings))
      Generator.afterRun (g.outcome context s)) := rfl

theorem afterRun_brief (o : Outcome) : (Generator.afterRun o).Brief := by
  unfold Generator.afterRun
  split
  · exact .answered _
  · exact .failed _
  · exact .noted _ _

theorem result_of_afterRun (o : Outcome) (context : Context) (memory : Memory) :
    ((Generator.afterRun o).answer context memory).1 = o.result := by
  unfold Generator.afterRun
  split
  · rfl
  · rfl
  · rename_i hfinished hescaped
    exact (result_of_otherwise hfinished hescaped).symm

/-- **Running a script** gives what the script leaves, and touches no listing. -/
theorem answer_output (g : Generator) (s : Script) (context : Context) (memory : Memory) :
    ∃ after, (g.output s).answer context memory = ((g.outcome context s).result, after) ∧
      after.listings = memory.listings := by
  rw [output_eq, Query.answer_bind, Query.answer_read]
  dsimp only
  rw [Query.answer_bind, Query.answer_emit, ← result_of_afterRun]
  exact ⟨_, rfl, (afterRun_brief _).unscanned _ _⟩

/-- Calling a provider does not fail, whatever it hands over. -/
theorem answer_call (p : Provider) (accepted : List String) (context : Context) (memory : Memory) :
    ∃ r after, (p.call accepted).answer context memory = (.ok r, after) ∧
      after.listings = memory.listings := by
  cases p with
  | processes => exact ⟨_, _, rfl, rfl⟩
  | processNames => exact ⟨_, _, rfl, rfl⟩
  | custom call => exact ⟨_, _, rfl, rfl⟩

theorem not_call_fails {p : Provider} {accepted : List String} :
    ¬ (p.call accepted).Fails context memory := by
  rintro ⟨f, hf⟩
  obtain ⟨r, after, hanswer, -⟩ := answer_call p accepted context memory
  rw [hanswer] at hf
  cases hf

/-- What a generator makes of the items that its provider hands over. -/
def Generator.afterCall : Except String (List Item) → Query (List Candidate)
  | .ok items => pure (candidatesOf items)
  | .error _ => do
    Query.log .functionFailed
    pure []

/-- What a generator makes of the output of its script. -/
def Generator.afterOutput (g : Generator) : Option String → Query (List Candidate)
  | none => pure []
  | some output =>
    match g.reader with
    | some reader =>
      match reader output with
      | .ok items => pure (candidatesOf items)
      | .error _ => do
        Query.log .readerFailed
        pure []
    | none =>
      match g.separator with
      | .ok sep => pure (candidatesOf ((Text.splitOn sep output).map fun s => .value (.text s)))
      | .error f => throw f

theorem candidates_eq (g : Generator) (accepted : List String) :
    g.candidates accepted =
      match g.provider, g.script with
      | some p, _ => p.call accepted >>= Generator.afterCall
      | none, none => pure []
      | none, some s => g.output s >>= g.afterOutput := by
  unfold Generator.candidates
  cases g.provider with
  | some p => rfl
  | none => cases g.script <;> rfl

theorem afterCall_brief (items : Except String (List Item)) :
    (Generator.afterCall items).Brief := by
  cases items with
  | ok items => exact .answered _
  | error e => exact .noted _ _

theorem afterOutput_brief (g : Generator) (output : Option String) :
    (g.afterOutput output).Brief := by
  cases output with
  | none => exact .answered _
  | some output =>
    unfold Generator.afterOutput
    dsimp only
    cases g.reader with
    | some reader =>
      dsimp only
      cases reader output with
      | ok items => exact .answered _
      | error e => exact .noted _ _
    | none =>
      cases g.separator with
      | ok sep => exact .answered _
      | error f => exact .failed f

theorem not_afterCall_fails (items : Except String (List Item)) :
    ¬ (Generator.afterCall items).Fails context memory := by
  rintro ⟨f, hf⟩
  cases items <;> cases hf

theorem afterOutput_fails_iff {g : Generator} {output : Option String} :
    (g.afterOutput output).Fails context memory ↔
      output.isSome = true ∧ g.reader = none ∧ ∃ f, g.separator = .error f := by
  cases output with
  | none => exact ⟨nofun, nofun⟩
  | some output =>
    unfold Generator.afterOutput
    dsimp only
    cases g.reader with
    | some reader =>
      dsimp only
      cases reader output <;> exact ⟨nofun, nofun⟩
    | none =>
      cases g.separator with
      | ok sep => exact ⟨nofun, nofun⟩
      | error f => exact ⟨fun _ => ⟨rfl, rfl, f, rfl⟩, fun _ => Query.fails_throw f⟩

/-- **When a generator fails.** -/
theorem candidates_fails_iff {g : Generator} {accepted : List String} :
    (g.candidates accepted).Fails context memory ↔ g.Faulty context := by
  rw [candidates_eq]
  unfold Generator.Faulty
  cases g.provider with
  | some p =>
    dsimp only
    rw [Query.fails_bind_of_never fun items after => not_afterCall_fails items]
    exact ⟨fun h => absurd h not_call_fails, nofun⟩
  | none =>
    cases g.script with
    | none => simp
    | some s =>
      obtain ⟨after, hanswer, -⟩ := answer_output g s context memory
      simp only [true_and, Option.some.injEq, exists_eq_left']
      cases hresult : (g.outcome context s).result with
      | error f =>
        -- the fault of the script is that of the generator
        have hescaped := result_error_iff.mp ⟨f, hresult⟩
        rw [hresult] at hanswer
        exact ⟨fun _ => .inl hescaped, fun _ => Query.fails_bind_of_fault hanswer⟩
      | ok output =>
        have hescaped : ¬ ∃ f, g.outcome context s = .escaped f := by
          rw [← result_error_iff, hresult]
          exact nofun
        rw [hresult] at hanswer
        rw [Query.fails_bind_of_answer hanswer, afterOutput_fails_iff, separator_error_iff,
          or_iff_right hescaped, Option.isSome_iff_exists]
        refine and_congr_left fun _ => exists_congr fun text => ?_
        rw [← result_eq_some_iff, hresult, Except.ok.injEq]

/-- A generator leaves the remembered listings alone. -/
theorem candidates_unscanned (g : Generator) (accepted : List String) :
    (g.candidates accepted).Unscanned := by
  rw [candidates_eq]
  cases g.provider with
  | some p =>
    refine Query.unscanned_bind (fun context memory => ?_) fun items =>
      (afterCall_brief items).unscanned
    obtain ⟨r, after, hanswer, hlistings⟩ := answer_call p accepted context memory
    rw [hanswer]
    exact hlistings
  | none =>
    cases g.script with
    | none => exact Query.unscanned_pure []
    | some s =>
      refine Query.unscanned_bind (fun context memory => ?_) fun output =>
        (afterOutput_brief g output).unscanned
      obtain ⟨after, hanswer, hlistings⟩ := answer_output g s context memory
      rw [hanswer]
      exact hlistings

/-! ## Arguments -/

/-- What is left of a typed path names a user with a null character in the name. -/
def NullOwner (directoryPart : String) : Prop :=
  ∃ name, Path.homeOwner? directoryPart = some name ∧ HasNull name

/-- The directory that is listed for a typed path. -/
def Host.listed (h : Host) (typed : Option String) : Except Fault String :=
  (h.directoryOr none).bind fun start => h.targetDirectory start (splitPath typed).1

/-- The argument takes paths, and the directory that a typed path names cannot be told or cannot be
listed. -/
def Arg.Unlistable (a : Arg) (h : Host) (known : Listings) (typed : Option String) : Prop :=
  a.templates ≠ [] ∧
    (h.workingDir.removed = true ∨ NullOwner (splitPath typed).1 ∨
      ∃ path, h.listed typed = .ok path ∧
        (HasNull path ∨ ¬ known.Holds h.disk h.workingDir path ∧
          ∃ f, h.disk.entries h.workingDir path = .error f ∧ f.meansEmpty = false))

theorem expandHome_error_iff {h : Host} {path : String} :
    (∃ f, h.expandHome path = .error f) ↔ NullOwner path := by
  unfold Host.expandHome NullOwner HasNull
  cases Path.homeOwner? path with
  | none => simp
  | some name =>
    by_cases hname : name = ""
    · subst hname
      simp
    · simp only [Option.some.injEq, exists_eq_left']
      split <;> simp_all

/-- The directory cannot be told if the working directory is gone or no user can have the name. -/
theorem listed_error_iff {h : Host} {typed : Option String} :
    (∃ f, h.listed typed = .error f) ↔
      h.workingDir.removed = true ∨ NullOwner (splitPath typed).1 := by
  unfold Host.listed Host.directoryOr WorkingDir.currentPath
  cases h.workingDir.removed with
  | true => exact ⟨fun _ => .inl rfl, fun _ => ⟨_, rfl⟩⟩
  | false =>
    rw [← @expandHome_error_iff h, or_iff_right Bool.false_ne_true]
    unfold Host.targetDirectory
    by_cases hempty : (splitPath typed).1 = ""
    · rw [hempty]
      exact ⟨nofun, nofun⟩
    · simp only [hempty, if_false]
      cases h.expandHome (splitPath typed).1 with
      | ok path => exact ⟨nofun, nofun⟩
      | error f => exact ⟨fun _ => ⟨f, rfl⟩, fun _ => ⟨f, rfl⟩⟩

theorem generated_fails_iff {a : Arg} {typed : Option String} {s : Strategy}
    {accepted : List Accepted} :
    (a.generated typed s accepted).Fails context memory ↔
      ∃ g, a.generator = some g ∧ g.Faulty context := by
  unfold Arg.generated
  cases a.generator with
  | none => exact ⟨nofun, nofun⟩
  | some g =>
    dsimp only
    rw [Query.fails_read_bind, Query.fails_bind_of_never fun _ _ => Query.fails_pure _,
      candidates_fails_iff]
    simp

theorem generated_unscanned (a : Arg) (typed : Option String) (s : Strategy)
    (accepted : List Accepted) : (a.generated typed s accepted).Unscanned := by
  unfold Arg.generated
  cases a.generator with
  | none => exact Query.unscanned_pure []
  | some g =>
    exact Query.unscanned_bind Query.unscanned_read fun _ =>
      Query.unscanned_bind (candidates_unscanned g _) fun _ => Query.unscanned_pure _

/-- **When the paths of an argument fail.** -/
theorem paths_fails_iff {a : Arg} {typed : Option String} {s : Strategy} :
    (a.paths typed s).Fails context memory ↔
      a.Unlistable context.host memory.listings typed := by
  unfold Arg.paths Arg.pathsFrom Arg.Unlistable
  split
  · rename_i htemplates
    have hnone : a.templates = [] := List.isEmpty_iff.mp htemplates
    exact ⟨nofun, fun h => absurd hnone h.1⟩
  · rename_i htemplates
    rw [Query.fails_read_bind, ← or_assoc, ← listed_error_iff]
    have hsome : a.templates ≠ [] := fun h => htemplates (List.isEmpty_iff.mpr h)
    rw [and_iff_right hsome]
    dsimp only
    unfold Host.listed
    simp only [← Listings.scan_error_iff]
    cases context.host.directoryOr none with
    | error f => exact ⟨fun _ => .inl ⟨f, rfl⟩, fun _ => ⟨f, rfl⟩⟩
    | ok start =>
      rw [Query.fails_bind_of_answer (Query.answer_liftM _ _ _)]
      simp only [Except.bind]
      cases context.host.targetDirectory start (splitPath typed).1 with
      | error f => exact ⟨fun _ => .inl ⟨f, rfl⟩, fun _ => ⟨f, rfl⟩⟩
      | ok path =>
        rw [Query.fails_bind_of_answer (Query.answer_liftM _ _ _),
          Query.fails_bind_of_never fun _ _ => Query.fails_pure _, Query.fails_scan_iff]
        simp

/-- One of the sources of the argument fails. -/
def Arg.Faulty (a : Arg) (context : Context) (known : Listings) (typed : Option String) : Prop :=
  (∃ g, a.generator = some g ∧ g.Faulty context) ∨ a.Unlistable context.host known typed

/-- **What an argument offers fails** exactly where one of its sources does. -/
theorem sourced_fails_iff {a : Arg} {typed : Option String} {s : Strategy}
    {accepted : List Accepted} :
    (a.sourced typed s accepted).Fails context memory ↔
      a.Faulty context memory.listings typed := by
  unfold Arg.sourced Arg.Faulty
  rw [Query.fails_read_bind]
  refine (Query.fails_bind_of_unscanned (generated_unscanned a typed s accepted)
    fun generated after hlistings => ?_).trans (or_congr_left generated_fails_iff)
  rw [Query.fails_bind_of_never fun _ _ => Query.fails_pure _, paths_fails_iff, hlistings]

theorem argCandidates_fails_iff {a : Arg} {roots : Roots} {typed : Option String} {s : Strategy}
    {accepted : List Accepted} :
    (a.candidates roots typed s accepted).Fails context memory ↔
      a.Faulty context memory.listings typed := by
  unfold Arg.candidates
  rw [Query.fails_read_bind, Query.fails_bind_of_never fun _ _ => Query.fails_pure _,
    sourced_fails_iff]

/-! ## Scripts that are refused -/

/-- The host runs no script that is refused before anything is run. -/
def Host.Refuses (h : Host) : Prop :=
  ∀ s f patience, s.refusal? = some f → h.outcome s patience = .escaped f

/-- A script is refused exactly if it is a program without a name or has a null character. -/
theorem refused_iff {s : Script} :
    (∃ f, s.refusal? = some f) ↔
      s = .program [] ∨ (∃ argv, s = .program argv ∧ ∃ word ∈ argv, HasNull word) ∨
        ∃ line, s = .shell line ∧ HasNull line := by
  unfold Script.refusal? HasNull
  cases s with
  | shell line => simp
  | program argv => cases argv <;> simp

/-- **A script that is refused is a source that fails**, on every host that refuses it. -/
theorem faulty_of_refused {g : Generator} {s : Script} {f : ScriptFault}
    (hh : context.host.Refuses) (hp : g.provider = none) (hs : g.script = some s)
    (hf : s.refusal? = some f) : g.Faulty context :=
  ⟨hp, s, hs, .inl ⟨f, hh s f _ hf⟩⟩

end TabCompletion
