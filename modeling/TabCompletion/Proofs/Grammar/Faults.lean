import TabCompletion.Proofs.Grammar.Reading
import TabCompletion.Registry.Files

/-!
# The faults of a value

A value may be no grammar for several reasons at once. `Command.faults` lists them all in reading
order: the parts of a node in the order of its fields, lists from the left, everything inside an
element before the next one. Reading stops at the first of them, so that is the fault that is
reported, and a value without faults is a grammar.

A fault is either that of a grammar, with the source before its message, or one that escapes: that
of a timeout which is no number, or of a whole number with too many digits where a text is wanted.

Results:
* `firstFault_bind`, `firstFault_mapM`: the first fault of a sequence and of a list.
* `Arg.firstFault_ofJson`, `Opt.firstFault_ofJson`: the first fault of an argument and of an option.
* **`Command.firstFault_ofJson`**: the first fault of a command is the one that is reported.
* **`disciplined_iff`**: loading ends in a grammar or a fault of the grammar, unless a fault that
  escapes comes first.
* `timeout_not_disciplined`: the fault of a timeout can come first.
-/

namespace TabCompletion

/-! ## First faults -/

section First

variable {α β : Type}

/-- The fault of a result, if it is one. -/
def firstFault? : Except LoadFault α → Option LoadFault
  | .ok _ => none
  | .error f => some f

/-- The fault of a part that is read at once, as a list. -/
def faultsOf (r : Except LoadFault α) : List LoadFault := (firstFault? r).toList

theorem head_faultsOf (r : Except LoadFault α) : (faultsOf r).head? = firstFault? r :=
  Option.head?_toList

/-- The first fault of a sequence is that of its first part, or else that of the next part. -/
theorem firstFault_bind {x : Except LoadFault α} {next : α → Except LoadFault β}
    {fs gs : List LoadFault} (hx : firstFault? x = fs.head?)
    (hnext : ∀ a, x = .ok a → firstFault? (next a) = gs.head?) :
    firstFault? (x >>= next) = (fs ++ gs).head? := by
  rw [List.head?_append, ← hx]
  cases x with
  | error f => rfl
  | ok a => exact hnext a rfl

/-- The first fault of a list is the first of the faults of its elements. -/
theorem firstFault_mapM {read : Json → Except LoadFault α} {faults : Json → List LoadFault}
    {vs : List Json} (h : ∀ v ∈ vs, firstFault? (read v) = (faults v).head?) :
    firstFault? (vs.mapM read) = (vs.flatMap faults).head? := by
  induction vs with
  | nil => rfl
  | cons v vs ih =>
    obtain ⟨hv, hvs⟩ := List.forall_mem_cons.mp h
    rw [List.mapM_cons, List.flatMap_cons]
    refine firstFault_bind hv fun a _ => ?_
    rw [← ih hvs]
    cases vs.mapM read <;> rfl

end First

/-! ## All faults -/

/-- The fault of a timeout, which may be missing. -/
def timeoutFaults : Json → List LoadFault
  | .null => []
  | v => faultsOf (loadTimeout v)

/-- The faults of a generator. -/
def Generator.faults : Json → List LoadFault
  | .null => []
  | .object m =>
    faultsOf (loadScript (Members.getOrNull m "script")) ++
      timeoutFaults (Members.getOrNull m "timeout")
  | _ => [.spec .generatorNotObject]

/-- The faults of the templates of an argument. -/
def templatesFaults (m : Members) : List LoadFault :=
  ((m.get? "template").getD (m.getOrNull "templates")).elements.flatMap fun v =>
    faultsOf (loadTemplate v)

/-- The faults of an argument. -/
def Arg.faults : Json → List LoadFault
  | .object m =>
    faultsOf (loadText ((Members.get? m "name").getD (.text ""))) ++
      ((Members.getOrNull m "suggestions").elements.flatMap
          (fun v => faultsOf (loadStaticValues v)) ++
        (Generator.faults (Members.getOrNull m "generator") ++
          (templatesFaults m ++ faultsOf (loadStrategyOf m))))
  | _ => [.spec (.notObject .arg)]

/-- The command arguments that are not the last of their list; `position` is the place of the
first element. -/
def misplacedFaults (position : Nat) : List Json → List LoadFault
  | .object m :: w :: rest =>
    if Members.flag m "is_command" "isCommand" then
      .spec (.commandNotLast ((Members.get? m "name").getD (.text "")).plainText position) ::
        misplacedFaults (position + 1) (w :: rest)
    else misplacedFaults (position + 1) (w :: rest)
  | _ :: w :: rest => misplacedFaults (position + 1) (w :: rest)
  | _ => []

/-- The faults of the arguments of a node: those of each, and then those of their order. -/
def argsFaults (m : Members) : List LoadFault :=
  (m.getOrNull "args").elements.flatMap Arg.faults ++
    misplacedFaults 0 (m.getOrNull "args").elements

/-- The faults of an option. -/
def Opt.faults : Json → List LoadFault
  | .object m => faultsOf (loadNames .option m) ++ argsFaults m
  | _ => [.spec (.notObject .option)]

/-- The faults of a command and of everything below it. -/
def Command.faults : Json → List LoadFault
  | .object m =>
    faultsOf (loadNames .subcommand m) ++
      ((Members.getOrNull m "subcommands").elements.attach.flatMap (fun ⟨v, _⟩ => faults v) ++
        ((Members.getOrNull m "options").elements.flatMap Opt.faults ++
          (argsFaults m ++ faultsOf (loadStrategyOf m))))
  | _ => [.spec (.notObject .subcommand)]
termination_by v => sizeOf v
decreasing_by exact sizeOf_of_mem_elements ‹_›

theorem Command.faults_object (m : Members) :
    Command.faults (.object m) =
      faultsOf (loadNames .subcommand m) ++
        ((m.getOrNull "subcommands").elements.flatMap Command.faults ++
          ((m.getOrNull "options").elements.flatMap Opt.faults ++
            (argsFaults m ++ faultsOf (loadStrategyOf m)))) := by
  rw [Command.faults]
  simp

/-! ## The fault that is reported -/

theorem Generator.firstFault_load (v : Json) :
    firstFault? (loadGenerator v) = (Generator.faults v).head? := by
  cases v with
  | object m =>
    refine firstFault_bind (head_faultsOf _).symm fun script _ => ?_
    cases Members.getOrNull m "timeout" with
    | null => rfl
    | bool | int | real | text | list | object =>
      rw [timeoutFaults, head_faultsOf]
      · dsimp only
        cases loadTimeout _ <;> rfl
      · nofun
  | null | bool | int | real | text | list => rfl

theorem Arg.firstFault_ofJson (v : Json) :
    firstFault? (Arg.ofJson v) = (Arg.faults v).head? := by
  cases v with
  | object m =>
    refine firstFault_bind (head_faultsOf _).symm fun name _ => ?_
    refine firstFault_bind (firstFault_mapM fun w _ => (head_faultsOf _).symm) fun values _ => ?_
    refine firstFault_bind (Generator.firstFault_load _) fun generator _ => ?_
    refine firstFault_bind (firstFault_mapM fun w _ => (head_faultsOf _).symm) fun templates _ => ?_
    rw [head_faultsOf]
    cases loadStrategyOf m <;> rfl
  | null | bool | int | real | text | list => rfl

/-- Among arguments that are read, the first command argument that is not the last is the first
such element. -/
theorem firstFault_misplaced {vs : List Json} {args : List Arg} {position : Nat}
    (h : List.Forall₂ (fun v a => Arg.ofJson v = .ok a) vs args) :
    (misplacedFaults position vs).head? =
      (misplacedCommand? position args).map fun (a, p) => .spec (.commandNotLast a.name p) := by
  induction h generalizing position with
  | nil => rfl
  | @cons v a vs args hva hrest ih =>
    cases v with
    | object m =>
      obtain ⟨-, -, -, -, -, hname, -, -, -, hcommand, -⟩ := Arg.ofJson_object_eq_ok_iff.mp hva
      cases hrest with
      | nil => rfl
      | cons hwb hmore =>
        unfold misplacedFaults misplacedCommand?
        rw [hcommand]
        cases Members.flag m "is_command" "isCommand" with
        | true => simp [(loadText_eq_ok_iff.mp hname).2]
        | false => exact ih
    | null | bool | int | real | text | list => cases hva

theorem firstFault_loadArgs (m : Members) :
    firstFault? (loadArgs m) = (argsFaults m).head? := by
  refine firstFault_bind (firstFault_mapM fun v _ => Arg.firstFault_ofJson v) fun args hargs => ?_
  rw [firstFault_misplaced (mapM_eq_ok_iff.mp hargs)]
  cases misplacedCommand? 0 args <;> rfl

theorem Opt.firstFault_ofJson (v : Json) :
    firstFault? (Opt.ofJson v) = (Opt.faults v).head? := by
  cases v with
  | object m =>
    refine firstFault_bind (head_faultsOf _).symm fun names _ => ?_
    rw [← firstFault_loadArgs]
    cases loadArgs m <;> rfl
  | null | bool | int | real | text | list => rfl

/-- **The first fault of a command is the one that is reported.** -/
theorem Command.firstFault_ofJson (v : Json) :
    firstFault? (Command.ofJson v) = (Command.faults v).head? := by
  induction v using Json.below_induction with
  | other v hv =>
    cases v with
    | object m => exact absurd rfl (hv m)
    | null | bool | int | real | text | list => simp [Command.ofJson, Command.faults, firstFault?]
  | object m ih =>
    rw [ofJson_object, Command.faults_object]
    refine firstFault_bind (head_faultsOf _).symm fun names _ => ?_
    refine firstFault_bind (firstFault_mapM ih) fun children _ => ?_
    refine firstFault_bind (firstFault_mapM fun w _ => Opt.firstFault_ofJson w) fun options _ => ?_
    refine firstFault_bind (firstFault_loadArgs m) fun args _ => ?_
    rw [head_faultsOf]
    cases loadStrategyOf m <;> rfl

/-! ## Loading -/

/-- The fault is none of the grammar: it is that of a timeout, or of a whole number with too many
digits. -/
def LoadFault.escapes : LoadFault → Bool
  | .spec _ => false
  | .timeoutText _ | .timeoutType _ | .timeoutRange | .longInteger => true

/-- Loading ends in a grammar, or else in a fault of the grammar that carries the source. If there
is a source, it stands once before the message. -/
def Disciplined (source : String) (v : Json) : Prop :=
  (∃ c, Command.load source v = .ok c) ∨
  ∃ f : SpecFault, Command.load source v = .error (.load (.spec f) source) ∧
    (Fault.load (.spec f) source).message =
      if source = "" then f.message else source ++ ": " ++ f.message

theorem message_spec (source : String) (f : SpecFault) :
    (Fault.load (.spec f) source).message =
      if source = "" then f.message else source ++ ": " ++ f.message := by
  show (if source = "" then "" else source ++ ": ") ++ f.message = _
  split
  · exact String.empty_append
  · rfl

/-- Loading reports the first of all faults, with the source. -/
theorem load_eq_error_iff {source : String} {v : Json} {f : Fault} :
    Command.load source v = .error f ↔
      ∃ g, (Command.faults v).head? = some g ∧ f = .load g source := by
  rw [← Command.firstFault_ofJson]
  unfold Command.load
  cases Command.ofJson v with
  | ok c => simp [firstFault?, Except.mapError]
  | error g => simp [firstFault?, Except.mapError, eq_comm]

/-- **Loading keeps its discipline unless a fault that escapes comes first.** A value without faults
is a grammar, and otherwise the first of its faults is reported with the source. So loading ends in
a grammar or a fault of the grammar, with the source once before its message, except where the first
fault is a timeout that is no number or a whole number that cannot be written out. -/
theorem disciplined_iff (source : String) (v : Json) :
    ((∃ c, Command.load source v = .ok c) ↔ Command.faults v = []) ∧
    (∀ f, Command.load source v = .error f ↔
      ∃ g, (Command.faults v).head? = some g ∧ f = .load g source) ∧
    (Disciplined source v ↔
      ∀ g, (Command.faults v).head? = some g → g.escapes = false) := by
  have hfirst := Command.firstFault_ofJson v
  refine ⟨?_, fun f => load_eq_error_iff, ?_⟩
  · unfold Command.load
    cases hread : Command.ofJson v with
    | ok c =>
      rw [hread] at hfirst
      exact ⟨fun _ => List.head?_eq_none_iff.mp hfirst.symm, fun _ => ⟨c, rfl⟩⟩
    | error f =>
      rw [hread] at hfirst
      refine ⟨nofun, fun hnone => ?_⟩
      rw [hnone] at hfirst
      cases hfirst
  · constructor
    · rintro (⟨c, hc⟩ | ⟨f, hf, -⟩) g hg
      · rw [load_eq_error_iff.mpr ⟨g, hg, rfl⟩] at hc
        cases hc
      · rw [load_eq_error_iff.mpr ⟨g, hg, rfl⟩] at hf
        cases hf
        rfl
    · intro hspec
      cases hload : Command.load source v with
      | ok c => exact .inl ⟨c, hload⟩
      | error f =>
        obtain ⟨g, hg, rfl⟩ := load_eq_error_iff.mp hload
        cases g with
        | spec g => exact .inr ⟨g, hload, message_spec source g⟩
        | timeoutText | timeoutType | timeoutRange | longInteger => cases hspec _ hg

/-- **A timeout that is no number can come first.** Loading then ends in another fault than that of
the grammar. -/
theorem timeout_not_disciplined :
    let generator : Json := .object [("script", .text "ls"), ("timeout", .text "soon")]
    let data : Json := .object [("name", .text "sync"),
      ("args", .object [("name", .text "host"), ("generator", generator)])]
    Command.load "sync.json" data = .error (.load (.timeoutText "soon") "sync.json") ∧
      ¬ Disciplined "sync.json" data := by
  intro generator data
  have h : Command.load "sync.json" data = .error (.load (.timeoutText "soon") "sync.json") := by
    rfl
  refine ⟨h, ?_⟩
  rintro (⟨c, hc⟩ | ⟨f, hf, -⟩)
  · rw [h] at hc
    cases hc
  · rw [h] at hf
    cases hf

end TabCompletion
