import TabCompletion.Json.Parser
import TabCompletion.Registry.Basic

/-!
# Grammar files

A grammar file holds one grammar or a list of them as JSON. It is registered as a whole or not at
all: a file that cannot be read, is no JSON, or holds an invalid grammar is passed over with a
note. A directory is read file by file in the order of names.

* `readGrammars` is what a file holds, without any registry.
* `Registry.loadFile` registers that; `loadFile_registry` says that it is all or nothing.

These are `load_file` and `load_directory`. Faults that they do not catch end the loading: a file
that is no UTF-8 text, a number with too many digits, a timeout that is no number. Out of scope: how
far the values of a file may be nested.
-/

namespace TabCompletion

/-- The grammar of a value that comes from a source. -/
def Command.load (source : String) (v : Json) : Except Fault Command :=
  (Command.ofJson v).mapError (.load · source)

/-- What a grammar file comes to. -/
inductive GrammarFile where
  | grammars (cs : List Command)
  | skipped (n : Note)
  | fault (f : Fault)

/-- The grammars that a value holds: those of its elements if it is a list, else its own. -/
def grammarsOf (source : String) (v : Json) : GrammarFile :=
  let items := match v with
    | .list items => items
    | v => [v]
  match items.mapM Command.ofJson with
  | .ok cs => .grammars cs
  | .error (.spec f) => .skipped (.skippedSpec (LoadFault.message source (.spec f)))
  | .error f => .fault (.load f source)

/-- What the file at a path holds. -/
def Host.readGrammars (h : Host) (path : String) : GrammarFile :=
  match h.disk.read h.workingDir (Path.normalize path) with
  | .error .nullInPath => .fault (.file .nullInPath)
  | .error _ => .skipped (.skippedFile path)
  | .ok bytes =>
    match String.fromUTF8? bytes with
    | none => .fault .notText
    | some text =>
      match Json.parse text with
      | .error .malformed => .skipped (.skippedFile path)
      | .error (.longInteger digits) => .fault (.longInteger digits)
      | .ok v => grammarsOf path v

/-- A registry after files were read, the notes on the way, and how many grammars came in. -/
structure Loaded where
  registry : Registry
  notes : List Note := []
  result : Except Fault Nat

namespace Registry

/-- Registers what a file holds. -/
def loadFile (reg : Registry) (h : Host) (path : String) : Loaded :=
  match h.readGrammars path with
  | .grammars cs => { registry := reg.registerAll cs, result := .ok cs.length }
  | .skipped n => { registry := reg, notes := [n], result := .ok 0 }
  | .fault f => { registry := reg, result := .error f }

theorem loadFile_registry (reg : Registry) (h : Host) (path : String) :
    (reg.loadFile h path).registry = reg ∨
      ∃ cs, h.readGrammars path = .grammars cs ∧
        reg.loadFile h path = { registry := reg.registerAll cs, result := .ok cs.length } := by
  unfold loadFile
  cases hf : h.readGrammars path with
  | grammars cs => exact .inr ⟨cs, rfl, rfl⟩
  | skipped n => exact .inl rfl
  | fault f => exact .inl rfl

/-- Registers what files hold, one after the other, up to a fault. -/
def loadFiles (reg : Registry) (h : Host) : List String → Loaded
  | [] => { registry := reg, result := .ok 0 }
  | path :: rest =>
    let first := reg.loadFile h path
    match first.result with
    | .error _ => first
    | .ok n =>
      let others := first.registry.loadFiles h rest
      { others with
        notes := first.notes ++ others.notes
        result := others.result.map (n + ·) }

/-- The paths of the grammar files in a directory, in order. -/
def grammarPaths (h : Host) (directory : String) : Except Fault (List String) := do
  let directory := Path.normalize directory
  match h.disk.isDirectory h.workingDir directory with
  | .error f => .error (.file f)
  | .ok false => .ok []
  | .ok true =>
    match h.disk.entries h.workingDir directory with
    | .error .denied => .ok []
    | .error f => .error (.file f)
    | .ok entries =>
      let names := (entries.map (·.1)).filter (·.endsWith ".json")
      .ok ((names.mergeSort (· ≤ ·)).map fun name =>
        if directory = "." then name else Path.join directory name)

/-- Registers what the grammar files of a directory hold; a directory that is not there has
none. -/
def loadDirectory (reg : Registry) (h : Host) (directory : String) : Loaded :=
  match grammarPaths h directory with
  | .ok paths => reg.loadFiles h paths
  | .error f => { registry := reg, result := .error f }

/-- Registers what the grammar files of some directories hold, up to a fault. -/
def loadDirectories (reg : Registry) (h : Host) : List String → Loaded
  | [] => { registry := reg, result := .ok 0 }
  | directory :: rest =>
    let first := reg.loadDirectory h directory
    match first.result with
    | .error _ => first
    | .ok n =>
      let others := first.registry.loadDirectories h rest
      { others with
        notes := first.notes ++ others.notes
        result := others.result.map (n + ·) }

end Registry

end TabCompletion
