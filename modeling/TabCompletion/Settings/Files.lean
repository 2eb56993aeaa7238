import TabCompletion.Json.Parser
import TabCompletion.Query
import TabCompletion.Settings.Data

/-!
# The configuration directory

Where the configuration lies, how it is read from the disk and how it is laid out there. A
configuration that is missing, cannot be read or is no object of JSON leaves the settings alone.

* `Settings.readFrom` reads the configuration file (`_load_json_config`).
* `ConfigPaths.ensure` makes the directories and writes the file if there is none
  (`ensure_directories`, `Settings.writeTo` for `_write_default_json_config`).
* `Settings.reload` does both (`reload`).

Out of scope: a text of the settings with half of a surrogate pair. No `String` has one, and an
escape that stands for one is read as the replacement character (`Json.Parser.unicodeEscape?`).
Writing such a text would fail with a fault that is none of the files, after the file was emptied.
So here writing fails in the ways of `Disk.write` alone, which change nothing; a fault of the device
half way through a file is left out there as well.
-/

namespace TabCompletion

/-- The path of an entry in a directory. -/
def Path.child (directory name : String) : String :=
  let directory := Path.normalize directory
  if directory = "." then name else Path.join directory name

/-- The paths of the configuration. -/
structure ConfigPaths where
  directory : String
  file : String
  logFile : String
  specs : String
  deriving DecidableEq, Repr

namespace ConfigPaths

/-- The paths in a configuration directory. -/
def within (directory : String) : ConfigPaths where
  directory := Path.normalize directory
  file := Path.child directory "config.json"
  logFile := Path.child directory "termspec.log"
  specs := Path.child directory "specs"

/-- The configuration directory that holds without a choice: the one the environment names, else
one in the home directory. -/
def defaultDirectory (h : Host) (environment : Option String) : Except Fault String :=
  match environment with
  | none | some "" => .ok (Path.child h.home ".termspec")
  | some directory => (h.expandHome directory).map Path.normalize

end ConfigPaths

/-- The directories of grammars: that of the configuration and the extra ones. -/
def Settings.specDirs (c : Settings) (h : Host) (paths : ConfigPaths) :
    Except Fault (List String) := do
  let extra ← c.extraSpecDirs.parts.mapError .misuse
  let extra ← extra.mapM fun d => (h.expandHome d.plainText).map Path.normalize
  pure (paths.specs :: extra)

/-! ## Reading -/

/-- The settings after the configuration file at a path was read, and whether it was accepted. -/
def Settings.readFrom (c : Settings) (h : Host) (path : String) : Settings × Except Fault Bool :=
  match h.disk.pathExists h.workingDir path with
  | .error f => (c, .error (.file f))
  | .ok false => (c, .ok false)
  | .ok true =>
    match h.disk.read h.workingDir path with
    | .error _ => (c, .ok false)
    | .ok bytes =>
      match String.fromUTF8? bytes with
      | none => (c, .error .notText)
      | some text =>
        match Json.parse text with
        | .error .malformed => (c, .ok false)
        | .error (.longInteger digits) => (c, .error (.longInteger digits))
        | .ok (.object m) =>
          match c.takeOver m with
          | (c, none) => (c, .ok true)
          | (c, some f) => (c, .error f)
        | .ok _ => (c, .ok false)

/-! ## Laying out -/

namespace Disk

/-- Makes the directory that `parts`, the last one first, lead to from `root`, and those above it;
one that is there is kept. What was made before a fault stays. -/
def makeDirectories (d : Disk) (base : WorkingDir) (root : String) :
    List String → Disk × Option FileFault
  | [] => (d, some .notFound)
  | name :: above =>
    let path := root ++ "/".intercalate (name :: above).reverse
    let keep (d : Disk) (f : FileFault) : Disk × Option FileFault :=
      match d.isDirectory base path with
      | .ok true => (d, none)
      | _ => (d, some f)
    match d.makeDirectory base path with
    | .ok d => (d, none)
    | .error .notFound =>
      match d.makeDirectories base root above with
      | (d, some f) => (d, some f)
      | (d, none) =>
        match d.makeDirectory base path with
        | .ok d => (d, none)
        | .error f => keep d f
    | .error .nullInPath => (d, some .nullInPath)
    | .error f => keep d f

/-- Makes the directory at a path and those above it. -/
def makeDirectoriesAt (d : Disk) (base : WorkingDir) (path : String) :
    Disk × Option FileFault :=
  let root := if Path.isAbsolute path then "/" else ""
  d.makeDirectories base root ((Path.parts path).filter (· ≠ "")).reverse

end Disk

/-- Writes the configuration of some settings; where that fails, nothing is written. -/
def Settings.writeTo (c : Settings) (h : Host) (path : String) : Host :=
  match h.disk.write h.workingDir path c.toJson.pretty.toUTF8 with
  | .ok disk => { h with disk }
  | .error _ => h

/-- Lays out the configuration: its directory, the directory of grammars, and the file if there is
none. What was done before a fault stays. -/
def ConfigPaths.ensure (paths : ConfigPaths) (c : Settings) (h : Host) : Host × Option Fault :=
  match h.disk.makeDirectoriesAt h.workingDir paths.directory with
  | (disk, some f) => ({ h with disk }, some (.file f))
  | (disk, none) =>
    let h := { h with disk }
    let specs : Except FileFault Disk :=
      match h.disk.makeDirectory h.workingDir paths.specs with
      | .ok disk => .ok disk
      | .error f =>
        match h.disk.isDirectory h.workingDir paths.specs with
        | .ok true => .ok h.disk
        | _ => .error f
    match specs with
    | .error f => (h, some (.file f))
    | .ok disk =>
      let h := { h with disk }
      match h.disk.pathExists h.workingDir paths.file with
      | .error f => (h, some (.file f))
      | .ok true => (h, none)
      | .ok false => (c.writeTo h paths.file, none)

/-- Whether a fault is one of the host's files. -/
def Fault.isFileFault : Fault → Bool
  | .file .nullInPath => false
  | .file _ => true
  | _ => false

/-- Lays out the configuration and reads it again. A fault of the files counts as a configuration
that was not accepted. -/
def Settings.reload (c : Settings) (h : Host) (paths : ConfigPaths) :
    Settings × Host × Except Fault Bool :=
  let accepted (r : Except Fault Bool) : Except Fault Bool :=
    match r with
    | .error f => if f.isFileFault then .ok false else .error f
    | r => r
  match paths.ensure c h with
  | (h, some f) => (c, h, accepted (.error f))
  | (h, none) =>
    let (c, r) := c.readFrom h paths.file
    (c, h, accepted r)

end TabCompletion
