import TabCompletion.Path

/-!
# The disk

A tree of directories, files and symbolic links as a map from absolute paths, and what the file
operations of the program do on it. Each operation either answers or says why it fails.

* `WorkingDir` is the directory that relative paths are seen from.
* `Disk.locate` follows a path, link by link, to the place it leads to.
* `Disk.entries` lists a directory, `Disk.read` reads a file, `Disk.modified` is the time of the
  last change. A directory changes when an entry comes or goes.
* `Disk.write`, `Disk.makeDirectory` and the operations of the section on layout change the tree.

These are the calls that `scan_directory`, `load_file`, `load_directory`, `ensure_directories` and
the reading and writing of the configuration make. Which fault opening an entry meets is data of the
disk (`Node.fault`); asking for the state of an entry meets only the faults of the way to it. Out of
scope: owners and permissions beyond that, a directory on the way that may not be searched, faults
of the device while a file is read or written, a disk that is full, hard links, and entries that are
no directory, file or link. Names are texts: one that is no UTF-8 has no place here.
-/

namespace TabCompletion

/-- Why a file operation fails. -/
inductive FileFault where
  | notFound
  | notDirectory
  | isDirectory
  | alreadyExists
  | denied
  | linkLoop
  | nameTooLong
  /-- The path holds a null character, which no path may. -/
  | nullInPath
  deriving DecidableEq, Repr

/-- The content of a file: given bytes, or so many zero bytes. -/
inductive Content where
  | bytes (data : ByteArray)
  | zeros (n : Nat)

namespace Content

instance : DecidableEq Content
  | .bytes a, .bytes b =>
    decidable_of_iff (a.data = b.data) ⟨fun h => by rw [ByteArray.ext h], fun h => by cases h; rfl⟩
  | .zeros m, .zeros n =>
    decidable_of_iff (m = n) ⟨fun h => by rw [h], fun h => by cases h; rfl⟩
  | .bytes _, .zeros _ => isFalse nofun
  | .zeros _, .bytes _ => isFalse nofun

/-- The number of bytes. -/
def size : Content → Nat
  | .bytes data => data.size
  | .zeros n => n

/-- The bytes themselves. -/
def data : Content → ByteArray
  | .bytes data => data
  | .zeros n => ⟨Array.replicate n 0⟩

end Content

/-- What is found at a place of the disk. -/
inductive Entry where
  | directory
  | file (content : Content)
  | link (target : String)
  deriving DecidableEq

/-- An entry, the time of its last change, and the fault that opening it meets, if any. -/
structure Node where
  entry : Entry
  modified : Int
  fault : Option FileFault := none
  deriving DecidableEq

/-- The names on the way from the root to a place. -/
abbrev Place := List String

/-- The directory that relative paths are seen from. -/
structure WorkingDir where
  path : String
  /-- Whether the directory was removed while it was in use; it does not come back, even if another
  one takes its path. -/
  removed : Bool := false
  deriving DecidableEq, Repr

namespace WorkingDir

/-- The place of the directory. -/
def place (w : WorkingDir) : Place := (Path.parts w.path).filter (· ≠ "")

/-- Where the parts of a relative path start. From a directory that was removed there is only the
way to the one above it. -/
def lead (w : WorkingDir) (parts : List String) : Except FileFault (Place × List String) :=
  if w.removed then
    match parts.filter fun p => p ≠ "" && p ≠ "." with
    | ".." :: rest => .ok (w.place.dropLast, rest)
    | _ => .error .notFound
  else .ok (w.place, parts)

/-- The path of the directory, as long as it is there. -/
def currentPath (w : WorkingDir) : Except FileFault String :=
  if w.removed then .error .notFound else .ok w.path

end WorkingDir

/-- The entries of a disk by their places; the root is always a directory. Every change that gives
no time of its own takes the next tick of the clock. -/
structure Disk where
  nodes : List (Place × Node) := []
  clock : Int := 1
  deriving DecidableEq

namespace Disk

/-- The node at a place. -/
def node? (d : Disk) (p : Place) : Option Node :=
  if p = [] then some { entry := .directory, modified := 0 } else d.nodes.lookup p

/-- Names are at most 255 bytes long. -/
def maxNameBytes : Nat := 255

/-- Paths are shorter than 4096 bytes. -/
def maxPathBytes : Nat := 4096

/-- At most 40 links are followed on the way to a place. -/
def maxLinks : Nat := 40

/-- The place that `parts` lead to from `here`, with at most `links` links followed on the way. A
link at the end is followed if `follow` is set. -/
def walk (d : Disk) (follow : Bool) (links : Nat) (here : Place) (parts : List String) :
    Except FileFault Place :=
  match parts with
  | [] => .ok here
  | part :: rest =>
    match d.node? here with
    | none => .error .notFound
    | some n =>
      if n.entry ≠ .directory then .error .notDirectory
      else if part = "" ∨ part = "." then d.walk follow links here rest
      else if part = ".." then d.walk follow links here.dropLast rest
      else if maxNameBytes < part.utf8ByteSize then .error .nameTooLong
      else
        let there := here ++ [part]
        match d.node? there with
        | none => .error .notFound
        | some { entry := .link target, .. } =>
          if rest.isEmpty && !follow then .ok there
          else match links with
            | 0 => .error .linkLoop
            | links + 1 =>
              let start := if Path.isAbsolute target then [] else here
              d.walk follow links start (Path.parts target ++ rest)
        | some _ => d.walk follow links there rest
termination_by (links, parts.length)

/-- Whether a path is short enough to be followed. -/
def isShortPath (path : String) : Bool := path.utf8ByteSize < maxPathBytes

/-- The place that a path starts at and the parts that lead on from it, unless no place can have
that path. -/
def way (base : WorkingDir) (path : String) : Except FileFault (Place × List String) :=
  if path.toList.contains '\x00' then .error .nullInPath
  else if path = "" then .error .notFound
  else if !isShortPath path then .error .nameTooLong
  else if Path.isAbsolute path then .ok ([], Path.parts path)
  else base.lead (Path.parts path)

/-- The place that a path leads to. -/
def locate (d : Disk) (follow : Bool) (base : WorkingDir) (path : String) :
    Except FileFault Place := do
  let (start, parts) ← way base path
  d.walk follow maxLinks start parts

/-- The node that a path leads to. -/
def stat (d : Disk) (base : WorkingDir) (path : String) : Except FileFault Node := do
  let place ← d.locate true base path
  match d.node? place with
  | some n => pure n
  | none => .error .notFound

/-- The faults that mean that a path leads nowhere. -/
def FileFault.meansAbsent : FileFault → Bool
  | .notFound | .notDirectory | .linkLoop | .nullInPath => true
  | _ => false

/-- Whether a path leads to an entry that `p` holds of; a path that leads nowhere does not. -/
def existsWith (d : Disk) (p : Entry → Bool) (base : WorkingDir) (path : String) :
    Except FileFault Bool :=
  match d.stat base path with
  | .ok n => .ok (p n.entry)
  | .error f => if FileFault.meansAbsent f then .ok false else .error f

/-- Whether a path leads to anything. -/
def pathExists (d : Disk) (base : WorkingDir) (path : String) : Except FileFault Bool :=
  d.existsWith (fun _ => true) base path

/-- Whether a path leads to a directory. -/
def isDirectory (d : Disk) (base : WorkingDir) (path : String) : Except FileFault Bool :=
  d.existsWith (· = .directory) base path

/-- The time of the last change at a path. -/
def modified (d : Disk) (base : WorkingDir) (path : String) : Except FileFault Int :=
  (d.stat base path).map (·.modified)

/-- The nodes in the directory at a place, with their names. -/
def children (d : Disk) (p : Place) : List (String × Node) :=
  d.nodes.filterMap fun (place, n) =>
    match place.getLast? with
    | some name => if place = p ++ [name] then some (name, n) else none
    | none => none

/-- The entries of the directory at a path. -/
def entries (d : Disk) (base : WorkingDir) (path : String) :
    Except FileFault (List (String × Node)) := do
  let place ← d.locate true base path
  match d.node? place with
  | some n =>
    if n.entry ≠ .directory then .error .notDirectory
    else match n.fault with
      | some f => .error f
      | none => pure (d.children place)
  | none => .error .notFound

/-- The bytes of the file at a path. -/
def read (d : Disk) (base : WorkingDir) (path : String) : Except FileFault ByteArray := do
  let n ← d.stat base path
  match n.fault, n.entry with
  | some f, _ => .error f
  | none, .file content => pure content.data
  | none, _ => .error .isDirectory

/-! ## Layout -/

/-- The directory that a place lies in, with the time of its last change set to now. -/
def touchParent (d : Disk) (p : Place) : Disk :=
  { d with
    nodes := d.nodes.map fun (q, n) =>
      if q = p.dropLast then (q, { n with modified := d.clock }) else (q, n)
    clock := d.clock + 1 }

/-- Puts an entry at a place, over the one that is there. A new entry changes its directory. -/
def putAt (d : Disk) (p : Place) (e : Entry) : Disk :=
  match d.node? p with
  | some _ =>
    { d with
      nodes := d.nodes.map fun (q, n) =>
        if q = p then (q, { n with entry := e, modified := d.clock }) else (q, n)
      clock := d.clock + 1 }
  | none =>
    let node : Node := { entry := e, modified := d.clock }
    { d with nodes := d.nodes ++ [(p, node)], clock := d.clock + 1 }.touchParent p

/-- Removes what is at a place and below it. -/
def removeAt (d : Disk) (p : Place) : Disk :=
  let d := { d with nodes := d.nodes.filter fun (q, _) => !(p.isPrefixOf q) }
  d.touchParent p

/-- Sets the time of the last change at a place. -/
def setModified (d : Disk) (p : Place) (time : Int) : Disk :=
  { d with nodes := d.nodes.map fun (q, n) =>
      if q = p then (q, { n with modified := time }) else (q, n) }

/-- Makes the directories of a path that are missing, from the root on. -/
def makePath (d : Disk) (p : Place) : Disk :=
  (List.range p.length).foldl (fun d k =>
    let q := p.take (k + 1)
    match d.node? q with
    | some _ => d
    | none => d.putAt q .directory) d

/-! ## Changes by path -/

/-- The place of the entry that the last of `parts` names: its directory must be there. -/
def placeOf (d : Disk) (links : Nat) (start : Place) (parts : List String) :
    Except FileFault Place := do
  match (parts.filter (· ≠ "")).reverse with
  | [] => .error .isDirectory
  | name :: above =>
    let directory ← d.walk true links start above.reverse
    match d.node? directory with
    | some n =>
      if n.entry ≠ .directory then .error .notDirectory
      else if name = "." ∨ name = ".." then .error .alreadyExists
      else if maxNameBytes < name.utf8ByteSize then .error .nameTooLong
      else pure (directory ++ [name])
    | none => .error .notFound

/-- Makes one directory. -/
def makeDirectory (d : Disk) (base : WorkingDir) (path : String) : Except FileFault Disk := do
  let (start, parts) ← way base path
  let place ← d.placeOf maxLinks start parts
  match d.node? place with
  | some _ => .error .alreadyExists
  | none => pure (d.putAt place .directory)

/-- The place at which a file is written: what links lead to, even if it is not there yet. -/
def writePlace (d : Disk) (links : Nat) (place : Place) : Except FileFault Place :=
  match d.node? place with
  | none => .ok place
  | some n =>
    match n.fault, n.entry, links with
    | some f, _, _ => .error f
    | none, .directory, _ => .error .isDirectory
    | none, .file _, _ => .ok place
    | none, .link _, 0 => .error .linkLoop
    | none, .link target, links + 1 => do
      let start := if Path.isAbsolute target then [] else place.dropLast
      d.writePlace links (← d.placeOf links start (Path.parts target))

/-- Writes a file with the given content. -/
def write (d : Disk) (base : WorkingDir) (path : String) (content : ByteArray) :
    Except FileFault Disk := do
  let (start, parts) ← way base path
  let place ← d.writePlace maxLinks (← d.placeOf maxLinks start parts)
  pure (d.putAt place (.file (.bytes content)))

/-- Makes an empty file where there is none. -/
def create (d : Disk) (base : WorkingDir) (path : String) : Except FileFault Disk := do
  let (start, parts) ← way base path
  let place ← d.writePlace maxLinks (← d.placeOf maxLinks start parts)
  match d.node? place with
  | some _ => pure d
  | none => pure (d.putAt place (.file (.bytes .empty)))

end Disk

end TabCompletion
