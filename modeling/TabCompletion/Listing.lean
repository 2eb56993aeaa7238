import TabCompletion.ByteSize
import TabCompletion.Disk

/-!
# Directory listings

The files and directories in a directory by name, with what is told about each. Listings are
remembered by path together with the time of the directory's last change, and a directory is read
again only if that time differs.

* `Disk.listing` reads a directory; one that is missing or may not be read has no entries.
* `Listings.scan` answers from memory where it can.

This is `PathScanner` with `scan_directory`. Its faults are those of opening the directory and of
asking for its time; asking for the state of an entry passes every fault over. Out of scope: other
programs that change the directory between the two, and times that a device rounds.
-/

namespace TabCompletion

/-- The entries of a directory: names in order, and what is told about each. -/
structure Listing where
  files : List String := []
  directories : List String := []
  details : List (String × String) := []
  deriving DecidableEq, Repr, Inhabited

/-- What is told about an entry; nothing for some. -/
def Listing.detail (l : Listing) (name : String) : String := (l.details.lookup name).getD ""

/-- Whether a fault of opening a directory counts as an empty directory. -/
def FileFault.meansEmpty : FileFault → Bool
  | .notFound | .notDirectory | .denied => true
  | _ => false

namespace Disk

/-- The kind of an entry at a path, if it can be told: `some true` is a directory. A link that leads
nowhere counts as a file, one that cannot be followed is left out. -/
def entryKind? (d : Disk) (base : WorkingDir) (path : String) (n : Node) : Option Bool :=
  match n.entry with
  | .link _ =>
    match d.stat base path with
    | .ok target => some (target.entry = .directory)
    | .error .notFound => some false
    | .error _ => none
  | e => some (e = .directory)

/-- What is told about an entry at a path, if anything. The size of a file can be told only where
its path is short enough. -/
def entryDetail? (d : Disk) (base : WorkingDir) (path : String) (n : Node) : Option String :=
  match n.entry with
  | .directory => some "Directory"
  | .file content => if isShortPath path then ByteSize.text? content.size else none
  | .link _ =>
    match d.stat base path with
    | .ok { entry := .directory, .. } => some "Directory"
    | .ok { entry := .file content, .. } => ByteSize.text? content.size
    | _ => none

/-- The listing of the directory at a path, read now. Links in it are followed from the path on, so
that those on the way to the directory count as well. -/
def listing (d : Disk) (base : WorkingDir) (path : String) : Except FileFault Listing :=
  match d.entries base path with
  | .ok entries =>
    let kind? (e : String × Node) := d.entryKind? base (Path.join path e.1) e.2
    let named (directory : Bool) :=
      ((entries.filter fun e => kind? e = some directory).map (·.1)).mergeSort (· ≤ ·)
    let told := entries.filter fun e => (kind? e).isSome
    .ok {
      files := named false
      directories := named true
      details := told.filterMap fun e =>
        (d.entryDetail? base (Path.join path e.1) e.2).map fun t => (e.1, t) }
  | .error f => if f.meansEmpty then .ok {} else .error f

/-- The time by which a remembered listing is known to hold; zero where it cannot be told. -/
def listingTime (d : Disk) (base : WorkingDir) (path : String) : Except FileFault Int :=
  match d.modified base path with
  | .ok t => .ok t
  | .error .nullInPath => .error .nullInPath
  | .error _ => .ok 0

end Disk

/-- Remembered listings by path, each with its time. -/
abbrev Listings := List (String × Int × Listing)

namespace Listings

/-- Remembers a listing in the place of an earlier one of the path. -/
def remember (known : Listings) (path : String) (time : Int) (l : Listing) : Listings :=
  (path, time, l) :: known.filter (·.1 ≠ path)

/-- The listing of the directory at a path, from memory if its time is the same, and what is
remembered afterwards. -/
def scan (known : Listings) (d : Disk) (base : WorkingDir) (path : String) :
    Except FileFault (Listing × Listings) := do
  let time ← d.listingTime base path
  match known.lookup path with
  | some (t, l) => if t = time then pure (l, known) else fresh time
  | none => fresh time
where
  /-- Reads the directory and remembers it. -/
  fresh (time : Int) : Except FileFault (Listing × Listings) := do
    let l ← d.listing base path
    pure (l, known.remember path time l)

end Listings

end TabCompletion
