import TabCompletion.Filter
import TabCompletion.Query

/-!
# Files and folders

The path values of an argument. The typed text is split after its last slash: the part before is
the directory to list and stays as it was typed, the part after filters the entries. Folders come
first and end in a slash; files follow if the argument takes them. Entries that start with a dot
are offered if the typed name does too or the settings show them.

This is `template_recommendations`, with `split_partial_path` and the directory that it lists.
-/

namespace TabCompletion

/-- The typed text as the directory part, up to its last slash, and the rest. -/
def splitPath (typed : Option String) : String × String :=
  let cs := (typed.getD "").toList
  let base := (cs.reverse.takeWhile (· ≠ '/')).reverse
  (String.ofList (cs.take (cs.length - base.length)), String.ofList base)

/-- The directory that a directory part names: itself seen from `base`, or `base` if nothing is
named. -/
def Host.targetDirectory (h : Host) (base directoryPart : String) : Except Fault String :=
  if directoryPart = "" then .ok base else (h.expandHome directoryPart).map (Path.join base)

/-- Whether an entry may be offered for a typed name. -/
def Settings.shows (c : Settings) (s : Strategy) (base name : String) : Bool :=
  (c.showHidden.truthy || startsWith base "." || !(startsWith name ".")) &&
    c.admits s (some base) name

/-- The candidates of a listing: its folders, and its files if `withFiles` is set. -/
def Listing.candidates (l : Listing) (c : Settings) (s : Strategy) (withFiles : Bool)
    (directoryPart base : String) : List Candidate :=
  let folders := (l.directories.filter (c.shows s base)).map fun name =>
    { name := directoryPart ++ name ++ "/", kind := .folder,
      description := .text (l.detail name) }
  let files := (l.files.filter (c.shows s base)).map fun name =>
    { name := directoryPart ++ name, kind := .file, description := .text (l.detail name) }
  if withFiles then folders ++ files else folders

/-- The directory that paths are seen from: the given one, unless it is empty, else the working
directory of the host, which must be there. -/
def Host.directoryOr (h : Host) (given : Option String) : Except Fault String :=
  match given with
  | none | some "" => h.workingDir.currentPath.mapError .file
  | some directory => .ok directory

/-- The path values of an argument, seen from the given directory or the working directory. -/
def Arg.pathsFrom (a : Arg) (directory : Option String) (typed : Option String) (s : Strategy) :
    Query (List Candidate) := do
  if a.templates.isEmpty then pure []
  else do
    let context ← read
    let (directoryPart, base) := splitPath typed
    let start ← context.host.directoryOr directory
    let l ← Query.scan (← context.host.targetDirectory start directoryPart)
    pure (l.candidates context.settings s (a.templates.contains .filepaths) directoryPart base)

/-- The path values of an argument. -/
def Arg.paths (a : Arg) (typed : Option String) (s : Strategy) : Query (List Candidate) :=
  a.pathsFrom none typed s

end TabCompletion
