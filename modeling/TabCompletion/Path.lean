import TabCompletion.Text.Lines

/-!
# Paths

Paths as they are typed and configured: texts whose parts stand between slashes. Nothing here
looks at a disk.
-/

namespace TabCompletion.Path

/-- The parts of a path between its slashes, empty ones included. -/
def parts (path : String) : List String := Text.splitOn "/" path

/-- Whether a path starts at the root. -/
def isAbsolute (path : String) : Bool := path.toList.head? = some '/'

/-- `path` seen from `base`: itself if it starts at the root, else appended after a slash. -/
def join (base path : String) : String :=
  if isAbsolute path then path
  else if base = "" || base.toList.getLast? = some '/' then base ++ path
  else base ++ "/" ++ path

/-- The name of the user whose home a path starts at: what stands after `~` in its first part. It
is empty for the user at work. -/
def homeOwner? (path : String) : Option String :=
  match path.toList with
  | '~' :: rest => some (String.ofList (rest.takeWhile (· ≠ '/')))
  | _ => none

/-- A path with a home directory in the place of its first part. -/
def withHome (home path : String) : String :=
  let bare := home.toList.reverse.dropWhile (· = '/') |>.reverse
  let expanded := String.ofList (bare ++ path.toList.dropWhile (· ≠ '/'))
  if expanded = "" then "/" else expanded

/-- A path in its plain form: no empty parts, none that is a single dot, no slash at the end, and
a dot for the empty path. Exactly two slashes at the front are kept. -/
def normalize (path : String) : String :=
  let kept := (parts path).filter fun p => p ≠ "" && p ≠ "."
  let root := match path.toList with
    | '/' :: '/' :: '/' :: _ => "/"
    | '/' :: '/' :: _ => "//"
    | '/' :: _ => "/"
    | _ => ""
  let whole := root ++ "/".intercalate kept
  if whole = "" then "." else whole

end TabCompletion.Path
