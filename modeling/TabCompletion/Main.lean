import TabCompletion.Program

/-!
# The command line

Runs the program on the machine. The directories that a run may look at are read before it, and
what it adds to the disk is written after it. Scripts are not run and no processes are listed, so
generators offer nothing here.
-/

namespace TabCompletion.Terminal

/-! ## The disk -/

/-- The place of an absolute path. -/
def placeOf (path : String) : Place := (Path.parts (Path.normalize path)).filter (· ≠ "")

/-- Adds the directory at an absolute path with its entries to a disk; the bytes of the files are
read if they are grammars or settings. A directory that cannot be read is left out, and so is an
entry of which nothing can be told. -/
def addDirectory (d : Disk) (path : String) : IO Disk := do
  try
    let directory ← IO.FS.realPath path
    let place := placeOf path
    let mut d := d.makePath place
    for e in ← directory.readDir do
      try
        let told ← e.path.metadata
        let entry ← match told.type with
          | .dir => pure Entry.directory
          | _ =>
            if e.fileName.endsWith ".json" then
              pure (.file (.bytes (← IO.FS.readBinFile e.path)))
            else pure (.file (.zeros told.byteSize.toNat))
        d := d.putAt (place ++ [e.fileName]) entry
      catch _ => pure ()
    let time := (← directory.metadata).modified
    pure (d.setModified place (time.sec * 1000000000 + time.nsec.toNat))
  catch _ => pure d

/-- Adds directories, each seen from the working directory, to the disk of a host. -/
def lookAt (h : Host) (directories : List String) : IO Host := do
  let disk ← directories.foldlM (fun d p => addDirectory d (Path.join h.workingDir.path p)) h.disk
  pure { h with disk }

/-- The directories that the offer for a line may list. -/
def directoriesFor (h : Host) (line : String) : List String :=
  let typed := (tokens line).getLast?.map (·.text)
  match h.targetDirectory h.workingDir.path (splitPath typed).1 with
  | .ok directory => [h.workingDir.path, directory]
  | .error _ => [h.workingDir.path]

/-- Writes to the machine what a run has added to the disk. -/
def writeBack (before after : Disk) : IO Unit := do
  for (place, n) in after.nodes do
    if (before.node? place).isNone then
      let path := "/" ++ "/".intercalate place
      match n.entry with
      | .directory => IO.FS.createDirAll path
      | .file content => IO.FS.writeBinFile path content.data
      | .link _ => pure ()

/-! ## Sessions -/

/-- The text before a line that is typed. -/
def promptText (s : Session) : String :=
  let below := match s.toolbar with
    | some hint => hint ++ "\n"
    | none => ""
  below ++ s.settings.promptSymbol.plainText ++ " "

/-- Reports a fault and gives the code to end with. -/
def report (f : Fault) : IO UInt32 := do
  IO.eprintln f.message
  pure 1

/-- Takes lines until the session ends. -/
partial def converse (s : Session) : IO UInt32 := do
  IO.print (promptText s)
  (← IO.getStdout).flush
  let line ← (← IO.getStdin).getLine
  if line = "" then
    IO.print (farewell s.screen)
    pure 0
  else
    let line := if line.endsWith "\n" then String.ofList line.toList.dropLast else line
    let host ← lookAt { s.host with disk := {} } (directoriesFor s.host line)
    match { s with host }.enter line with
    | .error f => report f
    | .ok (text, next) =>
      IO.print text
      match next with
      | some next => converse next
      | none => pure 0

/-! ## A run -/

/-- The home directories of the users of the machine. -/
def userHomes : IO (List (String × String)) := do
  try
    let users ← IO.FS.lines "/etc/passwd"
    pure (users.toList.filterMap fun user =>
      match Text.splitOn ":" user with
      | name :: _ :: _ :: _ :: _ :: home :: _ => some (name, home)
      | _ => none)
  catch _ => pure []

/-- The line that the arguments ask about, if any. -/
def queryOf (arguments : List String) : Option String :=
  match Arguments.parse arguments with
  | .ok (.run { query := some (.line text), .. }) => some text
  | _ => none

/-- Runs the program on a host for its arguments. -/
def runWith (host : Host) (paths : ConfigPaths) (screen : Nat) (arguments : List String) :
    IO UInt32 := do
  let host ← lookAt host [paths.directory]
  let (settings, _) := Settings.defaults.readFrom host paths.file
  let directories := match settings.specDirs host paths with
    | .ok directories => directories
    | .error _ => []
  let wanted := directories ++ directoriesFor host ((queryOf arguments).getD "")
  let host ← lookAt host wanted
  match Program.start Settings.defaults arguments host paths screen with
  | .error f => report f
  | .ok (.ended output errors code h) =>
    writeBack host.disk h.disk
    IO.print output
    IO.eprint errors
    pure code.toUInt32
  | .ok (.session output s) =>
    writeBack host.disk s.host.disk
    IO.print output
    converse s

/-- Runs the program for its arguments. -/
def run (arguments : List String) : IO UInt32 := do
  let columns := (← IO.getEnv "COLUMNS").bind String.toNat?
  let host : Host := {
    home := (← IO.getEnv "HOME").getD "/"
    homes := ← userHomes
    workingDir := { path := (← IO.currentDir).toString }
    logLevel := ← IO.getEnv "TERMSPEC_LOG_LEVEL" }
  match ConfigPaths.defaultDirectory host (← IO.getEnv "TERMSPEC_CONFIG_DIR") with
  | .error f => report f
  | .ok directory => runWith host (ConfigPaths.within directory) (columns.getD 80) arguments

end TabCompletion.Terminal

/-- Runs the program for the arguments that it is called with. -/
def main (arguments : List String) : IO UInt32 := TabCompletion.Terminal.run arguments
