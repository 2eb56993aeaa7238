import TabCompletion.Source.Branches

/-!
# The shipped grammars

The commands that are known without any grammar file.
-/

namespace TabCompletion.Shipped

/-- An option from its names, its description and its arguments. -/
def opt (names : List String) (description : String) (args : List Arg := []) : Opt :=
  { names, description := .text description, args }

/-- An argument that has a name alone. -/
def named (name : String) : Arg := { name }

/-- Values without descriptions. -/
def values (names : List String) : List StaticValue := names.map fun name => { name }

/-- The option that asks for help. -/
def help : Opt := opt ["-h", "--help"] "Show help for the command"

/-- The names of remote repositories. -/
def remote : Arg := { name := "remote", optional := true, values := values ["origin", "upstream"] }

/-- Version control. -/
def git : Command where
  names := ["git"]
  description := .text "Distributed version control system"
  options := [
    { opt ["-C"] "Run as if git was started in <path>"
        [{ name := "path", templates := [.folders] }] with persistent := true },
    { opt ["--no-pager"] "Do not pipe output into a pager" with persistent := true },
    opt ["--version"] "Print the git version",
    help]
  children := [
    { names := ["add"]
      description := .text "Add file contents to the index"
      options := [
        opt ["-A", "--all"] "Add changes from all tracked and untracked files",
        opt ["-p", "--patch"] "Interactively choose hunks",
        opt ["-n", "--dry-run"] "Don't actually add the files",
        opt ["-f", "--force"] "Allow adding otherwise ignored files"]
      args := [
        { name := "pathspec", description := .text "Files to add", optional := true,
          variadic := true, templates := [.filepaths] }] },
    { names := ["commit"]
      description := .text "Record changes to the repository"
      options := [
        opt ["-m", "--message"] "Use the given message" [named "message"],
        opt ["-a", "--all"] "Stage modified and deleted files",
        opt ["--amend"] "Replace the tip of the current branch",
        opt ["--no-verify"] "Bypass the pre-commit hooks"] },
    { names := ["checkout", "co"]
      description := .text "Switch branches or restore working tree files"
      options := [
        opt ["-b"] "Create and checkout a new branch" [named "new-branch"],
        opt ["-f", "--force"] "Throw away local modifications"]
      args := [{ name := "branch", optional := true, generator := some .gitBranches }] },
    { names := ["branch"]
      description := .text "List, create, or delete branches"
      options := [
        opt ["-d", "--delete"] "Delete a branch"
          [{ name := "branch", generator := some .gitBranches }],
        opt ["-a", "--all"] "List both remote and local branches"]
      args := [{ name := "branch", optional := true }] },
    { names := ["push"]
      description := .text "Update remote refs"
      options := [
        opt ["-u", "--set-upstream"] "Set upstream for the branch",
        opt ["-f", "--force"] "Force the update"]
      args := [remote, { name := "branch", optional := true, generator := some .gitBranches }] },
    { names := ["pull"]
      description := .text "Fetch from and integrate with another repository"
      args := [remote] },
    { names := ["status"]
      description := .text "Show the working tree status"
      options := [opt ["-s", "--short"] "Give the output in the short format"] },
    { names := ["log"]
      description := .text "Show commit logs"
      options := [
        opt ["--oneline"] "One line per commit",
        opt ["-n", "--max-count"] "Limit the number of commits" [named "number"]] },
    { names := ["diff"]
      description := .text "Show changes between commits"
      options := [opt ["--staged", "--cached"] "Diff against the index"]
      args := [
        { name := "path", optional := true, variadic := true, templates := [.filepaths] }] },
    { names := ["stash"]
      description := .text "Stash the changes in a dirty working directory"
      children := [
        { names := ["push"], description := .text "Save local modifications" },
        { names := ["pop"], description := .text "Apply and remove a stash" },
        { names := ["list"], description := .text "List stash entries" },
        { names := ["drop"], description := .text "Remove a stash entry" }] }]

/-- Another command, run as another user. -/
def superuser : Command where
  names := ["sudo"]
  description := .text "Execute a command as another user"
  options := [
    opt ["-u", "--user"] "Run the command as this user" [named "user"],
    opt ["-E", "--preserve-env"] "Preserve the user environment",
    opt ["-k", "--reset-timestamp"] "Invalidate cached credentials",
    help]
  args := [{ name := "command", description := .text "Command to run", command := true }]

/-- Change of the working directory. -/
def cd : Command where
  names := ["cd"]
  description := .text "Change the shell working directory"
  args := [
    { name := "directory", optional := true, templates := [.folders], values := values ["-", "~"] }]

/-- Directory listings. -/
def ls : Command where
  names := ["ls"]
  description := .text "List directory contents"
  options := [
    opt ["-a", "--all"] "Do not ignore entries starting with .",
    opt ["-l"] "Use a long listing format",
    opt ["-h", "--human-readable"] "Print sizes in human readable format",
    opt ["-R", "--recursive"] "List subdirectories recursively",
    opt ["--color"] "Colorize the output"
      [{ name := "when", optional := true, values := values ["always", "auto", "never"] }]]
  args := [{ name := "file", optional := true, variadic := true, templates := [.filepaths] }]

/-- Signals to processes by number. -/
def kill : Command where
  names := ["kill"]
  description := .text "Send a signal to a process"
  options := [
    opt ["-s"] "Signal to send"
      [{ name := "signal", values := values ["HUP", "INT", "KILL", "TERM", "STOP", "CONT"] }],
    opt ["-l", "--list"] "List signal names"]
  args := [{ name := "pid", variadic := true, generator := some .processes, strategy := .fuzzy }]

/-- Signals to processes by name. -/
def pkill : Command where
  names := ["pkill"]
  description := .text "Signal processes by name"
  options := [opt ["-f", "--full"] "Match against the full command line"]
  args := [{ name := "pattern", generator := some .processNames, strategy := .fuzzy }]

/-- Logins on other machines. -/
def ssh : Command where
  names := ["ssh"]
  description := .text "OpenSSH remote login client"
  options := [
    opt ["-p"] "Port to connect to" [named "port"],
    opt ["-i"] "Identity file" [{ name := "identity_file", templates := [.filepaths] }],
    opt ["-v"] "Verbose mode"]
  args := [named "destination", { name := "command", optional := true, command := true }]

/-- All shipped grammars, in the order of their registration. -/
def commands : List Command := [git, superuser, cd, ls, kill, pkill, ssh]

end TabCompletion.Shipped
