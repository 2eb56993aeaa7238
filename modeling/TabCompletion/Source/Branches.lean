import TabCompletion.Grammar.Basic
import TabCompletion.Text.Lines

/-!
# Branch lists

The output of `git branch` names one branch on each line, after a marker for the branch that is
checked out. A line whose name starts with a round bracket stands for no branch.
-/

namespace TabCompletion

/-- The characters of the marker before a branch. -/
def isBranchMarker (c : Char) : Bool := c = '*' || c = ' '

/-- The branch that a line names, or the empty text. -/
def branchOfLine (line : List Char) : List Char :=
  Text.trimWith Text.isBlank (Text.trimLeft isBranchMarker (Text.trimWith Text.isBlank line))

/-- The branches of a branch list. -/
def branchNames (output : String) : List String :=
  ((Text.linesFrom [] output.toList).map branchOfLine).filterMap fun name =>
    match name with
    | [] => none
    | '(' :: _ => none
    | name => some (String.ofList name)

/-- The candidates of a branch list. -/
def branchCandidates (output : String) : List Candidate :=
  (branchNames output).map fun name => { name, kind := .arg, description := .text "branch" }

namespace Generator

/-- Offers the branches of the repository. -/
def gitBranches : Generator where
  script := some (.program ["git", "branch", "--no-color"])
  reader := some fun output => .ok ((branchCandidates output).map .candidate)

/-- Offers the processes by their numbers. -/
def processes : Generator := { provider := some .processes }

/-- Offers the processes by their names. -/
def processNames : Generator := { provider := some .processNames }

end Generator

end TabCompletion
