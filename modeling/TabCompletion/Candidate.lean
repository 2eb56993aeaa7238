import TabCompletion.Json.Literal

/-!
# Candidates

What may be offered for the token under the cursor: a name to type, the kind of thing it is, and
a description that is passed through as it was given.
-/

namespace TabCompletion

/-- The kinds of candidates. -/
inductive Kind where
  | subcommand | option | arg | file | folder | special | mixed | default
  deriving DecidableEq, Repr

/-- The word for a kind, under which its icon is configured. -/
def Kind.word : Kind → String
  | .subcommand => "subcommand"
  | .option => "option"
  | .arg => "arg"
  | .file => "file"
  | .folder => "folder"
  | .special => "special"
  | .mixed => "mixed"
  | .default => "default"

/-- Something to offer. -/
structure Candidate where
  name : String
  kind : Kind := .default
  description : Json := .text ""
  deriving DecidableEq, Repr

/-- What a generator hands over: a value to make a candidate of, or a ready candidate. -/
inductive Item where
  | value (v : Json)
  | candidate (c : Candidate)
  deriving DecidableEq, Repr

/-- The candidate of an item, if it makes one: a text that is not blank, without the blanks around
it; a non-empty list of a name and perhaps a description; an object with a name. -/
def Item.candidate? : Item → Option Candidate
  | .candidate c => some c
  | .value (.text s) =>
    let name := Text.trim s
    if name = "" then none else some { name, kind := .arg }
  | .value (.list (name :: rest)) =>
    let description := (rest.head?.map Json.plainText).getD ""
    some { name := name.plainText, kind := .arg, description := .text description }
  | .value (.object members) =>
    let name := Members.getOrNull members "name"
    if name.truthy then
      let description := ((Members.get? members "description").map Json.plainText).getD ""
      some { name := name.plainText, kind := .arg, description := .text description }
    else none
  | .value _ => none

/-- The candidates of the items that make one, in their order. -/
def candidatesOf (items : List Item) : List Candidate := items.filterMap Item.candidate?

end TabCompletion
