import TabCompletion.Offer

/-!
# The registry of root commands

Grammars by every name of theirs. A grammar that is registered takes its names over; a name keeps
the place where it came in first.

* `lookup_register`: after a registration its names lead to it, and other names where they led.
* `Registry.commands` lists every grammar once that some name leads to, by the order of names.

This is `SpecRegistry`, without its files.
-/

namespace TabCompletion

/-- A registered grammar with the number of its registration. -/
structure Registration where
  serial : Nat
  command : Command

/-- The registered grammars by name, in the order in which the names came in. -/
structure Registry where
  entries : List (String × Registration) := []
  /-- How many registrations there were. -/
  count : Nat := 0

namespace Registry

/-- Lets a name lead to a registration. -/
def assign (entries : List (String × Registration)) (name : String) (r : Registration) :
    List (String × Registration) :=
  match entries with
  | [] => [(name, r)]
  | (n, old) :: rest => if n = name then (n, r) :: rest else (n, old) :: assign rest name r

/-- Registers a grammar under all its names. -/
def register (reg : Registry) (c : Command) : Registry where
  entries := c.names.foldl (fun es name => assign es name ⟨reg.count, c⟩) reg.entries
  count := reg.count + 1

/-- Registers grammars one after the other. -/
def registerAll (reg : Registry) (cs : List Command) : Registry := cs.foldl register reg

/-- The registry of some grammars. -/
def ofCommands (cs : List Command) : Registry := registerAll {} cs

/-- The grammar that a name leads to. -/
def lookup (reg : Registry) (name : String) : Option Command :=
  (reg.entries.lookup name).map (·.command)

/-- Whether a name leads to a grammar. -/
def contains (reg : Registry) (name : String) : Bool := (reg.lookup name).isSome

/-- The number of names. -/
def size (reg : Registry) : Nat := reg.entries.length

/-- All names, in order. -/
def names (reg : Registry) : List String := (reg.entries.map (·.1)).mergeSort (· ≤ ·)

/-- The registrations of a list of entries, each at its first name; those in `seen` are left
out. -/
def registrationsFrom (seen : List Nat) : List (String × Registration) → List Registration
  | [] => []
  | (_, r) :: rest =>
    if seen.contains r.serial then registrationsFrom seen rest
    else r :: registrationsFrom (r.serial :: seen) rest

/-- Every grammar that a name leads to, once, in the order of names. -/
def commands (reg : Registry) : List Command :=
  (registrationsFrom [] reg.entries).map (·.command)

/-- The names that pass the filter, as candidates. -/
def candidates (reg : Registry) (c : Settings) (typed : Option String) (s : Strategy) :
    List Candidate :=
  (reg.names.filter (c.admits s typed)).map fun name =>
    { name, kind := .subcommand,
      description := ((reg.lookup name).map (·.description)).getD (.text "") }

/-- The registry as the root commands of queries. -/
def roots (reg : Registry) : Roots where
  lookup := reg.lookup
  names := reg.candidates

theorem lookup_assign (es : List (String × Registration)) (name other : String)
    (r : Registration) :
    (assign es name r).lookup other = if other = name then some r else es.lookup other := by
  induction es with
  | nil =>
    by_cases h : other = name
    · simp [assign, h]
    · simp [assign, List.lookup_cons, h, beq_eq_false_iff_ne.2 h]
  | cons e rest ih =>
    obtain ⟨n, old⟩ := e
    unfold assign
    by_cases hn : n = name
    · subst hn
      by_cases h : other = n
      · simp [h]
      · simp [List.lookup_cons, h, beq_eq_false_iff_ne.2 h]
    · by_cases ho : other = n
      · subst ho
        simp [hn]
      · simp [hn, List.lookup_cons, beq_eq_false_iff_ne.2 ho, ih]

/-- The names of a grammar lead to its registration, and other names where they led. -/
theorem lookup_entries_register (reg : Registry) (c : Command) (name : String) :
    (reg.register c).entries.lookup name =
      if name ∈ c.names then some ⟨reg.count, c⟩ else reg.entries.lookup name := by
  unfold register
  dsimp only
  generalize reg.entries = es
  induction c.names generalizing es with
  | nil => simp
  | cons n rest ih =>
    rw [List.foldl_cons, ih, lookup_assign]
    by_cases h : name ∈ rest <;> by_cases hn : name = n <;> simp [h, hn]

theorem lookup_register (reg : Registry) (c : Command) (name : String) :
    (reg.register c).lookup name = if name ∈ c.names then some c else reg.lookup name := by
  unfold lookup
  rw [lookup_entries_register]
  split <;> rfl

end Registry

end TabCompletion
