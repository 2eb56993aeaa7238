import TabCompletion.Registry.Basic

/-!
# Answers to lines

A line is answered with suggestions ready for display, a hint, and the number of typed characters
that a suggestion replaces. One answer is kept: the last one computed. A line that is asked again
gets it, any other line is computed.

* `Registry.offerFor` is the offer for a line, `Registry.answer` the answer that displays it.
* `Slot.getOrCompute` answers from the slot where it can. The slot is a state that computations
  read and write: one that fails leaves it as it is at that moment.
* `Request` is a query that has the slot as well. `Registry.resolve` is the request for the answer
  to a line, and `Engine.ask` makes it to an engine. A fault ends a request, and what it changed
  until then stays, the slot and the memory.

`Registry.offerFor` is `load_suggestions`; the slot and its engine are `SuggestionCache` and
`SuggestionEngine.resolve`. Out of scope: requests to one slot that are made at the same time.
-/

namespace TabCompletion

/-- A candidate ready for display. -/
structure Suggestion where
  name : String
  icon : Json := .text ""
  description : Json := .text ""
  deriving DecidableEq, Repr

/-- A candidate with the icon of its kind. -/
def Suggestion.ofCandidate (settings : Settings) (c : Candidate) : Except Misuse Suggestion :=
  (settings.icon c.kind.word).map fun icon => { name := c.name, icon, description := c.description }

/-- The answer to a line. -/
structure Answer where
  line : String
  suggestions : List Suggestion := []
  hint : String := ""
  /-- The number of characters at the end of the line that a suggestion replaces. -/
  replaced : Int := 0
  deriving DecidableEq, Repr

/-- The number of characters of the token under the cursor. -/
def replacedBy (tokens : List Token) : Nat :=
  match tokens.getLast? with
  | some t => if t.complete then 0 else t.rawLength
  | none => 0

namespace Registry

/-- The offer for the tokens of a line. While its first token is typed, root commands are offered;
after that, what the grammar of the command offers. -/
def offerForTokens (reg : Registry) : List Token → Query Offer
  | [] => pure {}
  | first :: rest => do
    if first.complete then
      match reg.lookup first.text with
      | some c => c.offer reg.roots rest
      | none => do
        Query.log (.unknownCommand first.text)
        pure {}
    else pure { candidates := reg.candidates (← read).settings (some first.text) .unset }

/-- The offer for a line, with the number of characters that a candidate replaces. -/
def offerFor (reg : Registry) (line : String) : Query (Offer × Nat) := do
  let tokens := tokens line
  let offer ← reg.offerForTokens tokens
  pure (offer, replacedBy tokens)

/-- The answer to a line. -/
def answer (reg : Registry) (line : String) : Query Answer := do
  let (offer, replaced) ← reg.offerFor line
  match offer.candidates.mapM (Suggestion.ofCandidate (← read).settings) with
  | .ok suggestions => pure { line, suggestions, hint := offer.hint, replaced }
  | .error m => throw (.misuse m)

end Registry

/-! ## The last answer -/

/-- The answer that is kept, if any. -/
abbrev Slot := Option Answer

namespace Slot

/-- The kept answer, if it is the answer to this line. -/
def get? (slot : Slot) (line : String) : Option Answer := slot.filter (·.line = line)

/-- The answer to a line: the kept one, or one that is computed and kept from then on. -/
def getOrCompute {m : Type → Type} [Monad m] [MonadStateOf Slot m] (line : String)
    (compute : String → m Answer) : m Answer := do
  match (← getThe Slot).get? line with
  | some a => pure a
  | none => do
    let a ← compute line
    set (some a : Slot)
    pure a

end Slot

/-! ## Engines -/

/-- An engine between two lines: the answer that is kept, and what is remembered. -/
structure Engine where
  slot : Slot := none
  memory : Memory := {}

/-- A query of an engine, with the slot beside the memory. -/
abbrev Request := ReaderT Context (ExceptT Fault (StateT Slot (StateM Memory)))

/-- A query as a part of a request, which leaves the slot alone. -/
def Query.request (q : Query α) : Request α := fun context => StateT.lift (q.run context).run

/-- The answer of a request to an engine, or its fault, and the engine after it. -/
def Request.answer (r : Request α) (context : Context) (e : Engine) : Except Fault α × Engine :=
  let ((result, slot), memory) := ((r.run context).run.run e.slot).run e.memory
  (result, { slot, memory })

/-- The answer to a line, from the slot where it can be. -/
def Registry.resolve (reg : Registry) (line : String) : Request Answer :=
  Slot.getOrCompute line fun line => (reg.answer line).request

/-- The answer to a line, or its fault, and the engine after it. -/
def Engine.ask (reg : Registry) (context : Context) (e : Engine) (line : String) :
    Except Fault Answer × Engine :=
  (reg.resolve line).answer context e

end TabCompletion
