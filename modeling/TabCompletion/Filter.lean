import TabCompletion.Settings
import TabCompletion.Text.Lowercase

/-!
# Filtering by typed text

A candidate passes if nothing is typed yet, if it starts with the typed text, or, where matching
is fuzzy, if the typed characters occur in it in order with any others between, both in lower
case.

* `fuzzyMatch_iff`: fuzzy matching is the subsequence relation on lower-cased texts.
-/

namespace TabCompletion

/-- Whether the characters of `query` are found one after the other in `candidate`; each takes the
first place that is left. -/
def foundInOrder : List Char → List Char → Bool
  | [], _ => true
  | _ :: _, [] => false
  | q :: query, c :: candidate =>
    if q = c then foundInOrder query candidate else foundInOrder (q :: query) candidate

theorem foundInOrder_iff {query candidate : List Char} :
    foundInOrder query candidate = true ↔ query.Sublist candidate := by
  fun_induction foundInOrder query candidate with
  | case1 => simp
  | case2 => simp
  | case3 q query candidate ih => simp [ih]
  | case4 q query c candidate h ih =>
    rw [ih]
    refine ⟨fun s => s.cons _, fun s => ?_⟩
    cases s with
    | cons _ s => exact s
    | cons_cons _ s => exact absurd rfl h

/-- Whether the lower-cased query is found in order in the lower-cased candidate. -/
def fuzzyMatch (candidate query : String) : Bool :=
  foundInOrder (Text.lower query).toList (Text.lower candidate).toList

theorem fuzzyMatch_iff {candidate query : String} :
    fuzzyMatch candidate query = true ↔
      (Text.lower query).toList.Sublist (Text.lower candidate).toList :=
  foundInOrder_iff

/-- Whether `text` starts with `start`. -/
def startsWith (text start : String) : Bool := start.toList.isPrefixOf text.toList

/-- Whether a name passes the filter of the typed text under a strategy. -/
def Settings.admits (c : Settings) (s : Strategy) (typed : Option String) (name : String) : Bool :=
  match typed with
  | none => true
  | some "" => true
  | some typed => if c.effective s = .fuzzy then fuzzyMatch name typed else startsWith name typed

end TabCompletion
