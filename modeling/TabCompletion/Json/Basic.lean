import TabCompletion.Binary64.Basic

/-!
# JSON values

The data that grammars and settings are written in. Whole numbers of any size and doubles are
kept apart, as a number is one or the other by how it is written. An object keeps the order of its
members and holds each name once.

* `get?_put_self`, `get?_put_of_ne`: a member that is put is found, and the others stay.
* `keys_put`: a name that is new goes to the end, one that is known keeps its place.
-/

namespace TabCompletion

/-- A JSON value. -/
inductive Json where
  | null
  | bool (b : Bool)
  | int (n : Int)
  | real (x : Binary64)
  | text (s : String)
  | list (items : List Json)
  | object (members : List (String × Json))
  deriving Repr, Inhabited

namespace Json

mutual
/-- Equality of values, member by member. -/
def same : Json → Json → Bool
  | .null, .null => true
  | .bool a, .bool b => a == b
  | .int a, .int b => a == b
  | .real a, .real b => a == b
  | .text a, .text b => a == b
  | .list a, .list b => sameItems a b
  | .object a, .object b => sameMembers a b
  | _, _ => false

/-- Equality of lists of values. -/
def sameItems : List Json → List Json → Bool
  | [], [] => true
  | a :: as, b :: bs => same a b && sameItems as bs
  | _, _ => false

/-- Equality of member lists. -/
def sameMembers : List (String × Json) → List (String × Json) → Bool
  | [], [] => true
  | (k, a) :: as, (l, b) :: bs => k == l && (same a b && sameMembers as bs)
  | _, _ => false
end

mutual
theorem same_iff : ∀ a b : Json, same a b = true ↔ a = b
  | .null, b => by cases b <;> simp [same]
  | .bool _, b => by cases b <;> simp [same]
  | .int _, b => by cases b <;> simp [same]
  | .real _, b => by cases b <;> simp [same]
  | .text _, b => by cases b <;> simp [same]
  | .list xs, b => by cases b <;> simp [same, sameItems_iff xs]
  | .object xs, b => by cases b <;> simp [same, sameMembers_iff xs]

theorem sameItems_iff : ∀ a b : List Json, sameItems a b = true ↔ a = b
  | [], b => by cases b <;> simp [sameItems]
  | x :: xs, b => by cases b <;> simp [sameItems, same_iff x, sameItems_iff xs]

theorem sameMembers_iff : ∀ a b : List (String × Json), sameMembers a b = true ↔ a = b
  | [], b => by cases b <;> simp [sameMembers]
  | (k, x) :: xs, [] => by simp [sameMembers]
  | (k, x) :: xs, (l, y) :: ys => by
    simp [sameMembers, same_iff x y, sameMembers_iff xs ys, and_assoc]
end

instance : DecidableEq Json := fun a b => decidable_of_iff _ (same_iff a b)

/-- Whether a value counts as yes: neither null, false, a zero nor empty. -/
def truthy : Json → Bool
  | .null => false
  | .bool b => b
  | .int n => n != 0
  | .real x => !x.isZero
  | .text s => s != ""
  | .list items => !items.isEmpty
  | .object members => !members.isEmpty

end Json

/-- The members of an object, each name once. -/
abbrev Members := List (String × Json)

namespace Members

/-- The value under a name. -/
def get? (m : Members) (key : String) : Option Json := m.lookup key

/-- The value under a name, or null. -/
def getOrNull (m : Members) (key : String) : Json := (get? m key).getD .null

/-- Puts a value under a name: in place if the name is known, at the end otherwise. -/
def put (m : Members) (key : String) (value : Json) : Members :=
  match m with
  | [] => [(key, value)]
  | (k, v) :: rest => if k = key then (k, value) :: rest else (k, v) :: put rest key value

/-- Puts every member of `new` in turn. -/
def putAll (m new : Members) : Members := new.foldl (fun acc kv => put acc kv.1 kv.2) m

/-- The object in which a name that is given twice has its first place and its last value. -/
def ofList (pairs : List (String × Json)) : Members := putAll [] pairs

theorem get?_put_self (m : Members) (key : String) (v : Json) :
    get? (put m key v) key = some v := by
  induction m with
  | nil => simp [put, get?]
  | cons kv rest ih =>
    obtain ⟨k, w⟩ := kv
    by_cases h : k = key
    · simp [put, get?, h]
    · have : (key == k) = false := by simpa using fun e => h e.symm
      simpa [put, get?, h, List.lookup_cons, this] using ih

theorem get?_put_of_ne (m : Members) {key other : String} (v : Json) (h : other ≠ key) :
    get? (put m key v) other = get? m other := by
  induction m with
  | nil => simp [put, get?, List.lookup_cons, beq_eq_false_iff_ne.2 h]
  | cons kv rest ih =>
    obtain ⟨k, w⟩ := kv
    by_cases hk : k = key
    · subst hk
      simp [put, get?, List.lookup_cons, beq_eq_false_iff_ne.2 h]
    · by_cases ho : other = k
      · subst ho
        simp [put, get?, hk]
      · simpa [put, get?, hk, List.lookup_cons, beq_eq_false_iff_ne.2 ho] using ih

theorem keys_put (m : Members) (key : String) (v : Json) :
    (put m key v).map (·.1) =
      if key ∈ m.map (·.1) then m.map (·.1) else m.map (·.1) ++ [key] := by
  induction m with
  | nil => simp [put]
  | cons kv rest ih =>
    obtain ⟨k, w⟩ := kv
    by_cases h : k = key
    · simp [put, h]
    · have h' : ¬ key = k := fun e => h e.symm
      simp only [put, h, if_false, List.map_cons, ih, List.mem_cons, h', false_or]
      split <;> simp

end Members

end TabCompletion
