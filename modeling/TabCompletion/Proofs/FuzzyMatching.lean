import Mathlib.Data.List.Forall2
import TabCompletion.Filter

/-!
# Fuzzy matching

A query matches a candidate if its characters stand in the candidate at increasing places
(`StandsAt`), both in lower case. The scan gives each character the first place that is left
(`placesFrom`), so it is never further on than any other choice of places, and finds places wherever
there are some.

A match goes over from a query to its parts if the query is in lower case what its parts are. That is
so of any query without a capital sigma, whose lower case depends on the letters around it.

Results:
* `standsAt_of_placesFrom`, `placesFrom_le`: the places of the scan, and that they come first.
* `foundInOrder_iff_standsAt`: a query is found if there is any choice of places.
* `Text.lower_append`: texts whose lower case is put together from their parts.
* **`fuzzy_subsequence`**: a match is a subsequence; what follows for queries that are matched
  themselves and for parts of queries.
-/

namespace TabCompletion

variable {query rest : List Char} {places : List Nat}

/-! ## Places -/

/-- The characters of a query stand in the candidate at increasing places. -/
structure StandsAt (candidate query : List Char) (places : List Nat) : Prop where
  increasing : places.Pairwise (· < ·)
  chars : List.Forall₂ (fun p q => candidate[p]? = some q) places query

/-- The places that a scan takes, where `i` characters of the candidate are passed already. -/
def placesFrom (i : Nat) : List Char → List Char → Option (List Nat)
  | [], _ => some []
  | _ :: _, [] => none
  | q :: query, c :: candidate =>
    if q = c then (placesFrom (i + 1) query candidate).map (i :: ·)
    else placesFrom (i + 1) (q :: query) candidate

theorem foundInOrder_eq_isSome (i : Nat) (query candidate : List Char) :
    foundInOrder query candidate = (placesFrom i query candidate).isSome := by
  fun_induction foundInOrder query candidate generalizing i with
  | case1 => simp [placesFrom]
  | case2 => simp [placesFrom]
  | case3 q query candidate ih => simp [placesFrom, ih (i + 1)]
  | case4 q query c candidate h ih => simp [placesFrom, h, ih (i + 1)]

/-- The characters of the query stand at the places of the scan, none of which is passed. -/
theorem standsAt_of_placesFrom (passed : List Char)
    (h : placesFrom passed.length query rest = some places) :
    StandsAt (passed ++ rest) query places ∧ ∀ p ∈ places, passed.length ≤ p := by
  induction rest generalizing passed query places with
  | nil =>
    cases query with
    | nil =>
      cases h
      exact ⟨⟨.nil, .nil⟩, by simp⟩
    | cons q query => cases h
  | cons c rest ih =>
    -- One character further on, what is passed is longer by it.
    have hnext : ∀ query' places', placesFrom (passed.length + 1) query' rest = some places' →
        StandsAt (passed ++ c :: rest) query' places' ∧ ∀ p ∈ places', passed.length + 1 ≤ p := by
      intro query' places' h'
      have := ih (passed ++ [c]) (by simpa using h')
      simpa using this
    cases query with
    | nil =>
      cases h
      exact ⟨⟨.nil, .nil⟩, by simp⟩
    | cons q query =>
      unfold placesFrom at h
      split at h
      · rename_i heq
        subst heq
        obtain ⟨later, hlater, rfl⟩ := Option.map_eq_some_iff.mp h
        obtain ⟨hstands, hpast⟩ := hnext query later hlater
        refine ⟨⟨List.pairwise_cons.mpr ⟨hpast, hstands.increasing⟩,
          .cons (by simp) hstands.chars⟩, fun p hp => ?_⟩
        rcases List.mem_cons.mp hp with rfl | hp
        · exact Nat.le_refl _
        · exact Nat.le_of_succ_le (hpast p hp)
      · obtain ⟨hstands, hpast⟩ := hnext (q :: query) places h
        exact ⟨hstands, fun p hp => Nat.le_of_succ_le (hpast p hp)⟩

/-- **The scan is never further on than any other choice of places.** -/
theorem placesFrom_le (passed : List Char) (h : StandsAt (passed ++ rest) query places)
    (hpast : ∀ p ∈ places, passed.length ≤ p) :
    ∃ first, placesFrom passed.length query rest = some first ∧
      List.Forall₂ (· ≤ ·) first places := by
  induction rest generalizing passed query places with
  | nil =>
    cases h.chars with
    | nil => exact ⟨[], rfl, .nil⟩
    | cons hchar _ =>
      have hle := hpast _ List.mem_cons_self
      rw [List.append_nil] at hchar
      exact absurd (List.getElem?_eq_some_iff.mp hchar).1 (Nat.not_lt.mpr hle)
  | cons c rest ih =>
    have hnext : ∀ query' places', StandsAt (passed ++ c :: rest) query' places' →
        (∀ p ∈ places', passed.length + 1 ≤ p) →
        ∃ first, placesFrom (passed.length + 1) query' rest = some first ∧
          List.Forall₂ (· ≤ ·) first places' := by
      intro query' places' h' hpast'
      simpa using ih (passed ++ [c]) (by simpa using h') (by simpa using hpast')
    cases hchars : h.chars with
    | nil => exact ⟨[], rfl, .nil⟩
    | @cons p q later query hchar hlater =>
      obtain ⟨hfirst, hincreasing⟩ := List.pairwise_cons.mp h.increasing
      have hp : passed.length ≤ p := hpast p List.mem_cons_self
      unfold placesFrom
      by_cases heq : q = c
      · obtain ⟨first, hplaces, hle⟩ := hnext query later ⟨hincreasing, hlater⟩
          fun p' hp' => Nat.lt_of_le_of_lt hp (hfirst p' hp')
        rw [if_pos heq, hplaces]
        exact ⟨_, rfl, .cons hp hle⟩
      · -- The place is another than that of `c`, so all places are behind it.
        have hne : p ≠ passed.length := by
          rintro rfl
          simp at hchar
          exact heq hchar.symm
        rw [if_neg heq]
        refine hnext (q :: query) (p :: later) h fun p' hp' => ?_
        rcases List.mem_cons.mp hp' with rfl | hp'
        · omega
        · have := hfirst p' hp'
          omega

/-- **A scan finds a query at some places**, if there are any. -/
theorem foundInOrder_iff_standsAt {candidate : List Char} :
    foundInOrder query candidate = true ↔ ∃ places, StandsAt candidate query places := by
  rw [foundInOrder_eq_isSome 0, Option.isSome_iff_exists]
  constructor
  · rintro ⟨places, h⟩
    exact ⟨places, (standsAt_of_placesFrom [] h).1⟩
  · rintro ⟨places, h⟩
    obtain ⟨first, hfirst, -⟩ := placesFrom_le [] h fun _ _ => Nat.zero_le _
    exact ⟨first, hfirst⟩

/-! ## Lower case in parts -/

namespace Text

/-- What stands around a text matters only for its capital sigmas. -/
theorem lowerFrom_append {a : List Char} (ha : 'Σ' ∉ a) (before b : List Char) :
    lowerFrom before (a ++ b) = lowerFrom before a ++ lowerFrom (a.reverse ++ before) b := by
  induction a generalizing before with
  | nil => rfl
  | cons c a ih =>
    have hc : c ≠ 'Σ' := fun h => ha (h ▸ List.mem_cons_self)
    have htail : 'Σ' ∉ a := fun h => ha (List.mem_cons_of_mem _ h)
    simp [lowerFrom, hc, ih htail]

theorem lowerFrom_congr {b : List Char} (hb : 'Σ' ∉ b) (before before' : List Char) :
    lowerFrom before b = lowerFrom before' b := by
  induction b generalizing before before' with
  | nil => rfl
  | cons c b ih =>
    have hc : c ≠ 'Σ' := fun h => hb (h ▸ List.mem_cons_self)
    have htail : 'Σ' ∉ b := fun h => hb (List.mem_cons_of_mem _ h)
    simp [lowerFrom, hc, ih htail (c :: before) (c :: before')]

/-- Texts without a capital sigma are lowered part by part. -/
theorem lower_append {a b : String} (ha : 'Σ' ∉ a.toList) (hb : 'Σ' ∉ b.toList) :
    lower (a ++ b) = lower a ++ lower b := by
  unfold lower
  rw [String.toList_append, lowerFrom_append ha, lowerFrom_congr hb _ [], String.ofList_append]

end Text

/-! ## Matches as subsequences -/

/-- **Fuzzy matching is the subsequence relation in lower case**, for any choice of places. So a text
matches itself, what matches a query matches all that the query matches, and what matches a query
that is lowered part by part matches its parts. -/
theorem fuzzy_subsequence (candidate query : String) :
    (fuzzyMatch candidate query = true ↔
      (Text.lower query).toList.Sublist (Text.lower candidate).toList) ∧
    (fuzzyMatch candidate query = true ↔
      ∃ places, StandsAt (Text.lower candidate).toList (Text.lower query).toList places) ∧
    fuzzyMatch query query = true ∧
    (∀ next, fuzzyMatch candidate query = true → fuzzyMatch query next = true →
      fuzzyMatch candidate next = true) ∧
    ∀ a b, query = a ++ b → Text.lower query = Text.lower a ++ Text.lower b →
      fuzzyMatch candidate query = true →
        fuzzyMatch candidate a = true ∧ fuzzyMatch candidate b = true := by
  refine ⟨fuzzyMatch_iff, foundInOrder_iff_standsAt, fuzzyMatch_iff.mpr (List.Sublist.refl _), ?_, ?_⟩
  · intro next hquery hnext
    rw [fuzzyMatch_iff] at hquery hnext ⊢
    exact hnext.trans hquery
  · intro a b _ hlower hmatch
    rw [fuzzyMatch_iff, hlower, String.toList_append] at hmatch
    rw [fuzzyMatch_iff, fuzzyMatch_iff]
    exact ⟨(List.sublist_append_left _ _).trans hmatch,
      (List.sublist_append_right _ _).trans hmatch⟩

/-- The dotted capital I is lowered to two characters. -/
theorem fuzzy_subsequence_dotted :
    Text.lower ("İ" ++ "ST") = Text.lower "İ" ++ Text.lower "ST" ∧
    fuzzyMatch "İzmir-test" ("İ" ++ "ST") = true ∧
    fuzzyMatch "İzmir-test" "İ" = true ∧ fuzzyMatch "İzmir-test" "ST" = true := by
  have hlower : Text.lower ("İ" ++ "ST") = Text.lower "İ" ++ Text.lower "ST" :=
    Text.lower_append (by decide) (by decide)
  have hmatch : fuzzyMatch "İzmir-test" ("İ" ++ "ST") = true := by decide +kernel
  have hparts := (fuzzy_subsequence "İzmir-test" ("İ" ++ "ST")).2.2.2.2 "İ" "ST" rfl hlower hmatch
  exact And.intro hlower (And.intro hmatch hparts)

/-- A sigma at the end of a query is lowered to a final one, which the candidate has not. So a query
can match whose first part does not. -/
example : fuzzyMatch "ασα" ("ΑΣ" ++ "Α") = true ∧ fuzzyMatch "ασα" "ΑΣ" = false := by
  decide +kernel

end TabCompletion
