import Mathlib.Data.List.Nodup
import TabCompletion.Offer

/-!
# The first of every name

Of candidates with one name the first is kept (`distinct`), unless an accepted token has that name.
Here is what is left of a list, candidate by candidate and in which order.

Results:
* **`mem_distinctFrom_iff`**: a candidate is left if it is the first of its name and the name was
  not seen before.
* `pairwise_distinctFrom`: the names that are left stand in the order of their first places.
* `count_distinctFrom`: a name that was not seen before is left exactly once.
* `distinctFrom_eq_self`: a list without repeats is left as it is.
* `distinct_perm`: the order in which tokens were accepted does not matter.
* **`keepsFirst_distinct`**: all of this together (`KeepsFirst`).
-/

namespace TabCompletion

variable {seen : List String} {cs : List Candidate} {cand : Candidate} {name : String}

/-- **What is left** is the first of every name that was not seen before. -/
theorem mem_distinctFrom_iff :
    cand ∈ distinctFrom seen cs ↔
      cs.find? (·.name = cand.name) = some cand ∧ cand.name ∉ seen := by
  induction cs generalizing seen with
  | nil => simp [distinctFrom]
  | cons c rest ih =>
    by_cases hname : c.name = cand.name
    · rw [List.find?_cons_of_pos (by simpa using hname)]
      unfold distinctFrom
      by_cases hseen : c.name ∈ seen
      · rw [if_pos (by simpa using hseen), ih]
        exact ⟨fun h => absurd (hname ▸ hseen) h.2, fun h => absurd (hname ▸ hseen) h.2⟩
      · rw [if_neg (by simpa using hseen), List.mem_cons, ih]
        constructor
        · rintro (rfl | ⟨-, hnot⟩)
          · exact ⟨rfl, hseen⟩
          · exact absurd (List.mem_cons.mpr (.inl hname.symm)) hnot
        · rintro ⟨heq, -⟩
          exact .inl (Option.some.inj heq).symm
    · have hne : cand.name ≠ c.name := Ne.symm hname
      have hcand : cand ≠ c := fun h => hne (congrArg Candidate.name h)
      rw [List.find?_cons_of_neg (by simpa using hname)]
      unfold distinctFrom
      split
      · exact ih
      · rw [List.mem_cons, or_iff_right hcand, ih, List.mem_cons, or_iff_right hne]

/-- The names that are left stand in the order in which they came first. -/
theorem pairwise_distinctFrom (seen : List String) (cs : List Candidate) :
    ((distinctFrom seen cs).map (·.name)).Pairwise fun a b =>
      (cs.map (·.name)).idxOf a < (cs.map (·.name)).idxOf b := by
  induction cs generalizing seen with
  | nil => exact List.Pairwise.nil
  | cons c rest ih =>
    -- Behind the head every place moves by one, and no name that is left is that of the head.
    have hshift : ∀ seen', c.name ∈ seen' →
        ((distinctFrom seen' rest).map (·.name)).Pairwise fun a b =>
          ((c :: rest).map (·.name)).idxOf a < ((c :: rest).map (·.name)).idxOf b := by
      intro seen' hc
      refine (ih seen').imp_of_mem fun {a b} ha hb hlt => ?_
      have hne : ∀ n ∈ (distinctFrom seen' rest).map (·.name), c.name ≠ n := fun n hn heq =>
        (mem_names_distinctFrom_iff.mp hn).2 (heq ▸ hc)
      rw [List.map_cons, List.idxOf_cons_ne _ (hne a ha), List.idxOf_cons_ne _ (hne b hb)]
      exact Nat.succ_lt_succ hlt
    unfold distinctFrom
    split
    · rename_i hc
      exact hshift seen (by simpa using hc)
    · refine List.pairwise_cons.mpr ⟨fun b hb => ?_, hshift _ List.mem_cons_self⟩
      have hne : c.name ≠ b := fun heq =>
        (mem_names_distinctFrom_iff.mp hb).2 (heq ▸ List.mem_cons_self)
      rw [List.map_cons, List.idxOf_cons_self, List.idxOf_cons_ne _ hne]
      exact Nat.succ_pos _

/-- A name that was not seen before is left exactly once. -/
theorem count_distinctFrom (hname : name ∈ cs.map (·.name)) (hseen : name ∉ seen) :
    ((distinctFrom seen cs).map (·.name)).count name = 1 :=
  List.count_eq_one_of_mem (nodup_names_distinctFrom seen cs)
    (mem_names_distinctFrom_iff.mpr ⟨hname, hseen⟩)

/-- A list without repeats is left as it is. -/
theorem distinctFrom_eq_self (hnodup : (cs.map (·.name)).Nodup)
    (hseen : ∀ c ∈ cs, c.name ∉ seen) : distinctFrom seen cs = cs := by
  induction cs generalizing seen with
  | nil => rfl
  | cons c rest ih =>
    obtain ⟨hc, hrest⟩ : c.name ∉ rest.map (·.name) ∧ (rest.map (·.name)).Nodup :=
      List.nodup_cons.mp hnodup
    have hnew : ¬ seen.contains c.name = true := by
      simpa using hseen c List.mem_cons_self
    rw [distinctFrom, if_neg hnew, ih hrest fun d hd => ?_]
    rw [List.mem_cons, not_or]
    have hmem : d.name ∈ rest.map (·.name) := List.mem_map_of_mem hd
    exact ⟨fun heq => hc (heq ▸ hmem), hseen d (List.mem_cons_of_mem _ hd)⟩

/-- It does not matter in which order names were seen before. -/
theorem distinctFrom_perm {seen' : List String} (h : seen.Perm seen') (cs : List Candidate) :
    distinctFrom seen cs = distinctFrom seen' cs := by
  induction cs generalizing seen seen' with
  | nil => rfl
  | cons c rest ih =>
    unfold distinctFrom
    rw [h.contains_eq, ih h, ih (h.cons c.name)]

theorem distinct_perm {accepted accepted' : List Accepted} (h : accepted.Perm accepted')
    (cs : List Candidate) : distinct accepted cs = distinct accepted' cs :=
  distinctFrom_perm (h.map _) cs

/-! ## What is kept -/

/-- The candidates `kept` are those of `contributed` that are the first of their name, if the name
is not withheld. -/
structure KeepsFirst (withheld : String → Prop) (contributed kept : List Candidate) : Prop where
  nodup : (kept.map (·.name)).Nodup
  mem_iff : ∀ cand, cand ∈ kept ↔
    contributed.find? (·.name = cand.name) = some cand ∧ ¬ withheld cand.name
  /-- No other name is lost. -/
  once : ∀ name ∈ contributed.map (·.name), ¬ withheld name →
    (kept.map (·.name)).count name = 1
  /-- The names stand in the order in which they came first. -/
  order : (kept.map (·.name)).Pairwise fun a b =>
    (contributed.map (·.name)).idxOf a < (contributed.map (·.name)).idxOf b

theorem keepsFirst_nil (withheld : String → Prop) : KeepsFirst withheld [] [] where
  nodup := List.nodup_nil
  mem_iff := fun _ => ⟨fun h => absurd h List.not_mem_nil, fun h => nomatch h.1⟩
  once := fun _ hname => absurd hname List.not_mem_nil
  order := List.Pairwise.nil

/-- **The first of every name is kept**, unless an accepted token has the name. -/
theorem keepsFirst_distinct {withheld : String → Prop} {accepted : List Accepted}
    (h : ∀ name, withheld name ↔ name ∈ accepted.map (·.text)) (cs : List Candidate) :
    KeepsFirst withheld cs (distinct accepted cs) where
  nodup := nodup_names_distinctFrom _ cs
  mem_iff := fun cand => by
    rw [h]
    exact mem_distinctFrom_iff
  once := fun name hname hnot => count_distinctFrom hname fun hmem => hnot ((h name).mpr hmem)
  order := pairwise_distinctFrom _ cs

/-- Without repeats and accepted names everything is kept. -/
theorem keepsFirst_self {withheld : String → Prop} (h : ∀ name, ¬ withheld name)
    (hnodup : (cs.map (·.name)).Nodup) : KeepsFirst withheld cs cs := by
  have hnone : ∀ name, withheld name ↔ name ∈ ([] : List Accepted).map (·.text) := fun name =>
    ⟨fun hname => absurd hname (h name), fun hname => absurd hname List.not_mem_nil⟩
  have hkept := keepsFirst_distinct hnone cs
  rwa [distinct, List.map_nil, distinctFrom_eq_self hnodup fun c _ => List.not_mem_nil] at hkept

end TabCompletion
