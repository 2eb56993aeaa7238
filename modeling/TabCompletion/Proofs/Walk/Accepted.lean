import TabCompletion.Proofs.Walk.Agreement

/-!
# What is accepted where a walk ends

Where a walk ends, what was read decides what is accepted, and so what is not offered again
(`Withheld`): the options and values since a command was entered, and of the options before them
those that named a persistent option when they were read, back to the last nested command.

Results:
* `mem_acceptedAfter_iff`: an accepted token and the place at which it was read (`ReadAs`).
* `markedByForce_of_reached`: an option is accepted as persistent exactly if it named a persistent
  option then in force.
* **`withheld_iff`**: what is withheld is what the accepted tokens name; `withheld_iff_of_walk` says
  so of the position where a walk stops.
* `accepted_sublist`: the accepted tokens of that position are some of the tokens, in their order.
-/

namespace TabCompletion

/-- The texts that are not offered again after the readings `rs` of a walk of `c`. -/
inductive Withheld (c : Command) (rs : List Reading) : String → Prop
  /-- That of an option, if no command was entered since. -/
  | option {before later t o persist} (h : rs = before ++ .option t o persist :: later)
      (hlater : ∀ r ∈ later, r.descends = false) : Withheld c rs t.text
  /-- That of a value, if no command was entered since. -/
  | value {before later t a} (h : rs = before ++ .value t a :: later)
      (hlater : ∀ r ∈ later, r.descends = false) : Withheld c rs t.text
  /-- That of an option which named a persistent option in force, if no nested command was entered
  since. -/
  | above {before later t o persist} (h : rs = before ++ .option t o persist :: later)
      (hlater : ∀ r ∈ later, r.restarts = false)
      (hforce : isPersistentName t.text (inForceAlong (pathAfter c before)) = true) :
      Withheld c rs t.text

/-! ## Places in a list of readings -/

/-- A place in a list with one more reading is at the end, or was there before. -/
theorem concat_eq_append_cons {rs before later : List Reading} {x r : Reading}
    (h : rs ++ [x] = before ++ r :: later) :
    (before = rs ∧ r = x ∧ later = []) ∨
      ∃ later', later = later' ++ [x] ∧ rs = before ++ r :: later' := by
  rcases List.eq_nil_or_concat' later with rfl | ⟨later, y, rfl⟩
  · obtain ⟨rfl, hx⟩ := List.append_inj' h rfl
    exact .inl ⟨rfl, (List.cons.inj hx).1.symm, rfl⟩
  · rw [← List.cons_append, ← List.append_assoc] at h
    obtain ⟨hrs, hx⟩ := List.append_inj' h rfl
    exact .inr ⟨later, by rw [(List.cons.inj hx).1], hrs⟩

theorem exists_place_concat {rs : List Reading} {x : Reading}
    {P : List Reading → Reading → List Reading → Prop} :
    (∃ before r later, rs ++ [x] = before ++ r :: later ∧ P before r later) ↔
      P rs x [] ∨ ∃ before r later, rs = before ++ r :: later ∧ P before r (later ++ [x]) := by
  constructor
  · rintro ⟨before, r, later, h, hp⟩
    rcases concat_eq_append_cons h with ⟨rfl, rfl, rfl⟩ | ⟨later, rfl, hrs⟩
    · exact .inl hp
    · exact .inr ⟨before, r, later, hrs, hp⟩
  · rintro (hp | ⟨before, r, later, rfl, hp⟩)
    · exact ⟨rs, x, [], rfl, hp⟩
    · exact ⟨before, r, later ++ [x], by rw [List.append_assoc, List.cons_append], hp⟩

/-! ## Accepted tokens and their places -/

/-- Of two kinds, what is not of the larger one is not of the smaller one. -/
theorem restarts_eq_false {r : Reading} (h : r.descends = false) : r.restarts = false :=
  Bool.eq_false_iff.mpr fun hr => Bool.false_ne_true (h.symm.trans (descends_of_restarts r hr))

/-- The token `a` was read as an option or a value, no nested command was entered since, and it is
persistent unless no command at all was entered since. -/
def ReadAs (rs : List Reading) (a : Accepted) : Prop :=
  ∃ before r later, rs = before ++ r :: later ∧ r.used? = some a ∧
    (∀ s ∈ later, s.restarts = false) ∧ ((∀ s ∈ later, s.descends = false) ∨ a.persist = true)

section Concat

variable {rs : List Reading} {x : Reading} {a b : Accepted}

theorem readAs_used (h : x.used? = some b) : ReadAs (rs ++ [x]) a ↔ ReadAs rs a ∨ a = b := by
  have hd : x.descends = false := descends_of_used h
  have hr : x.restarts = false := restarts_eq_false hd
  unfold ReadAs
  rw [exists_place_concat, h, or_comm]
  simp only [List.forall_mem_append, List.forall_mem_singleton, hd, hr, and_true]
  refine or_congr_right ⟨fun hlast => (Option.some.inj hlast.1).symm, fun hlast => ?_⟩
  exact ⟨congrArg some hlast.symm, List.forall_mem_nil _, .inl (List.forall_mem_nil _)⟩

theorem readAs_child (t : Token) (d : Command) :
    ReadAs (rs ++ [.child t d]) a ↔ ReadAs rs a ∧ a.persist = true := by
  have hd : (Reading.child t d).descends = true := rfl
  have hr : (Reading.child t d).restarts = false := rfl
  have hu : (Reading.child t d).used? = none := rfl
  unfold ReadAs
  rw [exists_place_concat, hu]
  simp only [List.forall_mem_append, List.forall_mem_singleton, hd, hr, and_true]
  constructor
  · rintro (⟨hnone, -⟩ | ⟨before, r, later, hrs, hused, hlater, hkept⟩)
    · cases hnone
    · have hpersist := hkept.resolve_left fun h => Bool.false_ne_true h.2.symm
      exact ⟨⟨before, r, later, hrs, hused, hlater, .inr hpersist⟩, hpersist⟩
  · rintro ⟨⟨before, r, later, hrs, hused, hlater, -⟩, hpersist⟩
    exact .inr ⟨before, r, later, hrs, hused, hlater, .inr hpersist⟩

theorem not_readAs_restart (h : x.restarts = true) : ¬ ReadAs (rs ++ [x]) a := by
  have hu : x.used? = none := by
    cases x <;> first | rfl | cases h
  unfold ReadAs
  rw [exists_place_concat, hu]
  simp [h]

/-- **The accepted tokens** and the places at which they were read. -/
theorem mem_acceptedAfter_iff : a ∈ acceptedAfter rs ↔ ReadAs rs a := by
  induction rs using List.reverseRecOn with
  | nil => simp [acceptedAfter, since, upTo, used, keptBelow, ReadAs]
  | append_singleton rs x ih =>
    have h_used : ∀ b, x.used? = some b →
        (a ∈ acceptedAfter (rs ++ [x]) ↔ ReadAs (rs ++ [x]) a) := by
      intro b hb
      rw [acceptedAfter_used hb, readAs_used hb, List.mem_append, ih, List.mem_singleton]
    have h_restart : x.restarts = true →
        (a ∈ acceptedAfter (rs ++ [x]) ↔ ReadAs (rs ++ [x]) a) := by
      intro hr
      rw [acceptedAfter_restart hr]
      exact ⟨fun h => absurd h List.not_mem_nil, fun h => absurd h (not_readAs_restart hr)⟩
    cases x with
    | option t o persist => exact h_used _ rfl
    | value t v => exact h_used _ rfl
    | root t d => exact h_restart rfl
    | nestedChild t d => exact h_restart rfl
    | child t d =>
      rw [acceptedAfter_child, readAs_child, ← ih]
      exact List.mem_filter

end Concat

/-! ## What is persistent -/

variable {roots : String → Option Command} {c : Command} {tokens : List Token}
  {rs : List Reading} {call call' : Call} {p : Position} {typed : Option String}

/-- The options of a list are marked as persistent exactly if they named a persistent option in
force when they were read. -/
def MarkedByForce (c : Command) (rs : List Reading) : Prop :=
  ∀ before t o persist later, rs = before ++ .option t o persist :: later →
    persist = isPersistentName t.text (inForceAlong (pathAfter c before))

/-- One option is marked by what is in force. -/
theorem persist_step {o : Opt} {t : Token} {persist : Bool}
    (hi : call.Invariant roots c tokens rs)
    (h : Calls roots call (some (.option t o persist)) call') :
    persist = isPersistentName t.text (inForceAlong (pathAfter c rs)) := by
  obtain ⟨above, hpath, hgathered⟩ := hi.gathered
  rw [hpath]
  cases h with
  | flag ha | optionArguments ha => exact congrArg (isPersistentName t.text) hgathered

theorem markedByForce_step {read : Option Reading} (hm : MarkedByForce c rs)
    (hi : call.Invariant roots c tokens rs) (h : Calls roots call read call') :
    MarkedByForce c (rs ++ read.toList) := by
  cases read with
  | none => rwa [Option.toList_none, List.append_nil]
  | some x =>
    intro before t o persist later hplace
    rcases concat_eq_append_cons hplace with ⟨rfl, rfl, -⟩ | ⟨later, rfl, hrs⟩
    · exact persist_step hi h
    · exact hm before t o persist later hrs

/-- **Options are marked by what is in force**, all along a walk. -/
theorem markedByForce_of_reached (h : Reached roots c tokens rs call) : MarkedByForce c rs := by
  induction h with
  | start => exact fun before t o persist later hrs => absurd hrs.symm (by simp)
  | step hreached hn ih =>
    exact markedByForce_step ih (invariant_of_reached hreached) (calls_of_next hn)

/-! ## What is withheld -/

/-- **What is withheld** is what the accepted tokens name. -/
theorem withheld_iff {name : String} (hm : MarkedByForce c rs) :
    Withheld c rs name ↔ name ∈ (acceptedAfter rs).map (·.text) := by
  rw [List.mem_map]
  simp only [mem_acceptedAfter_iff]
  constructor
  · rintro (⟨hrs, hlater⟩ | ⟨hrs, hlater⟩ | ⟨hrs, hlater, hforce⟩)
    · exact ⟨_, ⟨_, _, _, hrs, rfl, fun s hs => restarts_eq_false (hlater s hs), .inl hlater⟩, rfl⟩
    · exact ⟨_, ⟨_, _, _, hrs, rfl, fun s hs => restarts_eq_false (hlater s hs), .inl hlater⟩, rfl⟩
    · exact ⟨_, ⟨_, _, _, hrs, rfl, hlater, .inr ((hm _ _ _ _ _ hrs).trans hforce)⟩, rfl⟩
  · rintro ⟨a, ⟨before, r, later, hrs, hused, hlater, hkept⟩, rfl⟩
    cases r with
    | option t o persist =>
      cases hused
      rcases hkept with hnone | hpersist
      · exact .option hrs hnone
      · exact .above hrs hlater ((hm _ _ _ _ _ hrs).symm.trans hpersist)
    | value t v =>
      cases hused
      exact .value hrs (hkept.resolve_right Bool.false_ne_true)
    | _ => cases hused

/-- **Where a walk stops**, what was read decides what is accepted. -/
theorem accepted_of_walk (h : c.walk roots tokens = .reached p typed) :
    p.level.accepted = acceptedAfter (c.reads roots tokens) ∧
      ∃ left, (c.reads roots tokens).map (·.token) ++ left = tokens := by
  obtain ⟨last, hreached, hstop⟩ := exists_reached_stop (@Reached.start roots c tokens)
  have hend : ((Call.start c tokens).run roots).2 = .reached p typed := (run_ends _).trans h
  have haccepted : last.accepted? = some p.level.accepted := by
    rw [hend] at hstop
    cases stops_of_next hstop with
    | _ => rfl
  have hi := invariant_of_reached hreached
  exact ⟨hi.accepted _ haccepted, last.tokens, hi.tokens_eq⟩

/-- The accepted tokens where a walk stops are some of its tokens, in their order. -/
theorem accepted_sublist (h : c.walk roots tokens = .reached p typed) :
    (p.level.accepted.map (·.text)).Sublist (tokens.map (·.text)) := by
  obtain ⟨haccepted, left, htokens⟩ := accepted_of_walk h
  have hsince : (since Reading.isRoot (c.reads roots tokens)).Sublist (c.reads roots tokens) :=
    (List.rtakeWhile_suffix _ _).sublist
  have htexts := congrArg (List.map (·.text)) htokens
  rw [List.map_append, List.map_map] at htexts
  rw [haccepted, ← htexts]
  exact (acceptedAfter_sublist _).trans ((hsince.map _).trans (List.sublist_append_left _ _))

/-- What is withheld where a walk stops is what the accepted tokens of the position name. -/
theorem withheld_iff_of_walk {name : String} (h : c.walk roots tokens = .reached p typed) :
    Withheld c (c.reads roots tokens) name ↔ name ∈ p.level.accepted.map (·.text) := by
  obtain ⟨last, hreached, -⟩ := exists_reached_stop (@Reached.start roots c tokens)
  rw [(accepted_of_walk h).1]
  exact withheld_iff (markedByForce_of_reached hreached)

end TabCompletion
