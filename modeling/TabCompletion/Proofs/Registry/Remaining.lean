import TabCompletion.Proofs.Registry.LastWriter

/-!
# The grammars that remain

A grammar remains in a registry as long as some name leads to it; later ones may take over some of
its names or all of them. Each that remains is listed once. Their order is that of the names: a name
keeps the place at which it came in first, whatever grammar it leads to. So a grammar that takes over
an old name is listed where that name stands, and may come before one that was registered earlier.

Results:
* `pairwise_registrationsFrom`: the registrations in a list of entries stand in the order of their
  first entries.
* **`inArrivalOrder_ofCommands`**: the names stand in the order in which they came in first, by
  induction on the registrations, one name at a time (`InArrivalOrder.assign`).
* `mem_commands_iff`, `nodup_commands`, `pairwise_listedBefore`: what is listed, and in which order.
* **`remaining_listed_once`**: all of this, and exactly when the order is that of registration.
* `taken_over_listed_first`: a grammar that takes over one name of another comes before it.
-/

namespace TabCompletion

/-- The last registration of a grammar has the number `i`. -/
def LastRegistered (cs : List Command) (i : Nat) (c : Command) : Prop :=
  cs[i]? = some c ∧ ∀ j, i < j → cs[j]? ≠ some c

/-- The last registration of `c` is before that of `d`. -/
def RegisteredBefore (cs : List Command) (c d : Command) : Prop :=
  ∃ i j, i < j ∧ LastRegistered cs i c ∧ LastRegistered cs j d

/-- The names of some grammars, one grammar after the other. -/
def arrivals (cs : List Command) : List String := cs.flatMap (·.names)

namespace Registry

/-- One of the names that lead to `c` came in before all that lead to `d`. -/
def ListedBefore (cs : List Command) (c d : Command) : Prop :=
  ∃ name, (ofCommands cs).lookup name = some c ∧
    ∀ other, (ofCommands cs).lookup other = some d →
      (arrivals cs).idxOf name < (arrivals cs).idxOf other

variable {cs : List Command} {c d : Command} {name : String} {r s : Registration}
  {entries : List (String × Registration)}

/-! ## Registrations in a list of entries -/

theorem mem_serials_registrationsFrom_iff {seen : List Nat} {i : Nat} :
    i ∈ (registrationsFrom seen entries).map (·.serial) ↔
      i ∈ entries.map (·.2.serial) ∧ i ∉ seen := by
  induction entries generalizing seen with
  | nil => simp [registrationsFrom]
  | cons e rest ih =>
    obtain ⟨name, r⟩ := e
    unfold registrationsFrom
    split
    · rename_i hseen
      have hseen : r.serial ∈ seen := by simpa using hseen
      rw [ih, List.map_cons, List.mem_cons]
      refine ⟨fun h => ⟨.inr h.1, h.2⟩, fun h => ⟨h.1.resolve_left ?_, h.2⟩⟩
      rintro rfl
      exact h.2 hseen
    · rename_i hseen
      have hseen : r.serial ∉ seen := by simpa using hseen
      rw [List.map_cons, List.mem_cons, ih, List.map_cons, List.mem_cons, List.mem_cons]
      constructor
      · rintro (rfl | ⟨hi, hnot⟩)
        · exact ⟨.inl rfl, hseen⟩
        · exact ⟨.inr hi, fun h => hnot (.inr h)⟩
      · rintro ⟨hi, hnot⟩
        by_cases heq : i = r.serial
        · exact .inl heq
        · exact .inr ⟨hi.resolve_left heq, fun h => h.elim heq hnot⟩

theorem exists_entry_of_mem {seen : List Nat} (h : r ∈ registrationsFrom seen entries) :
    ∃ name, (name, r) ∈ entries := by
  induction entries generalizing seen with
  | nil => cases h
  | cons e rest ih =>
    obtain ⟨name, r'⟩ := e
    unfold registrationsFrom at h
    split at h
    · obtain ⟨other, hother⟩ := ih h
      exact ⟨other, List.mem_cons_of_mem _ hother⟩
    · rcases List.mem_cons.mp h with rfl | h
      · exact ⟨name, List.mem_cons_self⟩
      · obtain ⟨other, hother⟩ := ih h
        exact ⟨other, List.mem_cons_of_mem _ hother⟩

/-- An entry of `r` comes before all entries of the other registration `s`. -/
def EntersBefore (entries : List (String × Registration)) (r s : Registration) : Prop :=
  ∃ before name after, entries = before ++ (name, r) :: after ∧
    ∀ e ∈ before ++ [(name, r)], e.2.serial ≠ s.serial

theorem EntersBefore.cons {e : String × Registration} (h : EntersBefore entries r s)
    (he : e.2.serial ≠ s.serial) : EntersBefore (e :: entries) r s := by
  obtain ⟨before, name, after, rfl, hbefore⟩ := h
  exact ⟨e :: before, name, after, rfl, List.forall_mem_cons.mpr ⟨he, hbefore⟩⟩

/-- **The registrations stand in the order of their first entries.** -/
theorem pairwise_registrationsFrom (seen : List Nat) (entries : List (String × Registration)) :
    (registrationsFrom seen entries).Pairwise (EntersBefore entries) := by
  induction entries generalizing seen with
  | nil => exact List.Pairwise.nil
  | cons e rest ih =>
    obtain ⟨name, r⟩ := e
    -- What comes later has a number that was not seen, and so is no registration of the head.
    have hlater : ∀ seen', r.serial ∈ seen' → ∀ s ∈ registrationsFrom seen' rest,
        r.serial ≠ s.serial := by
      intro seen' hr s hs heq
      have hmem := List.mem_map_of_mem (f := (·.serial)) hs
      exact (mem_serials_registrationsFrom_iff.mp hmem).2 (heq ▸ hr)
    unfold registrationsFrom
    split
    · rename_i hseen
      exact (ih seen).imp_of_mem fun _ hs h => h.cons (hlater seen (by simpa using hseen) _ hs)
    · refine List.pairwise_cons.mpr ⟨fun s hs => ?_, (ih _).imp_of_mem fun _ hs h =>
        h.cons (hlater _ List.mem_cons_self _ hs)⟩
      have hne : r.serial ≠ s.serial := hlater _ List.mem_cons_self s hs
      exact ⟨[], name, rest, rfl, by simpa using hne⟩

/-! ## The order of names -/

/-- The names `keys` are those that came in, each at the place where it came in first. -/
structure InArrivalOrder (keys arrived : List String) : Prop where
  mem_iff : ∀ name, name ∈ keys ↔ name ∈ arrived
  ordered : keys.Pairwise fun a b => arrived.idxOf a < arrived.idxOf b

/-- One more name goes to the end, if it is new. -/
theorem InArrivalOrder.assign {arrived : List String}
    (h : InArrivalOrder (entries.map (·.1)) arrived) (name : String) (r : Registration) :
    InArrivalOrder ((Registry.assign entries name r).map (·.1)) (arrived ++ [name]) := by
  have hordered : (entries.map (·.1)).Pairwise fun a b =>
      (arrived ++ [name]).idxOf a < (arrived ++ [name]).idxOf b := by
    refine h.ordered.imp_of_mem fun {a b} ha hb hlt => ?_
    rwa [List.idxOf_append_of_mem ((h.mem_iff a).mp ha),
      List.idxOf_append_of_mem ((h.mem_iff b).mp hb)]
  rw [keys_assign]
  split
  · rename_i hname
    refine ⟨fun other => ?_, hordered⟩
    rw [List.mem_append, List.mem_singleton, h.mem_iff]
    exact ⟨.inl, fun hother => hother.elim id fun heq => heq ▸ (h.mem_iff name).mp hname⟩
  · rename_i hname
    refine ⟨fun other => by rw [List.mem_append, List.mem_append, h.mem_iff],
      List.pairwise_append.mpr ⟨hordered, List.pairwise_singleton _ _, ?_⟩⟩
    intro a ha b hb
    have ha : a ∈ arrived := (h.mem_iff a).mp ha
    have hnew : name ∉ arrived := fun hmem => hname ((h.mem_iff name).mpr hmem)
    rw [List.mem_singleton.mp hb, List.idxOf_append_of_mem ha, List.idxOf_append_of_notMem hnew]
    exact Nat.lt_add_right _ (List.idxOf_lt_length_iff.mpr ha)

/-- The names of one more grammar come in one by one. -/
theorem InArrivalOrder.register {reg : Registry} {arrived : List String}
    (h : InArrivalOrder (reg.entries.map (·.1)) arrived) (c : Command) :
    InArrivalOrder ((reg.register c).entries.map (·.1)) (arrived ++ c.names) := by
  unfold Registry.register
  dsimp only
  generalize reg.entries = entries at h ⊢
  induction c.names generalizing entries arrived with
  | nil => rwa [List.append_nil]
  | cons name rest ih =>
    rw [List.foldl_cons, List.append_cons]
    exact ih _ (h.assign name _)

/-- **The names of a registry stand in the order in which they came in first.** -/
theorem inArrivalOrder_ofCommands (cs : List Command) :
    InArrivalOrder ((ofCommands cs).entries.map (·.1)) (arrivals cs) := by
  induction cs using List.reverseRecOn with
  | nil => exact ⟨fun _ => Iff.rfl, List.Pairwise.nil⟩
  | append_singleton cs c ih =>
    have harrivals : arrivals (cs ++ [c]) = arrivals cs ++ c.names := by
      unfold arrivals
      rw [List.flatMap_append, List.flatMap_singleton]
    rw [ofCommands_concat, harrivals]
    exact ih.register c

/-! ## What is listed -/

/-- The entries of a registry are its names, each with the last registration that has it. -/
theorem mem_entries_iff : (name, r) ∈ (ofCommands cs).entries ↔ LastNamed cs name r := by
  rw [← lookup_entries_ofCommands]
  constructor
  · intro h
    obtain ⟨before, after, hentries⟩ := List.append_of_mem h
    refine List.lookup_eq_some_iff.mpr ⟨before, after, hentries, fun e he => ?_⟩
    have hnodup := @nodup_keys_registerAll {} List.nodup_nil cs
    rw [← ofCommands, hentries, List.map_append, List.nodup_append] at hnodup
    exact bne_iff_ne.mpr (hnodup.2.2 e.1 (List.mem_map_of_mem he) name List.mem_cons_self).symm
  · intro h
    obtain ⟨before, after, hentries, -⟩ := List.lookup_eq_some_iff.mp h
    rw [hentries]
    exact List.mem_append_cons_self

end Registry

variable {cs : List Command} {c d : Command} {name other : String} {r s : Registration} {i j : Nat}

theorem LastRegistered.unique (h : LastRegistered cs i c) (h' : LastRegistered cs j c) : i = j := by
  rcases Nat.lt_trichotomy i j with hlt | heq | hlt
  · exact absurd h'.1 (h.2 j hlt)
  · exact heq
  · exact absurd h.1 (h'.2 i hlt)

theorem RegisteredBefore.asymm (h : RegisteredBefore cs c d) : ¬ RegisteredBefore cs d c := by
  rintro ⟨i', j', hlt', hd', hc'⟩
  obtain ⟨i, j, hlt, hc, hd⟩ := h
  obtain rfl := hc.unique hc'
  obtain rfl := hd.unique hd'
  exact Nat.lt_asymm hlt hlt'

/-- A registration that is the last one with some name is the last one of its grammar. -/
theorem LastNamed.lastRegistered (h : LastNamed cs name r) :
    LastRegistered cs r.serial r.command :=
  ⟨h.registered, fun j hj hcommand => h.last j r.command hj hcommand h.named⟩

/-- Of one grammar only the last registration can be left. -/
theorem LastNamed.eq_of_command (h : LastNamed cs name r) (h' : LastNamed cs other s)
    (heq : r.command = s.command) : r = s := by
  have hserial : r.serial = s.serial := h.lastRegistered.unique (heq ▸ h'.lastRegistered)
  obtain ⟨serial, command⟩ := r
  obtain ⟨serial', command'⟩ := s
  cases hserial
  cases heq
  rfl

namespace Registry

theorem exists_lastNamed_of_mem (h : r ∈ registrationsFrom [] (ofCommands cs).entries) :
    ∃ name, LastNamed cs name r := by
  obtain ⟨name, hentry⟩ := exists_entry_of_mem h
  exact ⟨name, mem_entries_iff.mp hentry⟩

/-- **A grammar is listed if some name leads to it.** -/
theorem mem_commands_iff :
    c ∈ (ofCommands cs).commands ↔ ∃ name, (ofCommands cs).lookup name = some c := by
  simp only [lookup_ofCommands_eq_some_iff]
  unfold commands
  rw [List.mem_map]
  constructor
  · rintro ⟨r, hr, rfl⟩
    obtain ⟨name, hlast⟩ := exists_lastNamed_of_mem hr
    exact ⟨name, r.serial, hlast⟩
  · rintro ⟨name, i, hlast⟩
    have hserial : i ∈ (registrationsFrom [] (ofCommands cs).entries).map (·.serial) :=
      mem_serials_registrationsFrom_iff.mpr
        ⟨List.mem_map_of_mem (mem_entries_iff.mpr hlast), List.not_mem_nil⟩
    obtain ⟨r, hr, rfl⟩ := List.mem_map.mp hserial
    obtain ⟨other, hother⟩ := exists_lastNamed_of_mem hr
    exact ⟨r, hr, Option.some.inj (hother.registered.symm.trans hlast.registered)⟩

theorem ListedBefore.asymm (h : ListedBefore cs c d) : ¬ ListedBefore cs d c := by
  rintro ⟨other, hother, hall'⟩
  obtain ⟨name, hname, hall⟩ := h
  exact Nat.lt_asymm (hall other hother) (hall' name hname)

/-- The grammar whose entry comes before all entries of another has a name that came in before all
names of that. -/
theorem listedBefore_of_entersBefore (hs : LastNamed cs other s)
    (h : EntersBefore (ofCommands cs).entries r s) : ListedBefore cs r.command s.command := by
  obtain ⟨before, name, after, hentries, hbefore⟩ := h
  have hr : LastNamed cs name r := by
    rw [← mem_entries_iff, hentries]
    exact List.mem_append_cons_self
  refine ⟨name, lookup_ofCommands_eq_some_iff.mpr ⟨r.serial, hr⟩, fun m hm => ?_⟩
  obtain ⟨i, hlast⟩ := lookup_ofCommands_eq_some_iff.mp hm
  have hentry : (m, s) ∈ (ofCommands cs).entries := by
    rw [mem_entries_iff, ← hlast.eq_of_command hs rfl]
    exact hlast
  have hafter : (m, s) ∈ after := by
    rw [hentries, List.append_cons, List.mem_append] at hentry
    exact hentry.resolve_left fun hmem => hbefore _ hmem rfl
  have hordered := (inArrivalOrder_ofCommands cs).ordered
  rw [hentries, List.map_append, List.map_cons] at hordered
  exact (List.pairwise_cons.mp (List.pairwise_append.mp hordered).2.1).1 m
    (List.mem_map_of_mem hafter)

/-- **The grammars stand in the order of the first of their names.** -/
theorem pairwise_listedBefore (cs : List Command) :
    (ofCommands cs).commands.Pairwise (ListedBefore cs) := by
  unfold commands
  refine List.pairwise_map.mpr ((pairwise_registrationsFrom [] _).imp_of_mem fun _ hs h => ?_)
  obtain ⟨other, hother⟩ := exists_lastNamed_of_mem hs
  exact listedBefore_of_entersBefore hother h

theorem nodup_commands (cs : List Command) : (ofCommands cs).commands.Nodup :=
  (pairwise_listedBefore cs).imp fun {c d} (h : ListedBefore cs c d) (heq : c = d) =>
    h.asymm (heq ▸ h)

/-- Of two grammars that are left one was registered before the other. -/
theorem registeredBefore_or_of_mem (hc : c ∈ (ofCommands cs).commands)
    (hd : d ∈ (ofCommands cs).commands) (hne : c ≠ d) :
    RegisteredBefore cs c d ∨ RegisteredBefore cs d c := by
  simp only [mem_commands_iff, lookup_ofCommands_eq_some_iff] at hc hd
  obtain ⟨name, i, hi⟩ := hc
  obtain ⟨other, j, hj⟩ := hd
  rcases Nat.lt_trichotomy i j with hlt | rfl | hlt
  · exact .inl ⟨i, j, hlt, hi.lastRegistered, hj.lastRegistered⟩
  · exact absurd (Option.some.inj (hi.registered.symm.trans hj.registered)) hne
  · exact .inr ⟨j, i, hlt, hj.lastRegistered, hi.lastRegistered⟩

/-- **The grammars that remain are listed once**, each that some name leads to, in the order in which
the first of their names came in. That is the order in which they were last registered exactly if,
of any two of them, the one that was registered first has a name that came in before all names of
the other. -/
theorem remaining_listed_once (cs : List Command) :
    let listed := (ofCommands cs).commands
    (∀ c, c ∈ listed ↔ ∃ name, (ofCommands cs).lookup name = some c) ∧ listed.Nodup ∧
    listed.Pairwise (ListedBefore cs) ∧
    (listed.Pairwise (RegisteredBefore cs) ↔
      ∀ c ∈ listed, ∀ d ∈ listed, RegisteredBefore cs c d → ListedBefore cs c d) := by
  intro listed
  have hlisted : listed.Pairwise (ListedBefore cs) := pairwise_listedBefore cs
  refine ⟨fun c => mem_commands_iff, nodup_commands cs, hlisted, fun hordered => ?_,
    fun hall => ?_⟩
  · -- Of two grammars the one that is listed first is registered first, and no other is.
    have hforth : listed.Pairwise fun c d => RegisteredBefore cs c d → ListedBefore cs c d :=
      hlisted.imp fun {c d} h (_ : RegisteredBefore cs c d) => h
    have hback : listed.Pairwise fun c d => RegisteredBefore cs d c → ListedBefore cs d c :=
      hordered.imp fun {c d} h (hafter : RegisteredBefore cs d c) => absurd hafter h.asymm
    have hself : ∀ c ∈ listed, RegisteredBefore cs c c → ListedBefore cs c c :=
      fun c _ h => absurd h h.asymm
    exact List.Pairwise.forall_of_forall_of_flip hself hforth hback
  · refine (hlisted.and (nodup_commands cs)).imp_of_mem fun {c d} hc hd h => ?_
    rcases registeredBefore_or_of_mem hc hd h.2 with hbefore | hafter
    · exact hbefore
    · exact absurd (hall d hd c hc hafter) h.1.asymm

/-- **A grammar that takes over a name is listed in the place of that name.** The first grammar is
left with its other name, so both remain, and the second one comes first. -/
theorem taken_over_listed_first :
    let first : Command := { names := ["git", "g"] }
    let second : Command := { names := ["git"] }
    let reg := ofCommands [first, second]
    reg.lookup "g" = some first ∧ reg.lookup "git" = some second ∧
      RegisteredBefore [first, second] first second ∧ reg.commands = [second, first] ∧
      ¬ reg.commands.Pairwise (RegisteredBefore [first, second]) := by
  intro first second reg
  have hne : second ≠ first := fun h => by cases congrArg (·.names.length) h
  have hfirst : LastRegistered [first, second] 0 first := by
    refine ⟨rfl, fun j hj hfound => ?_⟩
    match j with
    | 1 => exact hne (Option.some.inj hfound)
    | _ + 2 => cases hfound
  have hsecond : LastRegistered [first, second] 1 second := by
    refine ⟨rfl, fun j hj hfound => ?_⟩
    match j with
    | _ + 2 => cases hfound
  have hbefore : RegisteredBefore [first, second] first second :=
    ⟨0, 1, Nat.zero_lt_one, hfirst, hsecond⟩
  have hlisted : reg.commands = [second, first] := rfl
  refine ⟨rfl, rfl, hbefore, hlisted, fun hordered => ?_⟩
  rw [hlisted] at hordered
  exact hbefore.asymm ((List.pairwise_cons.mp hordered).1 first List.mem_cons_self)

end Registry

end TabCompletion
