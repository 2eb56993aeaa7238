import TabCompletion.Proofs.Distinct
import TabCompletion.Proofs.Walk.Agreement

/-!
# What is offered goes on from what is typed

Every source filters by the text of the token under the cursor, each for itself. Folders and files
are filtered by the part after the last slash only, and the part before it is put in front of their
names again. Where the strategy in force is not fuzzy, what passes a filter starts with the typed
text (`Candidate.Extends`), and so does everything that a line offers.

Results:
* `Query.Gives`: what all answers of a query have in common, part by part.
* `exists_cutAtSlash`, `splitPath_of_cut`: a typed path is cut after its last slash (`CutAtSlash`).
* `generated_gives`, `paths_gives`, `sourced_gives`, `contributed_gives`: the sources, one by one
  and then together at a position.
* `typed_of_walk`: the text that filters where a walk stops is that of the last token.
* **`suggestions_extend`**: what a line offers goes on from its last token, by the strategy of the
  place that the line leads to (`Registry.strategy?`).
-/

namespace TabCompletion

/-! ## What queries answer with -/

namespace Query

variable {α β : Type} {context : Context}

/-- Whatever the query answers with in a context satisfies `P`. -/
def Gives (q : Query α) (context : Context) (P : α → Prop) : Prop :=
  ∀ memory a, (q.answer context memory).1 = .ok a → P a

theorem gives_pure {P : α → Prop} {a : α} (h : P a) : (pure a : Query α).Gives context P := by
  intro memory b hb
  obtain rfl := Except.ok.inj hb
  exact h

theorem gives_read_bind {P : β → Prop} {next : Context → Query β}
    (h : (next context).Gives context P) : (read >>= next).Gives context P := h

/-- A sequence answers with what its last query answers with. -/
theorem gives_bind {P : α → Prop} {Q : β → Prop} {q : Query α} {next : α → Query β}
    (hq : q.Gives context P) (hnext : ∀ a, P a → (next a).Gives context Q) :
    (q >>= next).Gives context Q := by
  intro memory b hb
  rw [answer_bind] at hb
  rcases hanswer : q.answer context memory with ⟨r, after⟩
  rw [hanswer] at hb
  cases r with
  | ok a =>
    have ha : P a := hq memory a (by rw [hanswer])
    exact hnext a ha after b hb
  | error f => cases hb

/-- Nothing is known of what any query answers with. -/
theorem gives_any (q : Query α) (context : Context) : q.Gives context fun _ => True :=
  fun _ _ _ => trivial

end Query

/-! ## The filter -/

/-- The name of the candidate starts with the typed text. -/
def Candidate.Extends (cand : Candidate) (typed : Option String) : Prop :=
  (typed.getD "").toList <+: cand.name.toList

variable {settings : Settings} {s : Strategy} {typed : Option String} {cand : Candidate}
  {reg : Registry} {context : Context} {memory : Memory}

theorem startsWith_iff {text start : String} :
    startsWith text start = true ↔ start.toList <+: text.toList := by
  unfold startsWith
  exact List.isPrefixOf_iff_prefix

/-- A name that passes a filter by leading text starts with it. -/
theorem prefix_of_admits {name : String} (hs : settings.effective s ≠ .fuzzy)
    (h : settings.admits s typed name = true) : (typed.getD "").toList <+: name.toList := by
  unfold Settings.admits at h
  split at h
  · exact List.nil_prefix
  · exact List.nil_prefix
  · rw [if_neg hs] at h
    exact startsWith_iff.mp h

/-! ## Children, options, listed values and root commands -/

theorem extends_of_mem_nodeCandidates {l : Level} (hs : settings.effective s ≠ .fuzzy)
    (h : cand ∈ l.nodeCandidates settings s typed) : cand.Extends typed := by
  rcases List.mem_append.mp h with hchild | hoption
  · obtain ⟨d, -, hd⟩ := List.mem_filterMap.mp hchild
    exact prefix_of_admits hs (admits_of_offerNode hd)
  · obtain ⟨o, -, ho⟩ := List.mem_filterMap.mp hoption
    exact prefix_of_admits hs (admits_of_offerNode ho)

theorem extends_of_mem_listed {a : Arg} (hs : settings.effective s ≠ .fuzzy)
    (h : cand ∈ a.listed settings typed s) : cand.Extends typed := by
  obtain ⟨v, hv, rfl⟩ := List.mem_map.mp h
  exact prefix_of_admits hs (List.mem_filter.mp hv).2

theorem extends_of_mem_rootCandidates (hs : settings.effective s ≠ .fuzzy)
    (h : cand ∈ reg.candidates settings typed s) : cand.Extends typed := by
  obtain ⟨name, hname, rfl⟩ := List.mem_map.mp h
  exact prefix_of_admits hs (List.mem_filter.mp hname).2

/-! ## Folders and files -/

/-- A text is cut after its last slash: the directory part is empty or ends in a slash, and there is
none in the base. -/
structure CutAtSlash (text directoryPart base : String) : Prop where
  whole : directoryPart ++ base = text
  slash : directoryPart = "" ∨ ∃ above, directoryPart = above ++ "/"
  noSlash : '/' ∉ base.toList

/-- Every text can be cut. -/
theorem exists_cutAtSlash (text : String) :
    ∃ directoryPart base, CutAtSlash text directoryPart base := by
  refine ⟨String.ofList (text.toList.reverse.dropWhile (· ≠ '/')).reverse,
    String.ofList (text.toList.reverse.takeWhile (· ≠ '/')).reverse, ?_, ?_, ?_⟩
  · rw [← String.ofList_append, ← List.reverse_append, List.takeWhile_append_dropWhile,
      List.reverse_reverse, String.ofList_toList]
  · cases hdrop : text.toList.reverse.dropWhile (· ≠ '/') with
    | nil => exact .inl rfl
    | cons c above =>
      have hc : c = '/' := by
        have hhead := List.head?_dropWhile_not (· ≠ '/') text.toList.reverse
        rw [hdrop] at hhead
        simpa using hhead
      refine .inr ⟨String.ofList above.reverse, ?_⟩
      rw [hc, List.reverse_cons, String.ofList_append]
  · rw [String.toList_ofList, List.mem_reverse]
    intro hmem
    simpa using List.mem_takeWhile_imp hmem

/-- **Where the typed text is cut.** -/
theorem splitPath_of_cut {directoryPart base : String}
    (h : CutAtSlash (typed.getD "") directoryPart base) :
    splitPath typed = (directoryPart, base) := by
  have hwhole : (typed.getD "").toList = directoryPart.toList ++ base.toList := by
    rw [← h.whole, String.toList_append]
  -- read backwards, the base ends where the directory part begins with its slash
  have hslash : directoryPart.toList.reverse.takeWhile (· ≠ '/') = [] := by
    rcases h.slash with rfl | ⟨above, rfl⟩
    · rfl
    · rw [String.toList_append, List.reverse_append]
      rfl
  have hbase : ((typed.getD "").toList.reverse.takeWhile (· ≠ '/')).reverse = base.toList := by
    have hnoSlash : ∀ c ∈ base.toList.reverse, decide (c ≠ '/') = true := by
      intro c hc
      rw [List.mem_reverse] at hc
      exact decide_eq_true fun heq => h.noSlash (heq ▸ hc)
    rw [hwhole, List.reverse_append, List.takeWhile_append_of_pos hnoSlash, hslash,
      List.append_nil, List.reverse_reverse]
  unfold splitPath
  dsimp only
  rw [hbase, hwhole, List.length_append, Nat.add_sub_cancel, List.take_left, String.ofList_toList,
    String.ofList_toList]

/-- The two parts of a typed path are the typed text. -/
theorem splitPath_append (typed : Option String) :
    (splitPath typed).1.toList ++ (splitPath typed).2.toList = (typed.getD "").toList := by
  obtain ⟨directoryPart, base, h⟩ := exists_cutAtSlash (typed.getD "")
  rw [splitPath_of_cut h, ← String.toList_append, h.whole]

/-- A name that is shown for the part after the last slash passes its filter. -/
theorem admits_of_shows {base name : String} (h : settings.shows s base name = true) :
    settings.admits s (some base) name = true :=
  (Bool.and_eq_true_iff.mp h).2

/-- Candidates for the entries that are shown, whose names start with directory part and entry. -/
theorem extends_of_mem_entries {names : List String} {make : String → Candidate}
    (hs : settings.effective s ≠ .fuzzy)
    (hmake : ∀ name, (splitPath typed).1.toList ++ name.toList <+: (make name).name.toList)
    (h : cand ∈ (names.filter (settings.shows s (splitPath typed).2)).map make) :
    cand.Extends typed := by
  obtain ⟨name, hname, rfl⟩ := List.mem_map.mp h
  have hbase : ((some (splitPath typed).2).getD "").toList <+: name.toList :=
    prefix_of_admits hs (admits_of_shows (List.mem_filter.mp hname).2)
  unfold Candidate.Extends
  rw [← splitPath_append]
  exact ((List.prefix_append_right_inj _).mpr hbase).trans (hmake name)

theorem extends_of_mem_listing {l : Listing} {withFiles : Bool}
    (hs : settings.effective s ≠ .fuzzy)
    (h : cand ∈ l.candidates settings s withFiles (splitPath typed).1 (splitPath typed).2) :
    cand.Extends typed := by
  have hfolder : ∀ directory name : String,
      directory.toList ++ name.toList <+: (directory ++ name ++ "/").toList := by
    intro directory name
    rw [String.toList_append, String.toList_append]
    exact List.prefix_append _ _
  have hfile : ∀ directory name : String,
      directory.toList ++ name.toList <+: (directory ++ name).toList := by
    intro directory name
    have happend : (directory ++ name).toList = directory.toList ++ name.toList :=
      String.toList_append
    exact ⟨[], by rw [List.append_nil, happend]⟩
  unfold Listing.candidates at h
  dsimp only at h
  split at h
  · rcases List.mem_append.mp h with h | h
    · refine extends_of_mem_entries hs (fun name => ?_) h
      exact hfolder _ name
    · refine extends_of_mem_entries hs (fun name => ?_) h
      exact hfile _ name
  · refine extends_of_mem_entries hs (fun name => ?_) h
    exact hfolder _ name

/-! ## The sources of an argument -/

/-- All candidates that the query answers with start with the typed text. -/
abbrev Query.GivesExtensions (q : Query (List Candidate)) (context : Context)
    (typed : Option String) : Prop :=
  q.Gives context fun cands => ∀ cand ∈ cands, cand.Extends typed

theorem generated_gives (a : Arg) (hs : context.settings.effective s ≠ .fuzzy)
    (accepted : List Accepted) : (a.generated typed s accepted).GivesExtensions context typed := by
  unfold Arg.generated
  cases a.generator with
  | none => exact Query.gives_pure (List.forall_mem_nil _)
  | some g =>
    refine Query.gives_read_bind (Query.gives_bind (Query.gives_any _ _) fun offered _ => ?_)
    refine Query.gives_pure fun cand hcand => ?_
    exact prefix_of_admits hs (List.mem_filter.mp hcand).2

theorem paths_gives (a : Arg) (hs : context.settings.effective s ≠ .fuzzy) :
    (a.paths typed s).GivesExtensions context typed := by
  unfold Arg.paths Arg.pathsFrom
  split
  · exact Query.gives_pure (List.forall_mem_nil _)
  · refine Query.gives_read_bind (Query.gives_bind (Query.gives_any _ _) fun start _ => ?_)
    refine Query.gives_bind (Query.gives_any _ _) fun path _ => ?_
    refine Query.gives_bind (Query.gives_any _ _) fun l _ => ?_
    exact Query.gives_pure fun cand hcand => extends_of_mem_listing hs hcand

theorem sourced_gives (a : Arg) (hs : context.settings.effective s ≠ .fuzzy)
    (accepted : List Accepted) : (a.sourced typed s accepted).GivesExtensions context typed := by
  unfold Arg.sourced
  refine Query.gives_read_bind (Query.gives_bind (generated_gives a hs accepted) ?_)
  intro generated hgenerated
  refine Query.gives_bind (paths_gives a hs) fun paths hpaths => Query.gives_pure ?_
  intro cand hcand
  rcases List.mem_append.mp hcand with hcand | hcand
  · rcases List.mem_append.mp hcand with hcand | hcand
    · exact hgenerated cand hcand
    · exact extends_of_mem_listed hs hcand
  · exact hpaths cand hcand

theorem argCandidates_gives (a : Arg) (hs : context.settings.effective s ≠ .fuzzy)
    (accepted : List Accepted) :
    (a.candidates reg.roots typed s accepted).GivesExtensions context typed := by
  unfold Arg.candidates
  refine Query.gives_read_bind (Query.gives_bind (sourced_gives a hs accepted) ?_)
  intro sourced hsourced
  refine Query.gives_pure fun cand hcand => ?_
  split at hcand
  · exact (List.mem_append.mp hcand).elim (hsourced cand) (extends_of_mem_rootCandidates hs)
  · exact hsourced cand hcand

/-- **What the sources contribute at a position** starts with the typed text. -/
theorem contributed_gives (p : Position) (hs : context.settings.effective p.strategy ≠ .fuzzy) :
    (p.contributed reg.roots typed).GivesExtensions context typed := by
  have hvalues : (p.values reg.roots typed).GivesExtensions context typed := by
    unfold Position.values
    cases p.asked? with
    | none => exact Query.gives_pure (List.forall_mem_nil _)
    | some a => exact argCandidates_gives a hs _
  unfold Position.contributed
  refine Query.gives_read_bind (Query.gives_bind hvalues fun values hvalues => ?_)
  refine Query.gives_pure fun cand hcand => ?_
  rw [nodes_eq] at hcand
  rcases List.mem_append.mp hcand with hcand | hcand
  · exact hvalues cand hcand
  · split at hcand
    · exact extends_of_mem_nodeCandidates hs hcand
    · exact absurd hcand List.not_mem_nil

/-- What is left of some candidates without repeats is among them. -/
theorem mem_of_mem_distinct {accepted : List Accepted} {cands : List Candidate}
    (h : cand ∈ distinct accepted cands) : cand ∈ cands :=
  List.mem_of_find?_eq_some (mem_distinctFrom_iff.mp h).1

theorem extends_of_mem_offer {p : Position} {offer : Offer}
    (hs : context.settings.effective p.strategy ≠ .fuzzy)
    (h : ((p.offer reg.roots typed).answer context memory).1 = .ok offer) :
    ∀ cand ∈ offer.candidates, cand.Extends typed := by
  obtain ⟨contributed, hcontributed, rfl⟩ := exists_contributed h
  intro cand hcand
  exact contributed_gives p hs memory contributed hcontributed cand (mem_of_mem_distinct hcand)

/-! ## The token that filters -/

/-- Every token before the last one is complete. -/
theorem complete_of_mem_dropLast {o : Option Pending} {cs : List Char} {t : Token}
    (h : t ∈ (tokensFrom o cs).dropLast) : t.complete = true := by
  fun_induction tokensFrom o cs with
  | case1 => exact absurd h List.not_mem_nil
  | case2 p => exact absurd h List.not_mem_nil
  | case3 c rest hb ih => exact ih h
  | case4 c rest hb ih => exact ih h
  | case5 p c rest he ih =>
    cases hrest : tokensFrom none rest with
    | nil =>
      rw [hrest] at h
      exact absurd h List.not_mem_nil
    | cons next more =>
      rw [hrest, List.dropLast_cons_cons] at h
      rcases List.mem_cons.mp h with rfl | h
      · rfl
      · exact ih (hrest ▸ h)
  | case6 p c rest he ih => exact ih h

/-- **Where a walk stops, the last token filters**, if it is not complete and those before it
are. -/
theorem typed_of_walk {roots : String → Option Command} {p q : Position} {ts : List Token}
    {t : Token} (hbefore : ∀ u ∈ ts.dropLast, u.complete = true)
    (hlast : ts.getLast? = some t) (hopen : t.complete = false)
    (h : walk roots p ts = .reached q typed) : typed = some t.text := by
  induction ts generalizing p with
  | nil => cases hlast
  | cons u rest ih =>
    cases rest with
    | nil =>
      rw [List.getLast?_singleton] at hlast
      obtain rfl := Option.some.inj hlast
      rw [walk, hopen, if_neg Bool.false_ne_true] at h
      cases h
      rfl
    | cons next more =>
      have hcomplete : u.complete = true := hbefore u List.mem_cons_self
      have hrest : ∀ v ∈ (next :: more).dropLast, v.complete = true := fun v hv =>
        hbefore v (List.mem_cons_of_mem u hv)
      rw [List.getLast?_cons_cons] at hlast
      rw [walk, if_pos hcomplete] at h
      split at h
      · cases h
      · exact ih hrest hlast h
      · exact ih hrest hlast h

/-! ## Whole lines -/

/-- The strategy where the walk of a command ends. -/
def Stop.strategy? : Stop → Option Strategy
  | .nowhere | .noToken => none
  | .reached p _ => some p.strategy

/-- The strategy by which the tokens of a line filter: none of its own while the first token is
typed, after that the one of the place that the walk leads to, if it leads to one. -/
def Registry.strategy? (reg : Registry) : List Token → Option Strategy
  | [] => none
  | first :: rest =>
    if first.complete then
      (reg.lookup first.text).bind fun c => (c.walk reg.lookup rest).strategy?
    else some .unset

/-- What the tokens of a line offer. -/
theorem extends_of_offerForTokens {ts : List Token} {t : Token} {offer : Offer}
    (hbefore : ∀ u ∈ ts.dropLast, u.complete = true) (hlast : ts.getLast? = some t)
    (hopen : t.complete = false)
    (hs : ∀ s ∈ reg.strategy? ts, context.settings.effective s ≠ .fuzzy)
    (h : ((reg.offerForTokens ts).answer context memory).1 = .ok offer) :
    ∀ cand ∈ offer.candidates, cand.Extends (some t.text) := by
  cases ts with
  | nil => cases hlast
  | cons first rest =>
    unfold Registry.offerForTokens at h
    unfold Registry.strategy? at hs
    dsimp only at h hs
    cases hc : first.complete with
    | false =>
      -- the first token is the only one
      have hrest : rest = [] := by
        cases rest with
        | nil => rfl
        | cons next more => exact absurd (hbefore first List.mem_cons_self) (by simp [hc])
      subst hrest
      obtain rfl := Option.some.inj hlast
      rw [hc, if_neg Bool.false_ne_true] at h hs
      obtain rfl := Except.ok.inj h
      exact fun cand hcand => extends_of_mem_rootCandidates (hs _ rfl) hcand
    | true =>
      rw [hc, if_pos rfl] at h hs
      cases hlookup : reg.lookup first.text with
      | none =>
        rw [hlookup] at h
        obtain rfl := Except.ok.inj h
        exact List.forall_mem_nil _
      | some c =>
        rw [hlookup] at h hs
        dsimp only at h
        rw [Option.bind_some] at hs
        unfold Command.offer at h
        cases hstop : c.walk reg.lookup rest with
        | nowhere | noToken =>
          have hwalk : c.walk reg.roots.lookup rest = _ := hstop
          rw [hwalk] at h
          obtain rfl := Except.ok.inj h
          exact List.forall_mem_nil _
        | reached p typed =>
          have hwalk : c.walk reg.roots.lookup rest = _ := hstop
          rw [hwalk] at h
          rw [hstop] at hs
          -- the last token comes after the first one, which is complete
          have hrest : rest ≠ [] := by
            rintro rfl
            obtain rfl := Option.some.inj hlast
            exact Bool.false_ne_true (hopen.symm.trans hc)
          obtain ⟨next, more, rfl⟩ := List.exists_cons_of_ne_nil hrest
          rw [List.getLast?_cons_cons] at hlast
          have htyped : typed = some t.text := typed_of_walk
            (fun u hu => hbefore u (List.mem_cons_of_mem first hu)) hlast hopen hstop
          subst htyped
          exact extends_of_mem_offer (hs _ rfl) h

/-- **What a line offers goes on from what is typed.** If the last token of a line is not complete,
and the strategy in force where the line leads to is not fuzzy, then every name that is offered
starts with the text of that token, whichever source it comes from. -/
theorem suggestions_extend (reg : Registry) {line : String} {t : Token}
    (hlast : (tokens line).getLast? = some t) (hopen : t.complete = false) {context : Context}
    (hs : ∀ s ∈ reg.strategy? (tokens line), context.settings.effective s ≠ .fuzzy)
    (memory : Memory) {offer : Offer} {replaced : Nat}
    (h : ((reg.offerFor line).answer context memory).1 = .ok (offer, replaced)) :
    ∀ cand ∈ offer.candidates, t.text.toList <+: cand.name.toList := by
  obtain ⟨offer', hoffer, heq⟩ := Query.exists_answer_of_bind_pure h
  cases heq
  exact extends_of_offerForTokens (fun u hu => complete_of_mem_dropLast hu) hlast hopen hs hoffer

/-- A world with a repository of two branches. -/
def twoBranches : Context where
  host := {
    home := "/"
    workingDir := { path := "/" }
    outcome := fun s _ =>
      if s = .program ["git", "branch", "--no-color"] then .finished "* main\n  topic\n" 0
      else s.missing }

/-- After `git checkout 'm` the branch `main` is offered: what is typed is `m`, without the quote. -/
theorem suggestions_extend_quoted :
    let reg := Registry.ofCommands Shipped.commands
    let line := "git checkout 'm"
    let m : Token := { text := "m", complete := false, isOption := false, rawLength := 2 }
    let main : Candidate := { name := "main", kind := .arg, description := .text "branch" }
    (tokens line).getLast? = some m ∧
    (∀ s ∈ reg.strategy? (tokens line), twoBranches.settings.effective s ≠ .fuzzy) ∧
    ((reg.offerFor line).answer twoBranches {}).1 = .ok ({ candidates := [main] }, 2) ∧
    m.text.toList <+: main.name.toList := by
  intro reg line m main
  have hlast : (tokens line).getLast? = some m := by decide
  have hstrategy : (Registry.ofCommands Shipped.commands).strategy? (tokens "git checkout 'm") =
      some .unset := by
    rfl
  have hs : ∀ s ∈ reg.strategy? (tokens line), twoBranches.settings.effective s ≠ .fuzzy := by
    intro s h
    obtain rfl := Option.some.inj (hstrategy.symm.trans h)
    decide
  have hoffer : ((reg.offerFor line).answer twoBranches {}).1 =
      .ok ({ candidates := [main] }, 2) := by
    decide
  exact ⟨hlast, hs, hoffer, suggestions_extend reg hlast rfl hs {} hoffer main List.mem_cons_self⟩

end TabCompletion
