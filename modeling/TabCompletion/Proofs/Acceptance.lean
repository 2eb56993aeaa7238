import TabCompletion.Completion
import TabCompletion.Grammar.Shipped
import TabCompletion.Proofs.CommandLine
import TabCompletion.Proofs.CommandLine.Segmentation
import TabCompletion.Proofs.Engine

/-!
# Accepted suggestions

To accept a suggestion is to type its name and a space in the place of the word under the cursor.
The name is typed as it is, without quotes, so that it is read back if it can be typed that way, and
never otherwise: where it has a blank, a quote, a backslash or a delimiter in it, the line is read
in another way.

* `Slot.Reachable` are the slots that asking lines leads to. Kept or computed, an answer replaces
  the word under the cursor (`replaced_of_ask`).
* `exists_segmentFrom_completed`: what is typed there is read behind the tokens that are complete.
* `plainWord_of_read`: a name that is read back is a plain word.
* **`accepted_read_iff`**: an accepted suggestion is read back exactly if its name is a plain word.
-/

namespace TabCompletion

/-! ## Accepting -/

/-- A line with another text in the place of so many characters at its end. -/
def retyped (line : String) (replaced : Nat) (typed : List Char) : String :=
  String.ofList (line.toList.rdrop replaced ++ typed)

/-- The line after a completion is inserted into it. -/
def Completion.insertInto (c : Completion) (line : String) : String :=
  retyped line (-c.start).toNat c.text.toList

/-- The line after a suggestion of its answer is accepted: the name of the suggestion and a space
are in the place of the characters that the answer says. -/
def Answer.accept (a : Answer) (line : String) (s : Suggestion) : String :=
  retyped line a.replaced.toNat (s.name.toList ++ [' '])

/-- A prompt that takes the completion of a suggestion accepts the suggestion. -/
theorem insertInto_completion {a : Answer} {s : Suggestion} {c : Completion}
    (h : s.completion a.replaced = .ok c) (line : String) :
    c.insertInto line ++ " " = a.accept line s := by
  unfold Suggestion.completion at h
  cases hnote : s.description.noteText with
  | error f =>
    rw [hnote] at h
    cases h
  | ok note =>
    rw [hnote] at h
    obtain rfl := Except.ok.inj h
    apply String.toList_injective
    simp [Completion.insertInto, Answer.accept, retyped]

/-! ## The characters that an answer replaces -/

variable {reg : Registry} {slot : Slot} {line name : String} {context : Context}
  {memory : Memory} {e : Engine} {a : Answer}

/-- The slots that asking lines leads to, whatever the registries, the settings and the hosts. -/
inductive Slot.Reachable : Slot → Prop
  | empty : Reachable none
  | asked {e : Engine} (reg : Registry) (context : Context) (line : String) :
      Reachable e.slot → Reachable (e.ask reg context line).2.slot

/-- An answer that is computed is the answer to its line, and replaces the word under the cursor. -/
theorem replaced_of_answer (h : ((reg.answer line).answer context memory).1 = .ok a) :
    a.line = line ∧ a.replaced = replacedBy (tokens line) := by
  unfold Registry.answer at h
  rw [Query.answer_bind] at h
  rcases hoffer : (reg.offerFor line).answer context memory with ⟨r, after⟩
  rw [hoffer] at h
  cases r with
  | error f => cases h
  | ok found =>
    obtain ⟨offer, replaced⟩ := found
    obtain rfl := replaced_of_offerFor (congrArg Prod.fst hoffer)
    dsimp only at h
    rw [Query.answer_bind, Query.answer_read] at h
    dsimp only at h
    split at h
    · obtain rfl := Except.ok.inj h
      exact ⟨rfl, rfl⟩
    · cases h

/-- The answer that is kept replaces the word under the cursor of its line. -/
theorem Slot.Reachable.replaced (h : slot.Reachable) (hslot : slot = some a) :
    a.replaced = replacedBy (tokens a.line) := by
  induction h generalizing a with
  | empty => cases hslot
  | asked reg context line _ ih =>
    rcases ask_cases reg context _ line with ⟨kept, -, -, hask⟩ | ⟨computed, hcomputed, -, hkept⟩ |
      ⟨f, -, hsame⟩
    · rw [hask] at hslot
      exact ih hslot
    · obtain rfl := Option.some.inj (hkept.symm.trans hslot)
      obtain ⟨rfl, hreplaced⟩ := replaced_of_answer hcomputed
      exact hreplaced
    · exact ih (hsame.symm.trans hslot)

/-- **An answer replaces the word under the cursor**, kept or computed. -/
theorem replaced_of_ask (hslot : e.slot.Reachable) (h : (e.ask reg context line).1 = .ok a) :
    a.replaced = replacedBy (tokens line) := by
  rcases ask_cases reg context e line with ⟨kept, hkept, rfl, hask⟩ |
    ⟨computed, hcomputed, hanswer, -⟩ | ⟨f, hfault, -⟩
  · rw [hask] at h
    obtain rfl := Except.ok.inj h
    exact hslot.replaced hkept
  · obtain rfl := Except.ok.inj (hanswer.symm.trans h)
    exact (replaced_of_answer hcomputed).2
  · cases hfault.symm.trans h

/-! ## What is typed in their place -/

variable {cs : List Char} {p : Pending} {t : Token}

/-- **What is typed in the place of the word under the cursor** is read behind a text that has no
delimiter, is apart from it, and is read as the tokens that are complete. -/
theorem exists_segmentFrom_completed (line : String) :
    ∃ done, DelimiterFree done ∧ (∀ typed, Apart done typed) ∧
      (∀ typed, segmentFrom [] (line.toList.rdrop (replacedBy (tokens line)) ++ typed) =
        segmentFrom [] (done ++ typed)) ∧
      ∀ typed, tokensFrom none (done ++ typed) =
        (tokens line).filter (·.complete) ++ tokensFrom none typed := by
  obtain ⟨before, lead, done, hline, hcut, hfree, hspaced, hgaps, hdone⟩ := exists_completed line
  refine ⟨spelled lead done, hfree, fun typed => ?_, fun typed => ?_, fun typed => ?_⟩
  · exact apart_of_blank_left (blank_of_getLast?_spelled hspaced hgaps) typed
  · rw [hline, List.append_assoc, hcut]
  · exact tokensFrom_spelled_append hdone hspaced (.inr hgaps)

/-- A text without delimiters is read as it is read alone. -/
theorem tokens_typed {typed : List Char} (h : DelimiterFree typed) :
    tokens (retyped line (replacedBy (tokens line)) typed) =
      (tokens line).filter (·.complete) ++ tokensFrom none typed := by
  obtain ⟨done, hfree, hapart, hsegment, htokens⟩ := exists_segmentFrom_completed line
  rw [tokens, retyped, String.toList_ofList, hsegment,
    segmentFrom_of_delimiterFree (delimiterFree_append hfree h (hapart typed)), ← htokens]
  rfl

/-- Of a text with delimiters only a part that is shorter is read. -/
theorem exists_tokens_typed (line : String) {typed : List Char} (h : ¬ DelimiterFree typed) :
    ∃ rest, rest.length < typed.length ∧
      tokens (retyped line (replacedBy (tokens line)) typed) = tokensFrom none rest := by
  obtain ⟨done, hfree, hapart, hsegment, -⟩ := exists_segmentFrom_completed line
  obtain ⟨before, d, rest, hd, rfl, hcut⟩ := exists_delimiter h
  refine ⟨segmentFrom [] rest, ?_, ?_⟩
  · have hle := (segmentFrom_suffix rest).length_le
    have hpos := (length_of_delimiter hd).1
    simp only [List.length_append]
    omega
  · rw [tokens, retyped, String.toList_ofList, hsegment, segmentFrom_append hfree (hapart _), hcut]

/-! ## Names that are read back -/

/-- A character that is read into a token outside quotes, and becomes a character of its text, is
plain. -/
theorem isPlain_of_feed {c : Char} (hp : p.mode = .plain) (hend : p.endsAt c = false)
    (h : p.text.length < (p.feed c).text.length) : IsPlain c := by
  refine ⟨?_, ?_, ?_, ?_⟩
  · rw [Pending.endsAt, hp] at hend
    exact hend
  all_goals
    rintro rfl
    simp [Pending.feed, hp] at h

/-- If all characters that were read are characters of the text, they are plain. -/
theorem isPlain_of_reads {q : Pending} (h : p.Reads cs q) (hp : p.mode = .plain)
    (hlength : q.text.length = p.text.length + cs.length) : ∀ c ∈ cs, IsPlain c := by
  induction h with
  | nil => exact nofun
  | @cons p c cs q hend hreads ih =>
    have hrest := hreads.text_length_le
    have hfeed := p.feed_text_length_le c
    rw [List.length_cons] at hlength
    have hc : IsPlain c := isPlain_of_feed hp hend (by omega)
    have hmode : (p.feed c).mode = .plain := by rw [feed_of_plain hp hc, hp]
    intro d hd
    rcases List.mem_cons.mp hd with rfl | hd
    · exact hc
    · exact ih hmode (by omega) d hd

/-- A token that is complete is shorter than the text that it is read from: there is a blank too. -/
theorem text_length_lt_of_complete (h : t ∈ tokensFrom none cs) (hc : t.complete = true) :
    t.text.toList.length < cs.length := by
  obtain ⟨lead, pieces, -, rfl, hpieces⟩ := exists_spelled cs
  obtain ⟨p, hp, htyped, hgap⟩ := exists_isFor_of_mem hpieces h
  have hle := (text_infix_spelled lead hp).length_le
  have hpos := List.length_pos_iff.mpr (hgap.mp hc)
  have htext := htyped.text_length_le
  rw [Piece.text, List.length_append] at hle
  omega

/-- A name that is read back from itself and a space is plain. -/
theorem isPlain_of_read (h : tokensFrom none (cs ++ [' ']) = [t]) (hc : t.complete = true)
    (ht : t.text.toList = cs) : cs ≠ [] ∧ ∀ c ∈ cs, IsPlain c := by
  obtain ⟨lead, pieces, -, hspelled, hpieces⟩ := exists_spelled (cs ++ [' '])
  rw [h] at hpieces
  obtain ⟨p, rest, hp, hrest, rfl⟩ := List.forall₂_cons_right_iff.mp hpieces
  obtain rfl := List.forall₂_nil_right_iff.mp hrest
  -- the word and a blank behind it take all the characters
  have hpos := List.length_pos_iff.mpr (hp.2.mp hc)
  have htext := hp.1.text_length_le
  have hsum := congrArg List.length hspelled
  simp only [spelled, Piece.text, List.flatMap_cons, List.flatMap_nil, List.append_nil,
    List.length_append, List.length_singleton] at hsum
  rw [ht] at htext
  obtain rfl : lead = [] := List.eq_nil_of_length_eq_zero (by omega)
  have hraw : cs = p.raw := by
    simp only [spelled, Piece.text, List.flatMap_cons, List.flatMap_nil, List.append_nil,
      List.nil_append] at hspelled
    exact (List.append_inj hspelled (by omega)).1
  obtain ⟨q, hne, hreads, htoken⟩ := hp.1.exists_reads
  rw [← hraw] at hne hreads
  refine ⟨hne, isPlain_of_reads hreads rfl ?_⟩
  rw [← ht, htoken, Pending.token, String.toList_ofList, List.length_reverse]
  simp

/-- **A name that is read back is a plain word.** -/
theorem plainWord_of_read (ht : t.text = name) (hc : t.complete = true)
    (h : tokens (retyped line (replacedBy (tokens line)) (name.toList ++ [' '])) =
      (tokens line).filter (·.complete) ++ [t]) : PlainWord name := by
  by_cases hfree : DelimiterFree (name.toList ++ [' '])
  · rw [tokens_typed hfree] at h
    obtain ⟨hne, hplain⟩ := isPlain_of_read (List.append_cancel_left h) hc (congrArg _ ht)
    refine ⟨fun hempty => hne (by rw [hempty]; rfl), hplain, fun d hd hin => ?_⟩
    exact hfree d hd (hin.trans (List.prefix_append _ _).isInfix)
  · obtain ⟨rest, hlength, htokens⟩ := exists_tokens_typed line hfree
    rw [htokens] at h
    have hlt := text_length_lt_of_complete (h ▸ List.mem_append_right _ List.mem_cons_self) hc
    rw [ht] at hlt
    rw [List.length_append, List.length_singleton] at hlength
    omega

/-- A plain word and a space are read as that word. -/
theorem tokens_plainWord (line : String) (h : PlainWord name) :
    tokens (retyped line (replacedBy (tokens line)) (name.toList ++ [' '])) =
      (tokens line).filter (·.complete) ++ [PlainWord.token name] := by
  have hfree : DelimiterFree (name.toList ++ [' ']) :=
    h.delimiterFree_line (delimiterFree_of_blank nofun)
  rw [tokens_typed hfree, h.tokensFrom_append, tokensFrom]

/-- **Accepting a suggestion types it.** A line is answered, by an engine with a slot that asking
leads to, in any settings and on any host, and one of the suggestions is accepted. Then the line is
read as the tokens that were complete, and behind them as one token that is complete and has the name
of the suggestion, exactly if the name is a plain word. -/
theorem accepted_read_iff (reg : Registry) (e : Engine) (line : String) (context : Context)
    (a : Answer) (hslot : e.slot.Reachable) (h : (e.ask reg context line).1 = .ok a) :
    ∀ s ∈ a.suggestions,
      (∃ t : Token, t.complete = true ∧ t.text = s.name ∧
        tokens (a.accept line s) = (tokens line).filter (·.complete) ++ [t]) ↔
      PlainWord s.name := by
  intro s _
  have hreplaced : a.replaced.toNat = replacedBy (tokens line) := by
    rw [replaced_of_ask hslot h]
    exact Int.toNat_natCast _
  unfold Answer.accept
  rw [hreplaced]
  constructor
  · rintro ⟨t, hc, ht, htokens⟩
    exact plainWord_of_read ht hc htokens
  · intro hname
    have hspells := PlainWord.spells_token s.name
    exact ⟨_, hspells.complete, hspells.text, tokens_plainWord line hname⟩

/-- A host with a repository of two branches. -/
def branchHost : Host where
  home := "/"
  workingDir := { path := "/" }
  outcome := fun s _ =>
    if s = .program ["git", "branch", "--no-color"] then .finished "* main\n  it's\n" 0
    else s.missing

/-- A branch as a suggestion. -/
def branchSuggestion (name : String) : Suggestion where
  name := name
  icon := .text "💲"
  description := .text "branch"

/-- The answer to a line of which the last character is typed of a branch. -/
def branchAnswer (line name : String) : Answer where
  line := line
  suggestions := [branchSuggestion name]
  replaced := 1

/-- The branch `main` is read back after it is accepted. -/
theorem accepted_read_main :
    Slot.Reachable none ∧
    (Engine.ask (Registry.ofCommands Shipped.commands) { host := branchHost } {}
      "git checkout m").1 = .ok (branchAnswer "git checkout m" "main") ∧
    ∃ t : Token, t.complete = true ∧ t.text = "main" ∧
      tokens "git checkout main " = (tokens "git checkout m").filter (·.complete) ++ [t] := by
  have hanswer : (Engine.ask (Registry.ofCommands Shipped.commands) { host := branchHost } {}
      "git checkout m").1 = .ok (branchAnswer "git checkout m" "main") := by
    rfl
  have haccept : (branchAnswer "git checkout m" "main").accept "git checkout m"
      (branchSuggestion "main") = "git checkout main " := by
    decide
  have hname : PlainWord "main" :=
    ⟨by decide, plain_of_all (by decide), delimiterFree_of_chars (forall_mem_of_all (by decide))⟩
  have hread := accepted_read_iff _ {} "git checkout m" _ _ .empty hanswer
    (branchSuggestion "main") List.mem_cons_self
  rw [haccept] at hread
  exact ⟨.empty, hanswer, hread.mpr hname⟩

/-- **The branch `it's` is not.** Its quote is open at the end of the line. -/
theorem accepted_not_read :
    (Engine.ask (Registry.ofCommands Shipped.commands) { host := branchHost } {}
      "git checkout i").1 = .ok (branchAnswer "git checkout i" "it's") ∧
    (branchAnswer "git checkout i" "it's").accept "git checkout i" (branchSuggestion "it's") =
      "git checkout it's " ∧
    ¬ ∃ t : Token, t.complete = true ∧ t.text = "it's" ∧
      tokens "git checkout it's " = (tokens "git checkout i").filter (·.complete) ++ [t] := by
  refine ⟨by rfl, by decide, ?_⟩
  rintro ⟨t, hc, -, htokens⟩
  have hread : tokens "git checkout it's " = (tokens "git checkout i").filter (·.complete) ++
      [{ text := "its ", complete := false, isOption := false, rawLength := 5 }] := by
    decide
  rw [hread] at htokens
  obtain rfl := List.head_eq_of_cons_eq (List.append_cancel_left htokens)
  cases hc

end TabCompletion
