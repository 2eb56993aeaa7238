import Mathlib.Data.List.DropRight
import TabCompletion.Proofs.CommandLine.Segment
import TabCompletion.Proofs.CommandLine.Words
import TabCompletion.Proofs.Query.Fails

/-!
# Segmentation

The last segment of a line is blanks and typed words in turn, one word for each token, and nothing
else. Which blanks they are does not matter, as long as there are some where there were some.
Without the word under the cursor a line has the tokens that were complete.

* `Segmentation` is a way to see a segment as words and blanks. `exists_segmentation`: there is one.
* `Segmentation.isFor`: in each, every word is read as its token.
* `tokens_respaced`: other blanks.
* `exists_completed`: what is left without the word under the cursor.
* **`segmentation_lossless`**: the three together.
-/

namespace TabCompletion

/-! ## Segments as words and blanks -/

/-- What is seen of a word and its token: the word has as many characters as the token counts,
blanks follow it if the token is complete, and typed alone it is that token, not completed yet. -/
structure Piece.Shows (p : Piece) (t : Token) : Prop where
  length : p.raw.length = t.rawLength
  complete : t.complete = true ↔ p.gap ≠ []
  alone : tokens (String.ofList p.raw) = [{ t with complete := false }]

/-- The last segment of a line as words and blanks, with one word for each token. -/
structure Segmentation (line : String) (lead : List Char) (pieces : List Piece) : Prop where
  spaced : Spaced lead pieces
  text : lastSegment line = String.ofList (spelled lead pieces)
  shows : List.Forall₂ Piece.Shows pieces (tokens line)

/-- Two pieces with the same word, with blanks behind both or none. -/
def Piece.Respaced (p p' : Piece) : Prop := p'.raw = p.raw ∧ (p'.gap = [] ↔ p.gap = [])

variable {line : String} {lead lead' : List Char} {pieces pieces' : List Piece} {ts : List Token}

/-- The tokens of a text without delimiters. -/
theorem tokens_of_delimiterFree {cs : List Char} (h : DelimiterFree cs) :
    tokens (String.ofList cs) = tokensFrom none cs := by
  unfold tokens
  rw [String.toList_ofList, segmentFrom_of_delimiterFree h, List.reverse_nil, List.nil_append]

theorem segmentFrom_eq_spelled (h : lastSegment line = String.ofList (spelled lead pieces)) :
    segmentFrom [] line.toList = spelled lead pieces :=
  String.ofList_injective h

/-- The words of the last segment have no delimiters. -/
theorem delimiterFree_raw (h : lastSegment line = String.ofList (spelled lead pieces)) :
    ∀ p ∈ pieces, DelimiterFree p.raw := by
  intro p hp d hd hin
  refine delimiterFree_segmentFrom line.toList d hd (hin.trans ?_)
  rw [segmentFrom_eq_spelled h]
  exact (List.prefix_append _ _).isInfix.trans (text_infix_spelled lead hp)

/-- **Every line has a segmentation.** -/
theorem exists_segmentation (line : String) : ∃ lead pieces, Segmentation line lead pieces := by
  obtain ⟨lead, pieces, hspaced, htext, hpieces⟩ := exists_spelled (segmentFrom [] line.toList)
  have hsegment : lastSegment line = String.ofList (spelled lead pieces) :=
    congrArg String.ofList htext
  refine ⟨lead, pieces, hspaced, hsegment, ?_⟩
  have hboth := (List.forall₂_and_left _ _).mpr ⟨delimiterFree_raw hsegment, hpieces⟩
  refine hboth.imp fun p t ⟨hfree, hp⟩ => ⟨hp.1.rawLength_eq.symm, hp.2, ?_⟩
  rw [tokens_of_delimiterFree hfree, hp.1.alone]

/-! ## Words in a segmentation -/

/-- A word that alone is one token, as long as the word, is read into that token. -/
theorem exists_reads_of_alone {raw : List Char} {t : Token}
    (halone : tokensFrom none raw = [{ t with complete := false }])
    (hlength : raw.length = t.rawLength) :
    ∃ q : Pending, raw ≠ [] ∧ Pending.Reads {} raw q ∧ t = q.token t.complete := by
  obtain ⟨lead, pieces, hspaced, htext, hpieces⟩ := exists_spelled raw
  rw [halone] at hpieces
  obtain ⟨p, rest, hp, hrest, rfl⟩ := List.forall₂_cons_right_iff.mp hpieces
  obtain rfl := List.forall₂_nil_right_iff.mp hrest
  -- the word takes all the characters, so that there is no room for blanks
  have hraw : p.raw.length = raw.length := by rw [hlength, ← hp.1.rawLength_eq]
  have hsum := congrArg List.length htext
  rw [spelled_cons, List.length_append, List.length_append, hraw] at hsum
  obtain rfl : lead = [] := List.eq_nil_of_length_eq_zero (by omega)
  have hgap : spelled p.gap [] = [] := List.eq_nil_of_length_eq_zero (by omega)
  obtain rfl : raw = p.raw := by
    rw [htext, spelled_cons, hgap, List.nil_append, List.append_nil]
  obtain ⟨q, hne, hreads, htoken⟩ := hp.1.exists_reads
  refine ⟨q, hne, hreads, ?_⟩
  calc t = { ({ t with complete := false } : Token) with complete := t.complete } := rfl
    _ = q.token t.complete := by
      rw [htoken]
      rfl

/-- What is read into the token of each word, if the text is read as these tokens. -/
theorem isFor_of_tokensFrom
    (h : List.Forall₂ (fun p t => (∃ q : Pending, p.raw ≠ [] ∧ Pending.Reads {} p.raw q ∧
      t = q.token t.complete) ∧ (t.complete = true ↔ p.gap ≠ [])) pieces ts)
    (hspaced : Spaced lead pieces) (htokens : tokensFrom none (spelled lead pieces) = ts) :
    List.Forall₂ Piece.IsFor pieces ts := by
  induction h generalizing lead with
  | nil => exact .nil
  | @cons p t pieces ts hp _ ih =>
    obtain ⟨⟨q, hraw, hreads, ht⟩, hgap⟩ := hp
    obtain ⟨hlead, htail, hlast⟩ := spaced_cons_iff.mp hspaced
    rw [spelled_cons, tokensFrom_blanks hlead, tokensFrom_of_reads_start hraw hreads] at htokens
    cases hgap' : p.gap with
    | nil =>
      have hopen : t.complete = false := Bool.eq_false_iff.mpr fun hc => hgap.mp hc hgap'
      obtain rfl := hlast hgap'
      rw [hgap'] at htokens
      obtain rfl : ts = [] := (List.cons.inj htokens).2.symm
      refine .cons ⟨?_, hgap⟩ .nil
      rw [ht, hopen]
      exact .incomplete hraw hreads
    | cons b gap =>
      have hcomplete : t.complete = true := hgap.mpr (by rw [hgap']; exact List.cons_ne_nil b gap)
      rw [hgap', spelled, List.cons_append] at htokens
      cases hend : q.endsAt b with
      | true =>
        rw [tokensFrom_of_endsAt hend] at htokens
        refine .cons ⟨?_, hgap⟩ (ih htail ?_)
        · rw [ht, hcomplete]
          exact .complete hraw hreads (Pending.endsAt_eq_true_iff.mp hend).1
        · rw [hgap']
          exact (List.cons.inj htokens).2
      | false =>
        -- the token would have one more character than the word
        rw [tokensFrom, if_neg (by rw [hend]; exact Bool.false_ne_true)] at htokens
        have hle := length_le_of_tokensFrom htokens
        rw [Pending.feed_length, ht] at hle
        exact absurd hle (Nat.not_succ_le_self _)

/-- **In every segmentation each word is read as its token.** -/
theorem Segmentation.isFor (h : Segmentation line lead pieces) :
    List.Forall₂ Piece.IsFor pieces (tokens line) := by
  refine isFor_of_tokensFrom ?_ h.spaced ?_
  · have hboth := (List.forall₂_and_left _ _).mpr ⟨delimiterFree_raw h.text, h.shows⟩
    refine hboth.imp fun p t ⟨hfree, hp⟩ => ⟨exists_reads_of_alone ?_ hp.length, hp.complete⟩
    rw [← hp.alone, tokens_of_delimiterFree hfree]
  · rw [← segmentFrom_eq_spelled h.text]
    rfl

/-! ## Other blanks -/

/-- Blanks between words make no delimiters. -/
theorem delimiterFree_spelled (h : Spaced lead pieces) (hraw : ∀ p ∈ pieces, DelimiterFree p.raw) :
    DelimiterFree (spelled lead pieces) := by
  induction pieces generalizing lead with
  | nil =>
    rw [spelled, List.flatMap_nil, List.append_nil]
    exact delimiterFree_of_blank h.lead
  | cons p pieces ih =>
    obtain ⟨hlead, htail, hlast⟩ := spaced_cons_iff.mp h
    have hmore := ih htail fun p hp => hraw p (List.mem_cons_of_mem _ hp)
    have hapart : Apart p.raw (spelled p.gap pieces) := by
      refine apart_of_blank_right _ fun e he => ?_
      cases hgap : p.gap with
      | nil =>
        obtain rfl := hlast hgap
        rw [hgap] at he
        cases he
      | cons b gap =>
        rw [hgap] at he
        obtain rfl := Option.some.inj he
        exact htail.lead b (by rw [hgap]; exact List.mem_cons_self)
    rw [spelled_cons]
    refine delimiterFree_append (delimiterFree_of_blank hlead)
      (delimiterFree_append (hraw p List.mem_cons_self) hmore hapart) ?_
    exact apart_of_blank_left (fun c hc => hlead c (List.mem_of_getLast? hc)) _

/-- With other blanks the same words are typed for the same tokens. -/
theorem isFor_respaced (hsame : List.Forall₂ Piece.Respaced pieces pieces')
    (h : List.Forall₂ (fun p t => DelimiterFree p.raw ∧ p.IsFor t) pieces ts) :
    List.Forall₂ (fun p t => DelimiterFree p.raw ∧ p.IsFor t) pieces' ts := by
  induction hsame generalizing ts with
  | nil => exact h
  | cons hp _ ih =>
    obtain ⟨t, rest, ⟨hfree, htyped, hgap⟩, hrest, rfl⟩ := List.forall₂_cons_left_iff.mp h
    obtain ⟨hraw, hempty⟩ := hp
    refine .cons ⟨?_, ?_, ?_⟩ (ih hrest)
    · rw [hraw]
      exact hfree
    · rw [hraw]
      exact htyped
    · exact hgap.trans (not_congr hempty).symm

/-- **Other blanks do not change the tokens**, as long as there are some where there were some. -/
theorem tokens_respaced (h : Segmentation line lead pieces) (hspaced : Spaced lead' pieces')
    (hsame : List.Forall₂ Piece.Respaced pieces pieces') :
    tokens (String.ofList (spelled lead' pieces')) = tokens line := by
  have hpieces := (List.forall₂_and_left _ _).mpr ⟨delimiterFree_raw h.text, h.isFor⟩
  obtain ⟨hfree, hfor⟩ := (List.forall₂_and_left _ _).mp (isFor_respaced hsame hpieces)
  rw [tokens_of_delimiterFree (delimiterFree_spelled hspaced hfree),
    tokensFrom_spelled hfor hspaced]

/-! ## Without the word under the cursor -/

/-- Words and blanks are those of the complete tokens, and the word under the cursor if there is
one. -/
theorem exists_completed_pieces (h : List.Forall₂ Piece.IsFor pieces ts)
    (hspaced : Spaced lead pieces) :
    ∃ done typed, spelled lead pieces = spelled lead done ++ typed ∧ typed.length = replacedBy ts ∧
      Spaced lead done ∧ (∀ p ∈ done, p.gap ≠ []) ∧
      List.Forall₂ Piece.IsFor done (ts.filter (·.complete)) := by
  induction h generalizing lead with
  | nil =>
    exact ⟨[], [], (List.append_nil _).symm, rfl, hspaced, List.forall_mem_nil _, .nil⟩
  | @cons p t pieces ts hp hpieces ih =>
    obtain ⟨hlead, htail, hlast⟩ := spaced_cons_iff.mp hspaced
    by_cases hgap : p.gap = []
    · -- the word under the cursor
      obtain rfl := hlast hgap
      obtain rfl := List.forall₂_nil_left_iff.mp hpieces
      have hopen : t.complete = false := Bool.eq_false_iff.mpr fun hc => hp.2.mp hc hgap
      refine ⟨[], p.raw, ?_, ?_, ⟨hlead, List.forall_mem_nil _, List.forall_mem_nil _⟩,
        List.forall_mem_nil _, ?_⟩
      · simp [spelled, Piece.text, hgap]
      · simp [replacedBy, hopen, hp.1.rawLength_eq]
      · rw [List.filter_cons_of_neg (by rw [hopen]; exact Bool.false_ne_true)]
        exact .nil
    · have hcomplete : t.complete = true := hp.2.mpr hgap
      obtain ⟨done, typed, htext, hlength, hspaced', hgaps, hdone⟩ := ih htail
      refine ⟨p :: done, typed, ?_, ?_,
        spaced_cons_iff.mpr ⟨hlead, hspaced', fun h => absurd h hgap⟩,
        fun p' hp' => (List.mem_cons.mp hp').elim (fun h => h ▸ hgap) (hgaps p'), ?_⟩
      · rw [spelled_cons, spelled_cons, htext]
        simp only [List.append_assoc]
      · rw [hlength]
        cases ts with
        | nil => simp [replacedBy, hcomplete]
        | cons next more => simp [replacedBy]
      · rw [List.filter_cons_of_pos hcomplete]
        exact .cons hp hdone

/-- **What is left of a line without the word under the cursor**: a text that is cut off, then the
words of the tokens that are complete, with blanks behind all of them. -/
theorem exists_completed (line : String) :
    ∃ before lead done,
      line.toList.rdrop (replacedBy (tokens line)) = before ++ spelled lead done ∧
      (∀ after, segmentFrom [] (before ++ after) = segmentFrom [] after) ∧
      DelimiterFree (spelled lead done) ∧ Spaced lead done ∧ (∀ p ∈ done, p.gap ≠ []) ∧
      List.Forall₂ Piece.IsFor done ((tokens line).filter (·.complete)) := by
  obtain ⟨before, hline, hcut⟩ := exists_cut line.toList
  obtain ⟨lead, pieces, hspaced, htext, hpieces⟩ := exists_spelled (segmentFrom [] line.toList)
  obtain ⟨done, typed, hdone, hlength, hspaced', hgaps, hfor⟩ :=
    exists_completed_pieces hpieces hspaced
  rw [htext, hdone, ← List.append_assoc] at hline
  refine ⟨before, lead, done, ?_, hcut, ?_, hspaced', hgaps, hfor⟩
  · have hlength' : replacedBy (tokens line) = typed.length := hlength.symm
    rw [hlength', hline, List.rdrop, List.length_append, Nat.add_sub_cancel, List.take_left]
  · intro d hd hin
    refine delimiterFree_segmentFrom line.toList d hd (hin.trans ?_)
    rw [htext, hdone]
    exact (List.prefix_append _ _).isInfix

/-- Without the word under the cursor a line has the tokens that were complete. -/
theorem tokens_completed (line : String) :
    tokens (String.ofList (line.toList.rdrop (replacedBy (tokens line)))) =
      (tokens line).filter (·.complete) := by
  obtain ⟨before, lead, done, hline, hcut, hfree, hspaced, -, hdone⟩ := exists_completed line
  rw [hline, tokens, String.toList_ofList, hcut, segmentFrom_of_delimiterFree hfree]
  exact tokensFrom_spelled hdone hspaced

/-- Every offer for a line says how long the word under the cursor is. -/
theorem replaced_of_offerFor {reg : Registry} {context : Context} {memory : Memory} {offer : Offer}
    {replaced : Nat} (h : ((reg.offerFor line).answer context memory).1 = .ok (offer, replaced)) :
    replaced = replacedBy (tokens line) := by
  obtain ⟨offer', -, heq⟩ := Query.exists_answer_of_bind_pure h
  exact (congrArg Prod.snd heq).symm

/-- **Segmentation loses nothing.** The last segment of a line is blanks and words, one word for
each token: as long as the token says, followed by blanks exactly if the token is complete, and
alone the same token. With other blanks, where there were some, the tokens are the same. Without as
many characters at its end as an offer for the line says, the line has the tokens that are
complete. -/
theorem segmentation_lossless (line : String) :
    (∃ lead pieces, Segmentation line lead pieces) ∧
    (∀ lead pieces, Segmentation line lead pieces → ∀ lead' pieces', Spaced lead' pieces' →
      List.Forall₂ Piece.Respaced pieces pieces' →
      tokens (String.ofList (spelled lead' pieces')) = tokens line) ∧
    tokens (String.ofList (line.toList.rdrop (replacedBy (tokens line)))) =
      (tokens line).filter (·.complete) ∧
    ∀ (reg : Registry) (context : Context) (memory : Memory) (offer : Offer) (replaced : Nat),
      ((reg.offerFor line).answer context memory).1 = .ok (offer, replaced) →
      replaced = replacedBy (tokens line) :=
  ⟨exists_segmentation line, fun _ _ h _ _ hspaced hsame => tokens_respaced h hspaced hsame,
    tokens_completed line, fun _ _ _ _ _ h => replaced_of_offerFor h⟩

/-- The segmentation of `ls; git  'a b' x`, with other blanks, and without the word under the
cursor. -/
theorem segmentation_lossless_quoted :
    let line := "ls; git  'a b' x"
    let pieces : List Piece :=
      [⟨"git".toList, "  ".toList⟩, ⟨"'a b'".toList, " ".toList⟩, ⟨"x".toList, []⟩]
    let context : Context := { host := { home := "/", workingDir := { path := "/" } } }
    Segmentation line [' '] pieces ∧
    tokens "git\t'a b'   x" = tokens line ∧
    ((Registry.ofCommands []).offerFor line |>.answer context {}).1 = .ok ({}, 1) ∧
    tokens "ls; git  'a b' " = (tokens line).filter (·.complete) := by
  intro line pieces context
  have htokens : tokens line =
      [{ text := "git", complete := true, isOption := false, rawLength := 3 },
        { text := "a b", complete := true, isOption := false, rawLength := 5 },
        { text := "x", complete := false, isOption := false, rawLength := 1 }] := by
    decide
  have hsegmentation : Segmentation line [' '] pieces :=
    ⟨spaced_of_all (by decide) (by decide) (by decide), by decide, by
      rw [htokens]
      exact .cons ⟨rfl, by decide, by decide⟩ (.cons ⟨rfl, by decide, by decide⟩
        (.cons ⟨rfl, by decide, by decide⟩ .nil))⟩
  have hoffer : ((Registry.ofCommands []).offerFor line |>.answer context {}).1 = .ok ({}, 1) := by
    unfold Registry.offerFor
    rw [htokens]
    rfl
  obtain ⟨-, hrespaced, hcompleted, hreplaced⟩ := segmentation_lossless line
  have hother := hrespaced _ _ hsegmentation []
    [⟨"git".toList, "\t".toList⟩, ⟨"'a b'".toList, "   ".toList⟩, ⟨"x".toList, []⟩]
    (spaced_of_all (by decide) (by decide) (by decide))
    (.cons ⟨rfl, by decide⟩ (.cons ⟨rfl, by decide⟩ (.cons ⟨rfl, by decide⟩ .nil)))
  have hspelled : String.ofList (spelled []
      [⟨"git".toList, "\t".toList⟩, ⟨"'a b'".toList, "   ".toList⟩, ⟨"x".toList, []⟩]) =
      "git\t'a b'   x" := by
    decide
  have hleft : String.ofList (line.toList.rdrop 1) = "ls; git  'a b' " := by decide
  rw [hspelled] at hother
  rw [← hreplaced _ _ _ _ _ hoffer, hleft] at hcompleted
  exact ⟨hsegmentation, hother, hoffer, hcompleted⟩

end TabCompletion
