import Mathlib.Data.List.Forall2
import TabCompletion.CommandLine

/-!
# Words and blanks

A segment is blanks and words in turn. A word is what is typed for one token: its first character
opens the token, and none of the others ends it. Quotes and backslashes are read inside the word
alone, so that a segment is put together again from its words and the blanks between them.

* `Pending.Reads` reads characters into an open token. `TypedAs` are the characters of a token.
* `tokensFrom_spelled`: the tokens of words and blanks are those of the words.
* `tokensFrom_spelled_append`: behind a blank reading starts afresh.
* **`exists_spelled`**: every segment consists of words and blanks.
-/

namespace TabCompletion

/-! ## One token -/

namespace Pending

/-- The characters are read into the open token `p`, none of them ends it, and it is `q` then. -/
inductive Reads : Pending → List Char → Pending → Prop
  | nil {p} : Reads p [] p
  | cons {p c cs q} : p.endsAt c = false → Reads (p.feed c) cs q → Reads p (c :: cs) q

variable {p q r : Pending} {c : Char} {cs ds : List Char}

theorem Reads.append (h : p.Reads cs q) (h' : q.Reads ds r) : p.Reads (cs ++ ds) r := by
  induction h with
  | nil => exact h'
  | cons hc _ ih => exact .cons hc (ih h')

theorem feed_length (p : Pending) (c : Char) : (p.feed c).length = p.length + 1 := by
  unfold feed
  cases p.mode <;> dsimp only <;> split_ifs <;> rfl

theorem Reads.length_eq (h : p.Reads cs q) : q.length = p.length + cs.length := by
  induction h with
  | nil => rfl
  | cons _ _ ih =>
    rw [ih, feed_length, List.length_cons]
    omega

theorem feed_text_length_le (p : Pending) (c : Char) :
    (p.feed c).text.length ≤ p.text.length + 1 := by
  cases hmode : p.mode with
  | escaped | escapedDouble => simp [feed, hmode]
  | plain | single | double =>
    simp only [feed, hmode]
    split_ifs <;> simp

/-- A token has no more characters than were read into it. -/
theorem Reads.text_length_le (h : p.Reads cs q) :
    q.text.length ≤ p.text.length + cs.length := by
  induction h with
  | nil => exact Nat.le_refl _
  | @cons p c cs q _ _ ih =>
    have hfeed := feed_text_length_le p c
    rw [List.length_cons]
    omega

theorem endsAt_eq_true_iff : p.endsAt c = true ↔ p.mode = .plain ∧ Text.isBlank c = true := by
  unfold endsAt
  rw [Bool.and_eq_true, decide_eq_true_eq]

theorem endsAt_start (c : Char) : endsAt {} c = Text.isBlank c := rfl

/-- The characters of an open token, up to the blank that ends it or the end of the text. -/
theorem exists_reads (p : Pending) (cs : List Char) :
    ∃ raw q rest, cs = raw ++ rest ∧ p.Reads raw q ∧
      (rest = [] ∨ ∃ b after, rest = b :: after ∧ q.endsAt b = true) := by
  induction cs generalizing p with
  | nil => exact ⟨[], p, [], rfl, .nil, .inl rfl⟩
  | cons c cs ih =>
    cases hend : p.endsAt c with
    | true => exact ⟨[], p, c :: cs, rfl, .nil, .inr ⟨c, cs, rfl, hend⟩⟩
    | false =>
      obtain ⟨raw, q, rest, rfl, hreads, hrest⟩ := ih (p.feed c)
      exact ⟨c :: raw, q, rest, rfl, .cons hend hreads, hrest⟩

end Pending

/-- The characters are typed for the token. At the end of a complete one no quote and no escape is
open. -/
inductive TypedAs : List Char → Token → Prop
  | incomplete {raw q} : raw ≠ [] → Pending.Reads {} raw q → TypedAs raw (q.token false)
  | complete {raw q} : raw ≠ [] → Pending.Reads {} raw q → q.mode = .plain →
      TypedAs raw (q.token true)

variable {p q : Pending} {b : Char} {cs raw rest : List Char} {t : Token} {ts : List Token}

/-- Characters that are read into the open token leave it open. -/
theorem tokensFrom_of_reads (h : p.Reads cs q) (rest : List Char) :
    tokensFrom (some p) (cs ++ rest) = tokensFrom (some q) rest := by
  induction h with
  | nil => rfl
  | cons hc _ ih => rw [List.cons_append, tokensFrom, if_neg (by rw [hc]; nofun), ih]

/-- The characters of a word open a token. -/
theorem tokensFrom_of_reads_start (hraw : raw ≠ []) (h : Pending.Reads {} raw q)
    (rest : List Char) : tokensFrom none (raw ++ rest) = tokensFrom (some q) rest := by
  cases h with
  | nil => exact absurd rfl hraw
  | cons hc h =>
    rw [Pending.endsAt_start] at hc
    rw [List.cons_append, tokensFrom, if_neg (by rw [hc]; nofun), tokensFrom_of_reads h]

/-- A blank outside quotes and escapes ends the token. -/
theorem tokensFrom_of_endsAt (h : q.endsAt b = true) (rest : List Char) :
    tokensFrom (some q) (b :: rest) = q.token true :: tokensFrom none (b :: rest) := by
  have hblank := (Pending.endsAt_eq_true_iff.mp h).2
  have hrest : tokensFrom none (b :: rest) = tokensFrom none rest := by
    rw [tokensFrom, if_pos hblank]
  rw [hrest, tokensFrom, if_pos h]

/-- A token has all the characters that were read into it. -/
theorem length_le_of_tokensFrom (h : tokensFrom (some p) cs = t :: ts) :
    p.length ≤ t.rawLength := by
  obtain ⟨raw, q, rest, rfl, hreads, hrest⟩ := p.exists_reads cs
  rw [tokensFrom_of_reads hreads] at h
  have hlen : p.length ≤ q.length := by
    rw [hreads.length_eq]
    exact Nat.le_add_right _ _
  rcases hrest with rfl | ⟨b, after, rfl, hend⟩
  · rw [← (List.cons.inj h).1]
    exact hlen
  · rw [tokensFrom_of_endsAt hend] at h
    rw [← (List.cons.inj h).1]
    exact hlen

/-! ## Words -/

theorem TypedAs.rawLength_eq (h : TypedAs raw t) : t.rawLength = raw.length := by
  cases h with
  | incomplete _ hreads | complete _ hreads =>
    rw [Pending.token, hreads.length_eq]
    exact Nat.zero_add _

/-- The open token that a typed one was at its end. -/
theorem TypedAs.exists_reads (h : TypedAs raw t) :
    ∃ q : Pending, raw ≠ [] ∧ Pending.Reads {} raw q ∧ t = q.token t.complete := by
  cases h with
  | incomplete hraw hreads | complete hraw hreads => exact ⟨_, hraw, hreads, rfl⟩

/-- A word is as long as the text of its token at least. -/
theorem TypedAs.text_length_le (h : TypedAs raw t) :
    t.text.toList.length ≤ raw.length := by
  obtain ⟨q, -, hreads, ht⟩ := h.exists_reads
  have hle := hreads.text_length_le
  rw [ht, Pending.token, String.toList_ofList, List.length_reverse]
  simpa using hle

/-- Alone, the characters of a token are the same token, not completed yet. -/
theorem TypedAs.alone (h : TypedAs raw t) :
    tokensFrom none raw = [{ t with complete := false }] := by
  cases h with
  | incomplete hraw hreads | complete hraw hreads =>
    have hread := tokensFrom_of_reads_start hraw hreads []
    rw [List.append_nil] at hread
    rw [hread]
    rfl

/-- In front of a blank they are the token, and what follows is read afresh. -/
theorem TypedAs.tokensFrom_append (h : TypedAs raw t) (hc : t.complete = true)
    (hb : Text.isBlank b = true) (rest : List Char) :
    tokensFrom none (raw ++ b :: rest) = t :: tokensFrom none (b :: rest) := by
  cases h with
  | incomplete => cases hc
  | complete hraw hreads hmode =>
    rw [tokensFrom_of_reads_start hraw hreads,
      tokensFrom_of_endsAt (Pending.endsAt_eq_true_iff.mpr ⟨hmode, hb⟩)]

/-! ## Words and the blanks behind them -/

/-- A word as it is typed, and the blanks behind it. -/
structure Piece where
  raw : List Char
  gap : List Char

namespace Piece

/-- The characters of a piece. -/
def text (p : Piece) : List Char := p.raw ++ p.gap

/-- The word is typed for the token, which is complete if there are blanks behind it. -/
def IsFor (p : Piece) (t : Token) : Prop := TypedAs p.raw t ∧ (t.complete = true ↔ p.gap ≠ [])

end Piece

/-- The text of pieces, with `lead` in front. -/
def spelled (lead : List Char) (pieces : List Piece) : List Char :=
  lead ++ pieces.flatMap Piece.text

/-- In front of the words and behind them are only blanks, and between two words there are some. -/
structure Spaced (lead : List Char) (pieces : List Piece) : Prop where
  lead : ∀ c ∈ lead, Text.isBlank c = true
  gaps : ∀ p ∈ pieces, ∀ c ∈ p.gap, Text.isBlank c = true
  apart : ∀ p ∈ pieces.dropLast, p.gap ≠ []

variable {lead : List Char} {piece : Piece} {pieces : List Piece}

/-- Whether words are spaced is found out word by word. -/
theorem spaced_of_all (hlead : lead.all Text.isBlank = true)
    (hgaps : ∀ p ∈ pieces, p.gap.all Text.isBlank = true)
    (hapart : ∀ p ∈ pieces.dropLast, p.gap ≠ []) : Spaced lead pieces :=
  ⟨List.all_eq_true.mp hlead, fun p hp => List.all_eq_true.mp (hgaps p hp), hapart⟩

theorem spelled_cons (lead : List Char) (piece : Piece) (pieces : List Piece) :
    spelled lead (piece :: pieces) = lead ++ (piece.raw ++ spelled piece.gap pieces) := by
  simp only [spelled, Piece.text, List.flatMap_cons, List.append_assoc]

/-- The words of a text are in it, with the blanks behind them. -/
theorem text_infix_spelled (lead : List Char) (hp : piece ∈ pieces) :
    piece.text <:+: spelled lead pieces := by
  obtain ⟨before, after, rfl⟩ := List.append_of_mem hp
  refine ⟨lead ++ before.flatMap Piece.text, after.flatMap Piece.text, ?_⟩
  simp only [spelled, List.flatMap_append, List.flatMap_cons, List.append_assoc]

/-- Spaced pieces are a spaced first one with spaced ones behind it. -/
theorem spaced_cons_iff : Spaced lead (piece :: pieces) ↔
    (∀ c ∈ lead, Text.isBlank c = true) ∧ Spaced piece.gap pieces ∧
      (piece.gap = [] → pieces = []) := by
  cases pieces with
  | nil =>
    constructor
    · intro h
      exact ⟨h.lead, ⟨h.gaps piece List.mem_cons_self, nofun, nofun⟩, fun _ => rfl⟩
    · rintro ⟨hlead, htail, -⟩
      refine ⟨hlead, fun p hp => ?_, nofun⟩
      obtain rfl := List.mem_singleton.mp hp
      exact htail.lead
  | cons next more =>
    constructor
    · intro h
      refine ⟨h.lead, ⟨h.gaps piece List.mem_cons_self,
        fun p hp => h.gaps p (List.mem_cons_of_mem _ hp), fun p hp => h.apart p ?_⟩,
        fun hgap => absurd hgap (h.apart piece ?_)⟩
      · rw [List.dropLast_cons_cons]
        exact List.mem_cons_of_mem _ hp
      · rw [List.dropLast_cons_cons]
        exact List.mem_cons_self
    · rintro ⟨hlead, htail, hgap⟩
      refine ⟨hlead, fun p hp => ?_, fun p hp => ?_⟩
      · rcases List.mem_cons.mp hp with rfl | hp
        · exact htail.lead
        · exact htail.gaps p hp
      · rw [List.dropLast_cons_cons] at hp
        rcases List.mem_cons.mp hp with rfl | hp
        · exact fun hnil => List.cons_ne_nil _ _ (hgap hnil)
        · exact htail.apart p hp

/-- If there are blanks behind every word, there is one at the end. -/
theorem blank_of_getLast?_spelled (h : Spaced lead pieces) (hgaps : ∀ p ∈ pieces, p.gap ≠ []) :
    ∀ c, (spelled lead pieces).getLast? = some c → Text.isBlank c = true := by
  induction pieces generalizing lead with
  | nil =>
    intro c hc
    rw [spelled, List.flatMap_nil, List.append_nil] at hc
    exact h.lead c (List.mem_of_getLast? hc)
  | cons p pieces ih =>
    intro c hc
    obtain ⟨-, htail, -⟩ := spaced_cons_iff.mp h
    have hne : spelled p.gap pieces ≠ [] :=
      List.append_ne_nil_of_left_ne_nil (hgaps p List.mem_cons_self) _
    rw [spelled_cons, List.getLast?_append_of_ne_nil _ (List.append_ne_nil_of_right_ne_nil _ hne),
      List.getLast?_append_of_ne_nil _ hne] at hc
    exact ih htail (fun p hp => hgaps p (List.mem_cons_of_mem _ hp)) c hc

/-- Blanks in front of a text have no part in its tokens. -/
theorem tokensFrom_blanks (h : ∀ c ∈ lead, Text.isBlank c = true) (rest : List Char) :
    tokensFrom none (lead ++ rest) = tokensFrom none rest := by
  induction lead with
  | nil => rfl
  | cons c lead ih =>
    rw [List.cons_append, tokensFrom, if_pos (h c List.mem_cons_self),
      ih fun d hd => h d (List.mem_cons_of_mem _ hd)]

/-- **Words and blanks are read word by word.** If more text follows, there are blanks behind the
last word as well. -/
theorem tokensFrom_spelled_append (h : List.Forall₂ Piece.IsFor pieces ts)
    (hspaced : Spaced lead pieces) (hrest : rest = [] ∨ ∀ p ∈ pieces, p.gap ≠ []) :
    tokensFrom none (spelled lead pieces ++ rest) = ts ++ tokensFrom none rest := by
  induction h generalizing lead with
  | nil =>
    rw [spelled, List.flatMap_nil, List.append_nil, tokensFrom_blanks hspaced.lead,
      List.nil_append]
  | @cons piece t pieces ts hp hps ih =>
    obtain ⟨hlead, htail, hlast⟩ := spaced_cons_iff.mp hspaced
    have hmore := ih htail (hrest.imp_right fun hgaps p hp => hgaps p (List.mem_cons_of_mem _ hp))
    rw [spelled_cons, List.append_assoc, tokensFrom_blanks hlead, List.append_assoc]
    cases hgap : piece.gap with
    | nil =>
      -- no blank behind the word: it is the last one, and nothing follows
      obtain rfl := hlast hgap
      obtain rfl := List.forall₂_nil_left_iff.mp hps
      obtain rfl : rest = [] :=
        hrest.resolve_right fun hgaps => hgaps piece List.mem_cons_self hgap
      have hopen : t.complete = false := Bool.eq_false_iff.mpr fun hc => hp.2.mp hc hgap
      have hword : piece.raw ++ (spelled [] [] ++ []) = piece.raw := List.append_nil _
      rw [hword, hp.1.alone, ← hopen]
      rfl
    | cons b gap =>
      have hcomplete : t.complete = true := hp.2.mpr (by rw [hgap]; exact List.cons_ne_nil b gap)
      have hb : Text.isBlank b = true := htail.lead b (by rw [hgap]; exact List.mem_cons_self)
      rw [hgap] at hmore
      rw [List.cons_append, ← hmore]
      exact hp.1.tokensFrom_append hcomplete hb _

/-- **The tokens of words and blanks** are those of the words. -/
theorem tokensFrom_spelled (h : List.Forall₂ Piece.IsFor pieces ts) (hspaced : Spaced lead pieces) :
    tokensFrom none (spelled lead pieces) = ts := by
  have hread := tokensFrom_spelled_append h hspaced (.inl rfl)
  rwa [List.append_nil, tokensFrom, List.append_nil] at hread

/-- Each token has its word. -/
theorem exists_isFor_of_mem (h : List.Forall₂ Piece.IsFor pieces ts) (ht : t ∈ ts) :
    ∃ p ∈ pieces, p.IsFor t := by
  induction h with
  | nil => cases ht
  | cons hp _ ih =>
    rcases List.mem_cons.mp ht with rfl | ht
    · exact ⟨_, List.mem_cons_self, hp⟩
    · obtain ⟨p, hmem, hp⟩ := ih ht
      exact ⟨p, List.mem_cons_of_mem _ hmem, hp⟩

/-- **Every segment consists of words and blanks.** -/
theorem exists_spelled (cs : List Char) :
    ∃ lead pieces, Spaced lead pieces ∧ cs = spelled lead pieces ∧
      List.Forall₂ Piece.IsFor pieces (tokensFrom none cs) := by
  suffices h : ∃ lead pieces ts, Spaced lead pieces ∧ cs = spelled lead pieces ∧
      List.Forall₂ Piece.IsFor pieces ts by
    obtain ⟨lead, pieces, ts, hspaced, rfl, hpieces⟩ := h
    exact ⟨lead, pieces, hspaced, rfl, by rwa [tokensFrom_spelled hpieces hspaced]⟩
  induction hn : cs.length using Nat.strongRecOn generalizing cs with
  | ind n ih =>
    obtain ⟨raw, q, rest, rfl, hreads, hrest⟩ := Pending.exists_reads {} cs
    rcases hrest with rfl | ⟨b, after, rfl, hend⟩
    · -- the text is one word, or empty
      by_cases hraw : raw = []
      · exact ⟨[], [], [], ⟨nofun, nofun, nofun⟩, by rw [hraw]; rfl, .nil⟩
      · refine ⟨[], [⟨raw, []⟩], [q.token false], spaced_cons_iff.mpr ⟨nofun, ⟨nofun, nofun, nofun⟩,
          fun _ => rfl⟩, ?_, .cons ⟨.incomplete hraw hreads, nofun, fun h => absurd rfl h⟩ .nil⟩
        simp [spelled, Piece.text]
    · -- up to the first blank outside quotes and escapes, and the text behind it
      have hlt : after.length < n := by
        rw [← hn, List.length_append, List.length_cons]
        omega
      obtain ⟨hmode, hb⟩ := Pending.endsAt_eq_true_iff.mp hend
      obtain ⟨lead, pieces, ts, hspaced, rfl, hpieces⟩ := ih _ hlt after rfl
      have hlead : ∀ c ∈ b :: lead, Text.isBlank c = true := fun c hc =>
        (List.mem_cons.mp hc).elim (fun h => h ▸ hb) (hspaced.lead c)
      by_cases hraw : raw = []
      · exact ⟨b :: lead, pieces, ts, ⟨hlead, hspaced.gaps, hspaced.apart⟩, by rw [hraw]; rfl,
          hpieces⟩
      · refine ⟨[], ⟨raw, b :: lead⟩ :: pieces, q.token true :: ts,
          spaced_cons_iff.mpr ⟨nofun, ⟨hlead, hspaced.gaps, hspaced.apart⟩, nofun⟩, ?_,
          .cons ⟨.complete hraw hreads hmode, fun _ => List.cons_ne_nil _ _, fun _ => rfl⟩ hpieces⟩
        rw [spelled_cons]
        rfl

end TabCompletion
