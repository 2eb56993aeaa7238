import TabCompletion.Filter
import TabCompletion.Proofs.CommandLine.Segment
import TabCompletion.Proofs.CommandLine.Words

/-!
# Lines that start with a plain word

A plain word has no blanks, no quotes, no backslashes and no delimiters in it. In front of a line
without delimiters it is one more token, and the tokens of the line stay as they are.

* `reads_of_plain`: the characters of a word are read into one token.
* **`tokens_word`**: the tokens of a plain word, a space and a line.
* `complete_of_tokensFrom`: every token but the last one is complete.
-/

namespace TabCompletion

/-! ## Plain words -/

/-- A character that stands for itself in a token. -/
structure IsPlain (c : Char) : Prop where
  blank : Text.isBlank c = false
  backslash : c ≠ '\\'
  single : c ≠ '\''
  double : c ≠ '"'

instance (c : Char) : Decidable (IsPlain c) :=
  decidable_of_iff
    (Text.isBlank c = false ∧ c ≠ '\\' ∧ c ≠ '\'' ∧ c ≠ '"')
    ⟨fun ⟨hb, hs, hq, hd⟩ => ⟨hb, hs, hq, hd⟩, fun h => ⟨h.1, h.2, h.3, h.4⟩⟩

/-- The characters of a word are looked at one by one. -/
theorem plain_of_all {cs : List Char} (h : cs.all (fun c => decide (IsPlain c)) = true) :
    ∀ c ∈ cs, IsPlain c :=
  forall_mem_of_all h

/-- A word that is typed as it is, without quotes and escapes. -/
structure PlainWord (w : String) : Prop where
  nonempty : w ≠ ""
  plain : ∀ c ∈ w.toList, IsPlain c
  delimiterFree : DelimiterFree w.toList

/-- A token that was typed in full as a name, without quotes. -/
structure Token.Spells (t : Token) (name : String) : Prop where
  complete : t.complete = true
  text : t.text = name
  isOption : t.isOption = startsWith name "-"

theorem feed_of_plain {p : Pending} {c : Char} (hp : p.mode = .plain) (hc : IsPlain c) :
    p.feed c = { p with text := c :: p.text, length := p.length + 1 } := by
  simp only [Pending.feed, hp, hc.backslash, hc.single, hc.double, if_false]

/-- **The characters of a word are read into one token.** -/
theorem reads_of_plain {p : Pending} {cs : List Char} (hp : p.mode = .plain)
    (h : ∀ c ∈ cs, IsPlain c) :
    p.Reads cs { p with text := cs.reverse ++ p.text, length := p.length + cs.length } := by
  induction cs generalizing p with
  | nil => exact .nil
  | cons c cs ih =>
    have hc := h c List.mem_cons_self
    have hend : p.endsAt c = false := by rw [Pending.endsAt, hc.blank, Bool.and_false]
    have hfeed := feed_of_plain hp hc
    have hrest := ih (p := p.feed c) (by rw [hfeed, hp]) fun d hd => h d (List.mem_cons_of_mem _ hd)
    have hlength : p.length + 1 + cs.length = p.length + (cs.length + 1) := by omega
    rw [hfeed] at hrest
    simp only [List.reverse_cons, List.append_assoc, List.singleton_append, List.length_cons,
      ← hlength]
    exact .cons hend (hfeed ▸ hrest)

theorem startsWith_hyphen (name : String) :
    startsWith name "-" = decide (name.toList.head? = some '-') := by
  unfold startsWith
  cases h : name.toList with
  | nil => rfl
  | cons c cs =>
    have hhyphen : "-".toList = ['-'] := rfl
    rw [hhyphen, List.head?_cons]
    by_cases hc : c = '-'
    · subst hc
      rfl
    · simp [List.isPrefixOf, hc, Ne.symm hc]

namespace PlainWord

variable {w : String} (hw : PlainWord w)

/-- The token of a plain word. -/
def token (w : String) : Token :=
  Pending.token { text := w.toList.reverse, length := w.toList.length } true

theorem spells_token (w : String) : (token w).Spells w where
  complete := rfl
  text := by
    unfold token Pending.token
    rw [List.reverse_reverse, String.ofList_toList]
  isOption := by
    unfold token Pending.token
    rw [startsWith_hyphen, List.getLast?_reverse]
    rfl

include hw

/-- In front of a space a plain word is its token, and what follows is read afresh. -/
theorem tokensFrom_append (line : List Char) :
    tokensFrom none (w.toList ++ ' ' :: line) = token w :: tokensFrom none line := by
  have hne : w.toList ≠ [] := fun h => hw.nonempty (String.toList_eq_nil_iff.mp h)
  have hreads := reads_of_plain (p := {}) rfl hw.plain
  rw [List.append_nil, Nat.zero_add] at hreads
  have htyped : TypedAs w.toList (token w) := .complete hne hreads rfl
  have hblank : Text.isBlank ' ' = true := by decide
  rw [htyped.tokensFrom_append rfl hblank, tokensFrom, if_pos hblank]

/-- A plain word and a space make no delimiters. -/
theorem delimiterFree_line {line : List Char} (hline : DelimiterFree line) :
    DelimiterFree (w.toList ++ ' ' :: line) := by
  have hspace : ∀ c ∈ [' '], Text.isBlank c = true := List.forall_mem_singleton.mpr (by decide)
  have hright : DelimiterFree ([' '] ++ line) :=
    delimiterFree_append (delimiterFree_of_blank hspace) hline
      (apart_of_blank_left (fun c hc => hspace c (List.mem_of_getLast? hc)) line)
  refine delimiterFree_append hw.delimiterFree hright ?_
  exact apart_of_blank_right _ fun e he => hspace e (List.mem_of_head? he)

end PlainWord

/-- **A plain word in front of a line** without delimiters is one more token, typed in full. -/
theorem tokens_word {w line : String} (hw : PlainWord w) (hline : DelimiterFree line.toList) :
    ∃ t : Token, t.Spells w ∧ tokens (w ++ " " ++ line) = t :: tokens line := by
  refine ⟨PlainWord.token w, PlainWord.spells_token w, ?_⟩
  have hchars : (w ++ " " ++ line).toList = w.toList ++ ' ' :: line.toList := by
    simp
  unfold tokens
  rw [hchars, segmentFrom_of_delimiterFree (hw.delimiterFree_line hline),
    segmentFrom_of_delimiterFree hline]
  exact hw.tokensFrom_append line.toList

/-- **Every token but the last one is complete.** -/
theorem complete_of_tokensFrom {o : Option Pending} {cs : List Char} {t next : Token}
    {more : List Token} (h : tokensFrom o cs = t :: next :: more) : t.complete = true := by
  fun_induction tokensFrom o cs with
  | case1 => cases h
  | case2 p => cases h
  | case3 c rest hb ih => exact ih h
  | case4 c rest hb ih => exact ih h
  | case5 p c rest he ih =>
    rw [← (List.cons.inj h).1]
    rfl
  | case6 p c rest he ih => exact ih h

end TabCompletion
