import TabCompletion.Proofs.CommandLine
import TabCompletion.Proofs.CommandLine.Segmentation

/-!
# Quoting

A word is typed in one of three ways: between single quotes, where nothing is special; between
double quotes, with a backslash before double quotes and backslashes; or without quotes, with a
backslash before blanks, quotes and backslashes. Whatever the word, it is read back as it is, and
the next word is read as if nothing had been quoted before it.

* `Quoting.typed` is a word as it is typed, `QuotedWord` a word with a way to type it.
* `Quoting.reads_escaped`: one character, with the backslash that it may need.
* `Quoting.reads_typed`: a whole word.
* **`unquoting_quoted`**: a line of words that are quoted in any ways.
-/

namespace TabCompletion

/-! ## Ways to type a word -/

/-- How a word is typed. -/
inductive Quoting where
  /-- Between single quotes. -/
  | single
  /-- Between double quotes. -/
  | double
  /-- Without quotes. -/
  | backslash
  deriving DecidableEq, Repr

namespace Quoting

/-- What stands in front of the word and behind it. -/
def mark : Quoting → List Char
  | single => ['\'']
  | double => ['"']
  | backslash => []

/-- Whether a character needs a backslash. -/
def needsBackslash : Quoting → Char → Bool
  | single, _ => false
  | double, c => c = '"' || c = '\\'
  | backslash, c => Text.isBlank c || c = '\'' || c = '"' || c = '\\'

/-- A character of the word as it is typed. -/
def escaped (s : Quoting) (c : Char) : List Char := if s.needsBackslash c then ['\\', c] else [c]

/-- The word as it is typed. -/
def typed (s : Quoting) (w : List Char) : List Char := s.mark ++ w.flatMap s.escaped ++ s.mark

/-- Whether a word can be typed this way. -/
def Admits : Quoting → List Char → Prop
  | single, w => '\'' ∉ w
  | double, _ => True
  | backslash, w => w ≠ []

instance (s : Quoting) (w : List Char) : Decidable (s.Admits w) :=
  match s with
  | single => inferInstanceAs (Decidable ('\'' ∉ w))
  | double => isTrue trivial
  | backslash => inferInstanceAs (Decidable (w ≠ []))

/-- Where the characters of the word stand. -/
def inside : Quoting → Mode
  | single => .single
  | double => .double
  | backslash => .plain

/-! ## Reading it back -/

variable {s : Quoting} {p : Pending} {c : Char} {w : List Char}

/-- A backslash and the character after it are one more character. -/
theorem reads_backslash (hs : s ≠ single) (hp : p.mode = s.inside) (c : Char) :
    p.Reads ['\\', c] { p with text := c :: p.text, length := p.length + 2 } := by
  obtain ⟨text, quoted, length, mode⟩ := p
  obtain rfl : mode = s.inside := hp
  cases s with
  | single => exact absurd rfl hs
  | double | backslash => exact .cons rfl (.cons rfl .nil)

/-- A character that needs no backslash is one more character. -/
theorem reads_bare (hp : p.mode = s.inside) (hs : s = single → c ≠ '\'')
    (hc : s.needsBackslash c = false) :
    p.Reads [c] { p with text := c :: p.text, length := p.length + 1 } := by
  cases s with
  | single =>
    have hend : p.endsAt c = false := by rw [Pending.endsAt, hp]; rfl
    have hfeed : p.feed c = { p with text := c :: p.text, length := p.length + 1 } := by
      rw [Pending.feed, hp]
      exact if_neg (hs rfl)
    exact hfeed ▸ .cons hend .nil
  | double =>
    obtain ⟨hquote, hbackslash⟩ : c ≠ '"' ∧ c ≠ '\\' := by simpa [needsBackslash] using hc
    have hend : p.endsAt c = false := by rw [Pending.endsAt, hp]; rfl
    have hfeed : p.feed c = { p with text := c :: p.text, length := p.length + 1 } := by
      rw [Pending.feed, hp]
      exact (if_neg hbackslash).trans (if_neg hquote)
    exact hfeed ▸ .cons hend .nil
  | backslash =>
    have hplain : IsPlain c := by
      obtain ⟨⟨⟨hblank, hsingle⟩, hdouble⟩, hbackslash⟩ :
          ((Text.isBlank c = false ∧ c ≠ '\'') ∧ c ≠ '"') ∧ c ≠ '\\' := by
        simpa [needsBackslash] using hc
      exact ⟨hblank, hbackslash, hsingle, hdouble⟩
    exact reads_of_plain hp (List.forall_mem_singleton.mpr hplain)

/-- **A character of the word** is one more character of the token, with or without a backslash. -/
theorem reads_escaped (hp : p.mode = s.inside) (hs : s = single → c ≠ '\'') :
    p.Reads (s.escaped c)
      { p with text := c :: p.text, length := p.length + (s.escaped c).length } := by
  unfold escaped
  cases hc : s.needsBackslash c with
  | true =>
    have hs' : s ≠ single := by
      rintro rfl
      cases hc
    exact reads_backslash hs' hp c
  | false => exact reads_bare hp hs hc

/-- The characters of the word, one by one. -/
theorem reads_body (hp : p.mode = s.inside) (hs : s = single → '\'' ∉ w) :
    p.Reads (w.flatMap s.escaped)
      { p with
        text := w.reverse ++ p.text
        length := p.length + (w.flatMap s.escaped).length } := by
  induction w generalizing p with
  | nil => exact .nil
  | cons c w ih =>
    have hfirst := reads_escaped (c := c) hp fun h hc => hs h (hc ▸ List.mem_cons_self)
    have hrest := ih
      (p := { p with text := c :: p.text, length := p.length + (s.escaped c).length })
      hp fun h hmem => hs h (List.mem_cons_of_mem _ hmem)
    have hboth := hfirst.append hrest
    rw [List.flatMap_cons, List.length_append, List.reverse_cons, List.append_assoc,
      List.singleton_append, ← Nat.add_assoc]
    exact hboth

/-- The token after the mark in front of a word. -/
def opened (s : Quoting) : Pending where
  quoted := s ≠ backslash
  length := s.mark.length
  mode := s.inside

theorem reads_opened (s : Quoting) : Pending.Reads {} s.mark s.opened := by
  cases s with
  | single | double => exact .cons rfl .nil
  | backslash => exact .nil

/-- The mark behind a word ends its quotes. -/
theorem reads_closing (hp : p.mode = s.inside) :
    p.Reads s.mark { p with length := p.length + s.mark.length, mode := .plain } := by
  obtain ⟨text, quoted, length, mode⟩ := p
  obtain rfl : mode = s.inside := hp
  cases s with
  | single | double => exact .cons rfl .nil
  | backslash => exact .nil

/-- The token after a whole word. -/
def read (s : Quoting) (w : List Char) : Pending where
  text := w.reverse
  quoted := s ≠ backslash
  length := (s.typed w).length
  mode := .plain

/-- **A word is read back as it is**, and no quote or escape is open behind it. -/
theorem reads_typed (hw : s.Admits w) : Pending.Reads {} (s.typed w) (s.read w) := by
  have hsingle : s = single → '\'' ∉ w := by
    rintro rfl
    exact hw
  have hbody := reads_body (p := s.opened) rfl hsingle
  have hall := ((reads_opened s).append hbody).append (reads_closing rfl)
  have hread : s.read w =
      { s.opened with
        text := w.reverse ++ s.opened.text
        length := s.opened.length + (w.flatMap s.escaped).length + s.mark.length
        mode := .plain } := by
    simp [read, opened, typed, Nat.add_assoc]
  rw [hread]
  exact hall

theorem typed_ne_nil (hw : s.Admits w) : s.typed w ≠ [] := by
  cases s with
  | single | double => exact List.cons_ne_nil _ _
  | backslash =>
    obtain ⟨c, w, rfl⟩ := List.exists_cons_of_ne_nil hw
    rw [typed, mark, List.nil_append, List.append_nil, List.flatMap_cons, escaped]
    split <;> exact List.cons_ne_nil _ _

end Quoting

/-! ## Lines of quoted words -/

/-- A word and a way to type it. -/
structure QuotedWord where
  text : String
  style : Quoting
  admits : style.Admits text.toList

namespace QuotedWord

/-- The word as it is typed. -/
def typed (w : QuotedWord) : List Char := w.style.typed w.text.toList

/-- The token that the word is. Only without quotes it can be an option. -/
def token (w : QuotedWord) (complete : Bool) : Token where
  text := w.text
  complete := complete
  isOption := w.style = .backslash && startsWith w.text "-"
  rawLength := w.typed.length

theorem token_read (w : QuotedWord) (complete : Bool) :
    (w.style.read w.text.toList).token complete = w.token complete := by
  unfold Quoting.read Pending.token token
  rw [List.reverse_reverse, String.ofList_toList, List.getLast?_reverse, startsWith_hyphen]
  simp [typed]

/-- A word is typed for its token. -/
theorem typedAs (w : QuotedWord) (complete : Bool) : TypedAs w.typed (w.token complete) := by
  rw [← token_read]
  have hne := Quoting.typed_ne_nil w.admits
  have hreads := Quoting.reads_typed w.admits
  cases complete with
  | true => exact .complete hne hreads rfl
  | false => exact .incomplete hne hreads

end QuotedWord

/-- The text of quoted words, each with the blanks behind it. -/
def quotedLine (items : List (QuotedWord × List Char)) : List Char :=
  items.flatMap fun i => i.1.typed ++ i.2

variable {items : List (QuotedWord × List Char)}

/-- Quoted words with blanks behind all of them are read word by word, and the text after them as if
they were not there. -/
theorem tokensFrom_quotedLine
    (hgaps : ∀ i ∈ items, i.2 ≠ [] ∧ ∀ c ∈ i.2, Text.isBlank c = true) (rest : List Char) :
    tokensFrom none (quotedLine items ++ rest) =
      items.map (·.1.token true) ++ tokensFrom none rest := by
  let pieces : List Piece := items.map fun i => ⟨i.1.typed, i.2⟩
  have hline : quotedLine items = spelled [] pieces := by
    simp only [quotedLine, spelled, pieces, List.nil_append, List.flatMap_map, Piece.text]
  have hmem : ∀ p ∈ pieces, p.gap ≠ [] ∧ ∀ c ∈ p.gap, Text.isBlank c = true := by
    intro p hp
    obtain ⟨i, hi, rfl⟩ := List.mem_map.mp hp
    exact hgaps i hi
  have hspaced : Spaced [] pieces :=
    ⟨List.forall_mem_nil _, fun p hp => (hmem p hp).2,
      fun p hp => (hmem p (List.dropLast_subset _ hp)).1⟩
  have hfor : List.Forall₂ Piece.IsFor pieces (items.map (·.1.token true)) := by
    refine List.forall₂_map_left_iff.mpr (List.forall₂_map_right_iff.mpr ?_)
    exact List.forall₂_same.mpr fun i hi =>
      ⟨i.1.typedAs true, fun _ => (hgaps i hi).1, fun _ => rfl⟩
  rw [hline]
  exact tokensFrom_spelled_append hfor hspaced (.inr fun p hp => (hmem p hp).1)

/-- **Unquoting undoes quoting.** Words that are typed in any of the three ways, with blanks between
and behind them, are the tokens of the line that they make, if it has no delimiter: all complete, as
long as they were typed, and options exactly where they begin with a hyphen and have no quotes.
Without the blanks at the end the last one is not complete, and all else is the same. -/
theorem unquoting_quoted (items : List (QuotedWord × List Char))
    (hgaps : ∀ i ∈ items, i.2 ≠ [] ∧ ∀ c ∈ i.2, Text.isBlank c = true)
    (hfree : DelimiterFree (quotedLine items)) :
    tokens (String.ofList (quotedLine items)) = items.map (·.1.token true) ∧
    ∀ init last gap, items = init ++ [(last, gap)] →
      tokens (String.ofList (quotedLine init ++ last.typed)) =
        init.map (·.1.token true) ++ [last.token false] := by
  constructor
  · have hread := tokensFrom_quotedLine hgaps []
    rw [List.append_nil, tokensFrom, List.append_nil] at hread
    rw [tokens_of_delimiterFree hfree, hread]
  · rintro init last gap rfl
    have hfree' : DelimiterFree (quotedLine init ++ last.typed) := by
      intro d hd hin
      refine hfree d hd (hin.trans ⟨[], gap, ?_⟩)
      simp [quotedLine]
    have hinit : ∀ i ∈ init, i.2 ≠ [] ∧ ∀ c ∈ i.2, Text.isBlank c = true :=
      fun i hi => hgaps i (List.mem_append_left _ hi)
    rw [tokens_of_delimiterFree hfree', tokensFrom_quotedLine hinit, (last.typedAs false).alone]
    rfl

/-- An empty word, a word with a quote and a blank, and an option with a blank and a backslash. -/
theorem unquoting_quoted_mixed :
    let empty : QuotedWord := ⟨"", .single, by decide⟩
    let quote : QuotedWord := ⟨"a \"b", .double, by decide⟩
    let option : QuotedWord := ⟨"-x \\y", .backslash, by decide⟩
    tokens "'' \"a \\\"b\"\t-x\\ \\\\y " =
      [empty.token true, quote.token true, option.token true] ∧
    tokens "'' \"a \\\"b\"\t-x\\ \\\\y" =
      [empty.token true, quote.token true, option.token false] ∧
    (option.token false).isOption = true ∧ (option.token false).rawLength = 7 := by
  intro empty quote option
  have hgaps : ∀ i ∈ [(empty, [' ']), (quote, ['\t']), (option, [' '])],
      i.2 ≠ [] ∧ ∀ c ∈ i.2, Text.isBlank c = true := by
    have hall : ∀ i ∈ [(empty, [' ']), (quote, ['\t']), (option, [' '])],
        i.2 ≠ [] ∧ i.2.all Text.isBlank = true := by
      decide
    exact fun i hi => (hall i hi).imp_right List.all_eq_true.mp
  have hfree : DelimiterFree (quotedLine [(empty, [' ']), (quote, ['\t']), (option, [' '])]) :=
    delimiterFree_of_chars (forall_mem_of_all (by decide))
  have hline : String.ofList
      (quotedLine [(empty, [' ']), (quote, ['\t']), (option, [' '])]) =
      "'' \"a \\\"b\"\t-x\\ \\\\y " := by
    decide
  have hopen : String.ofList
      (quotedLine [(empty, [' ']), (quote, ['\t'])] ++ option.typed) =
      "'' \"a \\\"b\"\t-x\\ \\\\y" := by
    decide
  obtain ⟨hall, hlast⟩ := unquoting_quoted _ hgaps hfree
  have hlast' := hlast [(empty, [' ']), (quote, ['\t'])] option [' '] rfl
  rw [hline] at hall
  rw [hopen] at hlast'
  exact ⟨hall, hlast', by decide, by decide⟩

end TabCompletion
