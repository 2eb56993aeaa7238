import Mathlib
import TabCompletion.Json.Parser
import TabCompletion.Json.Printer
import TabCompletion.Proofs.Json.Members

/-!
# Values that are written and read again

A value that is laid out with one item or member to a line is read back as it was, if it is
`Legible`: its whole numbers are short enough to be read, its doubles are read from the digits they
are written with (`Binary64.Legible`), and no object in it holds a name twice.

The reader is followed character by character. What comes after a value in a layout is a comma, a
line break or the end (`Parser.Ends`), so no number runs on.

Results:
* `Parser.stringBody_written`: a text is read from its escapes.
* `Parser.scalar_int`: a whole number is read from its digits.
* `Parser.spells_prettyAt`: a value is read from its layout at any depth, by induction on the value.
* **`parse_pretty`**: a legible value is read back.
* `Binary64.legible_one`: the timeout of the shipped settings is legible.
-/

namespace TabCompletion

/-! ## Legible values -/

namespace Json.Parser

/-- What may follow a value in a layout: a comma, a line break or nothing. -/
def Ends (rest : List Char) : Prop := ∀ c ∈ rest.head?, c = ',' ∨ c = '\n'

end Json.Parser

/-- A double that is read from the digits it is written with. -/
def Binary64.Legible (x : Binary64) : Prop :=
  ∀ rest, Json.Parser.Ends rest →
    Json.Parser.scalar ((Json.realText x).toList ++ rest) = .ok (.real x, rest)

namespace Json

mutual
/-- A value that is read back as it was: whole numbers are short enough, doubles are legible and
names stand once in their object. -/
def Legible : Json → Prop
  | .null | .bool _ | .text _ => True
  | .int n => n.natAbs < 10 ^ Parser.maxIntegerDigits
  | .real x => x.Legible
  | .list items => AllLegible items
  | .object members => (members.map (·.1)).Nodup ∧ MembersLegible members

/-- The items of a list are legible. -/
def AllLegible : List Json → Prop
  | [] => True
  | v :: rest => Legible v ∧ AllLegible rest

/-- The members of an object are legible. -/
def MembersLegible : List (String × Json) → Prop
  | [] => True
  | (_, v) :: rest => Legible v ∧ MembersLegible rest
end

namespace Parser

variable {fuel : Nat} {rest : List Char}

/-! ## Texts -/

/-- A control character is read from its code. -/
theorem hex4?_control : ∀ n < 0x20, ∀ rest, hex4? (Text.hex 4 n ++ rest) = some (n, rest) := by
  have hdigits : ∀ n < 0x20, hexDigit? (n % 16).digitChar = some (n % 16) ∧
      Text.hex 4 n = ['0', '0', if n < 16 then '0' else '1', (n % 16).digitChar] := by decide
  intro n hn rest
  obtain ⟨hdigit, hhex⟩ := hdigits n hn
  rw [hhex]
  have hzero : hexDigit? '0' = some 0 := rfl
  have hone : hexDigit? '1' = some 1 := rfl
  by_cases hlow : n < 16
  · rw [Nat.mod_eq_of_lt hlow] at hdigit ⊢
    simp [hex4?, hlow, hzero, hdigit]
  · simp [hex4?, hlow, hzero, hone, hdigit]
    omega

theorem unicodeEscape?_control {c : Char} (hc : c.toNat < 0x20) (rest : List Char) :
    unicodeEscape? (Text.hex 4 c.toNat ++ rest) = some (c, rest) := by
  unfold unicodeEscape?
  rw [hex4?_control c.toNat hc]
  have hlow : ¬ 0xD800 ≤ c.toNat := by omega
  have hhigh : ¬ 0xDC00 ≤ c.toNat := by omega
  simp [hlow, hhigh]

/-- One character is read from its escape. -/
theorem stringBody_escapedChar (c : Char) (taken cs : List Char) :
    stringBody (fuel + 1) taken (escapedChar c ++ cs) = stringBody fuel (c :: taken) cs := by
  unfold escapedChar
  split_ifs with h₁ h₂ h₃ h₄ h₅ h₆ h₇ h₈
  · subst h₁; rfl
  · subst h₂; rfl
  · subst h₃; rfl
  · subst h₄; rfl
  · subst h₅; rfl
  · subst h₆; rfl
  · subst h₇; rfl
  · have hescape : escape? ('u' :: (Text.hex 4 c.toNat ++ cs)) = some (c, cs) :=
      unicodeEscape?_control h₈ cs
    simp only [List.cons_append, stringBody]
    rw [hescape]
  · simp only [List.cons_append, List.nil_append]
    rw [stringBody.eq_3 _ _ _ _ h₁ h₂, if_neg h₈]

/-- **A text is read from its escapes.** -/
theorem stringBody_written (cs taken rest : List Char) (hfuel : cs.length ≤ fuel) :
    stringBody fuel taken (cs.flatMap escapedChar ++ '"' :: rest) =
      .ok (String.ofList (taken.reverse ++ cs), rest) := by
  induction cs generalizing fuel taken with
  | nil => cases fuel <;> simp [stringBody]
  | cons c cs ih =>
    obtain ⟨fuel, rfl⟩ : ∃ n, fuel = n + 1 := ⟨fuel - 1, by simp at hfuel; omega⟩
    rw [List.flatMap_cons, List.append_assoc, stringBody_escapedChar,
      ih (c :: taken) (by simpa using hfuel)]
    simp

/-! ## Numbers -/

/-- A number in digits starts with a digit, and with a zero only if it is zero. -/
theorem head_toDigits (n : Nat) :
    ∃ c cs, Nat.toDigits 10 n = c :: cs ∧ c.isDigit = true ∧ (c = '0' → n = 0 ∧ cs = []) := by
  induction n using Nat.strongRecOn with
  | ind n ih =>
    by_cases hn : n < 10
    · refine ⟨n.digitChar, [], Nat.toDigits_of_lt_base hn, ?_, ?_⟩
      · interval_cases n <;> rfl
      · interval_cases n <;> simp
    · obtain ⟨c, cs, hdigits, hc, hzero⟩ := ih (n / 10) (by omega)
      refine ⟨c, cs ++ [(n % 10).digitChar], ?_, hc, fun h => ?_⟩
      · rw [Nat.toDigits_of_base_le (by norm_num) (by omega), hdigits, List.cons_append]
      · have := (hzero h).1
        omega

theorem takeDigits_append {ds : List Char} (hds : ∀ c ∈ ds, c.isDigit = true)
    (hrest : ∀ c ∈ rest.head?, c.isDigit = false) :
    Binary64.takeDigits (ds ++ rest) = (ds, rest) := by
  have hstop : rest.takeWhile Char.isDigit = [] ∧ rest.dropWhile Char.isDigit = rest := by
    cases rest with
    | nil => exact ⟨rfl, rfl⟩
    | cons c cs => simp [hrest c rfl]
  unfold Binary64.takeDigits
  rw [List.takeWhile_append_of_pos hds, List.dropWhile_append_of_pos hds, hstop.1, hstop.2,
    List.append_nil]

theorem Ends.no_digit (h : Ends rest) : ∀ c ∈ rest.head?, c.isDigit = false := by
  intro c hc
  rcases h c hc with rfl | rfl <;> rfl

/-- No point and no exponent follows. -/
theorem Ends.no_places (h : Ends rest) : fractionPart rest = ([], rest) := by
  cases rest with
  | nil => rfl
  | cons c cs => rcases h c rfl with rfl | rfl <;> rfl

theorem Ends.no_exponent (h : Ends rest) : exponentPart rest = none := by
  cases rest with
  | nil => rfl
  | cons c cs => rcases h c rfl with rfl | rfl <;> rfl

/-- The digits of a natural number are its whole part. -/
theorem wholePart_toDigits (n : Nat) (h : Ends rest) :
    wholePart (Nat.toDigits 10 n ++ rest) = (Nat.toDigits 10 n, rest) := by
  obtain ⟨c, cs, hdigits, hc, hzero⟩ := head_toDigits n
  by_cases hcz : c = '0'
  · obtain ⟨rfl, rfl⟩ := hzero hcz
    rfl
  · have hall : ∀ d ∈ Nat.toDigits 10 n, d.isDigit = true := fun d hd =>
      Nat.isDigit_of_mem_toDigits (by norm_num) (by norm_num) hd
    rw [← takeDigits_append hall h.no_digit, hdigits, List.cons_append]
    unfold wholePart
    split
    · rename_i heq
      exact absurd (List.cons.inj heq).1 hcz
    · rfl

theorem digitsValue_toDigits (n : Nat) : Binary64.digitsValue (Nat.toDigits 10 n) = n := by
  rw [Binary64.digitsValue, ← Nat.ofDigitChars_eq_foldl, Nat.ofDigitChars_ten_toDigits]

/-- No word starts with a digit, nor goes on with one after a minus. -/
theorem scalar_digit {c : Char} (hc : c.isDigit = true) (cs : List Char) :
    scalar (c :: cs) = number (c :: cs) ∧ scalar ('-' :: c :: cs) = number ('-' :: c :: cs) := by
  have hrange : 48 ≤ c.toNat ∧ c.toNat ≤ 57 := by
    simpa [Char.isDigit, UInt32.le_iff_toNat_le] using hc
  obtain ⟨hlow, hhigh⟩ := hrange
  have hdigit : c = Char.ofNat c.toNat := (Char.ofNat_toNat c).symm
  generalize c.toNat = n at hlow hhigh hdigit
  subst hdigit
  interval_cases n <;> exact ⟨rfl, rfl⟩

/-- A number is read from its sign and its digits. -/
theorem number_toDigits {n : Nat} (hn : n < 10 ^ maxIntegerDigits) (h : Ends rest) :
    number (Nat.toDigits 10 n ++ rest) = .ok (.int n, rest) ∧
      number ('-' :: (Nat.toDigits 10 n ++ rest)) = .ok (.int (-n), rest) := by
  have hlength : ¬ maxIntegerDigits < (Nat.toDigits 10 n).length :=
    Nat.not_lt.mpr ((Nat.length_toDigits_le_iff (by norm_num) (by decide)).mpr hn)
  have hwhole := wholePart_toDigits n h
  have hvalue := digitsValue_toDigits n
  obtain ⟨c, cs, hdigits, hc, -⟩ := head_toDigits n
  rw [hdigits] at hwhole hvalue hlength ⊢
  rw [List.cons_append] at hwhole ⊢
  have hminus : c ≠ '-' := by
    rintro rfl
    cases hc
  constructor
  · simpa [number, hminus, hwhole, h.no_places, h.no_exponent, hvalue] using hlength
  · simpa [number, hwhole, h.no_places, h.no_exponent, hvalue] using hlength

/-- **A whole number is read from its digits.** -/
theorem scalar_int {n : Int} (hn : n.natAbs < 10 ^ maxIntegerDigits) (h : Ends rest) :
    scalar ((toString n).toList ++ rest) = .ok (.int n, rest) := by
  have hdigits (k : Nat) : (toString k).toList = Nat.toDigits 10 k := by
    rw [Nat.toString_eq_ofList_toDigits, String.toList_ofList]
  cases n with
  | ofNat k =>
    obtain ⟨c, cs, hk, hc, -⟩ := head_toDigits k
    have hread : number (Nat.toDigits 10 k ++ rest) = .ok (.int k, rest) := (number_toDigits hn h).1
    rw [hk] at hread
    calc scalar ((toString k).toList ++ rest)
        = scalar (c :: (cs ++ rest)) := by rw [hdigits, hk, List.cons_append]
      _ = .ok (.int k, rest) := (scalar_digit hc _).1.trans hread
  | negSucc k =>
    obtain ⟨c, cs, hk, hc, -⟩ := head_toDigits (k + 1)
    have hread : number ('-' :: (Nat.toDigits 10 (k + 1) ++ rest)) =
        .ok (.int (-((k + 1 : Nat) : Int)), rest) := (number_toDigits hn h).2
    rw [hk] at hread
    calc scalar (("-" ++ toString (k + 1)).toList ++ rest)
        = scalar ('-' :: c :: (cs ++ rest)) := by
          rw [String.toList_append, hdigits, hk]
          rfl
      _ = .ok (.int (Int.negSucc k), rest) := (scalar_digit hc _).2.trans hread

theorem scalar_null (rest : List Char) : scalar ("null".toList ++ rest) = .ok (.null, rest) := rfl

theorem scalar_bool (b : Bool) (rest : List Char) :
    scalar ((if b then "true" else "false" : String).toList ++ rest) = .ok (.bool b, rest) := by
  cases b <;> rfl

/-! ## Blanks -/

/-- A text that starts with no blank. -/
def NoBlank (cs : List Char) : Prop := ∃ c t, cs = c :: t ∧ isSpace c = false

theorem skipSpaces_append (blanks : List Char) {cs : List Char}
    (hblanks : ∀ c ∈ blanks, isSpace c = true) (hcs : NoBlank cs) :
    skipSpaces (blanks ++ cs) = cs := by
  obtain ⟨c, t, rfl, hc⟩ := hcs
  unfold skipSpaces
  rw [List.dropWhile_append_of_pos hblanks]
  simp [hc]

/-- The blanks at the front of a line. -/
def margin (depth : Nat) : List Char := List.replicate (2 * depth) ' '

/-- A line break and the blanks of the next line are skipped. -/
theorem skipSpaces_line (depth : Nat) {cs : List Char} (hcs : NoBlank cs) :
    skipSpaces ('\n' :: (margin depth ++ cs)) = cs := by
  have hblanks : ∀ c ∈ '\n' :: margin depth, isSpace c = true := by
    intro c hc
    rcases List.mem_cons.mp hc with rfl | hc
    · rfl
    · rw [List.eq_of_mem_replicate hc]
      rfl
  exact skipSpaces_append ('\n' :: margin depth) hblanks hcs

/-- What is read as a value starts with no blank, and does not close a list. -/
theorem noBlank_of_value {cs : List Char} {r : Json × List Char} (h : value fuel cs = .ok r) :
    NoBlank cs ∧ ∀ t, cs ≠ ']' :: t := by
  cases fuel with
  | zero => cases h
  | succ fuel =>
    cases cs with
    | nil => cases h
    | cons c t =>
      refine ⟨⟨c, t, rfl, ?_⟩, ?_⟩
      · by_contra hc
        simp only [isSpace, Bool.not_eq_false, Bool.or_eq_true, decide_eq_true_eq] at hc
        rcases hc with ((rfl | rfl) | rfl) | rfl <;> cases h
      · rintro u hu
        cases hu
        cases h

/-- A value that is read as a word or a number. -/
theorem value_of_scalar {cs : List Char} {r : Json × List Char} (h : scalar cs = .ok r) :
    value (fuel + 1) cs = .ok r := by
  rw [value.eq_4, h]
  all_goals
    rintro t rfl
    cases h

/-! ## Items and members -/

variable {v : Json} {vs : List Json} {k : String} {more : List (String × Json)}
  {cs after next : List Char}

theorem elements_last (hv : value fuel cs = .ok (v, after))
    (hclose : skipSpaces after = ']' :: rest) : elements (fuel + 1) cs = .ok ([v], rest) := by
  simp only [elements, hv, hclose, bind, Except.bind, pure, Except.pure]

theorem elements_next (hv : value fuel cs = .ok (v, after))
    (hcomma : skipSpaces after = ',' :: next)
    (hvs : elements fuel (skipSpaces next) = .ok (vs, rest)) :
    elements (fuel + 1) cs = .ok (v :: vs, rest) := by
  simp only [elements, hv, hcomma, hvs, bind, Except.bind, pure, Except.pure]

/-- What stands after the name of a member: a colon, a blank and a value. -/
theorem skipSpaces_colon {text : List Char} (hv : value fuel text = .ok (v, after)) :
    skipSpaces (':' :: ' ' :: text) = ':' :: ' ' :: text ∧ skipSpaces (' ' :: text) = text :=
  ⟨rfl, skipSpaces_append [' '] (by simp [isSpace]) (noBlank_of_value hv).1⟩

theorem members_last {text : List Char} (hk : stringBody fuel [] cs = .ok (k, ':' :: ' ' :: text))
    (hv : value fuel text = .ok (v, after)) (hclose : skipSpaces after = '\x7d' :: rest) :
    members (fuel + 1) ('"' :: cs) = .ok ([(k, v)], rest) := by
  obtain ⟨hcolon, htext⟩ := skipSpaces_colon hv
  simp only [members, hk, hcolon, htext, hv, hclose, bind, Except.bind, pure, Except.pure]

theorem members_next {text : List Char} (hk : stringBody fuel [] cs = .ok (k, ':' :: ' ' :: text))
    (hv : value fuel text = .ok (v, after)) (hcomma : skipSpaces after = ',' :: next)
    (hmore : members fuel (skipSpaces next) = .ok (more, rest)) :
    members (fuel + 1) ('"' :: cs) = .ok ((k, v) :: more, rest) := by
  obtain ⟨hcolon, htext⟩ := skipSpaces_colon hv
  simp only [members, hk, hcolon, htext, hv, hcomma, hmore, bind, Except.bind, pure, Except.pure]

/-- What is read as items starts as a value does. -/
theorem noBlank_of_elements {r : List Json × List Char} (h : elements fuel cs = .ok r) :
    NoBlank cs ∧ ∀ t, cs ≠ ']' :: t := by
  cases fuel with
  | zero => cases h
  | succ fuel =>
    cases hv : value fuel cs with
    | error e =>
      rw [elements, hv] at h
      cases h
    | ok v => exact noBlank_of_value hv

/-- What is read as members starts with the quote of a name. -/
theorem quote_of_members {r : List (String × Json) × List Char} (h : members fuel cs = .ok r) :
    ∃ t, cs = '"' :: t := by
  unfold members at h
  split at h
  · exact ⟨_, rfl⟩
  · cases h

/-- A list of items on lines of their own. -/
theorem value_list {r : List Json × List Char} (hitems : elements fuel cs = .ok r) (depth : Nat) :
    value (fuel + 1) ('[' :: '\n' :: (margin depth ++ cs)) = .ok (.list r.1, r.2) := by
  have hstart := noBlank_of_elements hitems
  rw [value, skipSpaces_line depth hstart.1]
  split
  · rename_i t
    exact absurd rfl (hstart.2 t)
  · rw [hitems]
    rfl

/-- An object with its members on lines of their own. -/
theorem value_object {r : List (String × Json) × List Char} (hmembers : members fuel cs = .ok r)
    (depth : Nat) :
    value (fuel + 1) ('\x7b' :: '\n' :: (margin depth ++ cs)) =
      .ok (.object (Members.ofList r.1), r.2) := by
  obtain ⟨t, rfl⟩ := quote_of_members hmembers
  rw [value, skipSpaces_line depth ⟨'"', t, rfl, rfl⟩]
  split
  · rename_i heq
    cases heq
  · rw [hmembers]
    rfl

/-! ## Layouts -/

/-- Entries on lines of their own, from the first one on. -/
def rows (depth : Nat) : List (List Char) → List Char
  | [] => []
  | [e] => e
  | e :: f :: es => e ++ ',' :: '\n' :: (margin depth ++ rows depth (f :: es))

theorem intercalate_eq_rows (depth : Nat) (e : List Char) (es : List (List Char)) :
    [',', '\n'].intercalate ((e :: es).map (margin depth ++ ·)) =
      margin depth ++ rows depth (e :: es) := by
  induction es generalizing e with
  | nil => simp [rows]
  | cons f es ih =>
    rw [List.map_cons, List.intercalate_cons_of_ne_nil (by simp), ih]
    simp [rows]

/-- What comes after an entry, a comma or a line break, ends its value. -/
theorem ends_comma (rest : List Char) : Ends (',' :: rest) := by
  rintro c ⟨⟩
  exact .inl rfl

theorem ends_line (rest : List Char) : Ends ('\n' :: rest) := by
  rintro c ⟨⟩
  exact .inr rfl

/-- A text that is read as a value, whatever ends it. -/
def Spells (text : List Char) (v : Json) : Prop :=
  ∀ fuel rest, Ends rest → 2 * text.length + 1 ≤ fuel → value fuel (text ++ rest) = .ok (v, rest)

/-- A text that is read as a member. -/
def SpellsMember (text : List Char) (kv : String × Json) : Prop :=
  ∃ t, Spells t kv.2 ∧
    text = '"' :: (kv.1.toList.flatMap escapedChar ++ '"' :: ':' :: ' ' :: t)

theorem Spells.of_scalar {text : List Char}
    (h : ∀ rest, Ends rest → scalar (text ++ rest) = .ok (v, rest)) : Spells text v := by
  intro fuel rest hrest hfuel
  obtain ⟨fuel, rfl⟩ : ∃ n, fuel = n + 1 := ⟨fuel - 1, by omega⟩
  exact value_of_scalar (h rest hrest)

/-- The escapes of a text are at least as long as the text. -/
theorem length_le_escaped (cs : List Char) : cs.length ≤ (cs.flatMap escapedChar).length := by
  have hchar (c : Char) : 1 ≤ (escapedChar c).length := by
    unfold escapedChar
    split_ifs <;> simp
  induction cs with
  | nil => simp
  | cons c cs ih =>
    have := hchar c
    rw [List.flatMap_cons, List.length_append, List.length_cons]
    omega

theorem spells_text (s : String) : Spells (stringText s).toList (.text s) := by
  intro fuel rest hrest hfuel
  obtain ⟨fuel, rfl⟩ : ∃ n, fuel = n + 1 := ⟨fuel - 1, by omega⟩
  have hlength := length_le_escaped s.toList
  have htext : (stringText s).toList ++ rest =
      '"' :: (s.toList.flatMap escapedChar ++ '"' :: rest) := by simp [stringText]
  have hsize : (stringText s).toList.length = (s.toList.flatMap escapedChar).length + 2 := by
    simp [stringText]
  rw [htext, value, stringBody_written s.toList [] rest (by omega)]
  simp [bind, Except.bind, pure, Except.pure]

variable {texts : List (List Char)}

/-- Items are read from their rows, by induction on the rows. -/
theorem elements_rows (h : List.Forall₂ Spells texts vs) (hne : texts ≠ [])
    (depth closing fuel : Nat) (rest : List Char)
    (hfuel : 2 * (rows depth texts).length + 2 ≤ fuel) :
    elements fuel (rows depth texts ++ '\n' :: (margin closing ++ ']' :: rest)) =
      .ok (vs, rest) := by
  induction h generalizing fuel with
  | nil => exact absurd rfl hne
  | @cons t v ts vs ht hts ih =>
    obtain ⟨fuel, rfl⟩ : ∃ n, fuel = n + 1 := ⟨fuel - 1, by omega⟩
    cases hts with
    | nil =>
      exact elements_last (ht fuel _ (ends_line _) (by simp only [rows] at hfuel; omega))
        (skipSpaces_line closing ⟨']', rest, rfl, rfl⟩)
    | @cons u w us ws hu hus =>
      simp only [rows, List.length_append, List.length_cons] at hfuel
      have hitems := ih (by simp) fuel (by omega)
      simp only [rows, List.append_assoc, List.cons_append]
      refine elements_next (ht fuel _ (ends_comma _) (by omega)) rfl ?_
      rw [skipSpaces_line depth (noBlank_of_elements hitems).1]
      exact hitems

/-- Members are read from their rows, by induction on the rows. -/
theorem members_rows (h : List.Forall₂ SpellsMember texts more) (hne : texts ≠ [])
    (depth closing fuel : Nat) (rest : List Char)
    (hfuel : 2 * (rows depth texts).length + 2 ≤ fuel) :
    members fuel (rows depth texts ++ '\n' :: (margin closing ++ '\x7d' :: rest)) =
      .ok (more, rest) := by
  induction h generalizing fuel with
  | nil => exact absurd rfl hne
  | @cons t kv ts kvs ht hts ih =>
    obtain ⟨fuel, rfl⟩ : ∃ n, fuel = n + 1 := ⟨fuel - 1, by omega⟩
    obtain ⟨k, v⟩ := kv
    obtain ⟨t, hv, rfl⟩ := ht
    have hlength := length_le_escaped k.toList
    have hname (after : List Char) (h : k.toList.length ≤ fuel) :
        stringBody fuel [] (k.toList.flatMap escapedChar ++ '"' :: after) = .ok (k, after) := by
      simpa using stringBody_written k.toList [] after h
    cases hts with
    | nil =>
      simp only [rows, List.length_append, List.length_cons] at hfuel
      simp only [rows, List.append_assoc, List.cons_append]
      exact members_last (hname _ (by omega)) (hv fuel _ (ends_line _) (by omega))
        (skipSpaces_line closing ⟨'\x7d', rest, rfl, rfl⟩)
    | @cons u w us ws hu hus =>
      simp only [rows, List.length_append, List.length_cons] at hfuel
      have hmore := ih (by simp) fuel (by omega)
      obtain ⟨q, hq⟩ := quote_of_members hmore
      simp only [rows, List.append_assoc, List.cons_append]
      refine members_next (hname _ (by omega)) (hv fuel _ (ends_comma _) (by omega)) rfl ?_
      rw [skipSpaces_line depth ⟨'"', q, hq, rfl⟩]
      exact hmore

theorem toList_block_nil (opening closing : String) (depth : Nat) :
    (block opening closing depth []).toList = opening.toList ++ closing.toList := by
  simp [block]

/-- A block that holds something is its brackets around its rows. -/
theorem toList_block (opening closing : Char) (depth : Nat) {entries : List String}
    (hne : entries ≠ []) :
    (block (String.singleton opening) (String.singleton closing) depth entries).toList =
      opening :: '\n' :: (margin (depth + 1) ++ (rows (depth + 1) (entries.map String.toList) ++
        '\n' :: (margin depth ++ [closing]))) := by
  obtain ⟨e, es, rfl⟩ := List.exists_cons_of_ne_nil hne
  have hrows := intercalate_eq_rows (depth + 1) e.toList (es.map String.toList)
  have hmargin : (fun s : String => s.toList) ∘
      (fun s => String.ofList (List.replicate (2 * (depth + 1)) ' ') ++ s) =
      (margin (depth + 1) ++ ·) ∘ String.toList := by
    funext s
    simp [margin]
  have hseparator : ",\n".toList = [',', '\n'] := rfl
  have hbreak : "\n".toList = ['\n'] := rfl
  unfold block
  simp only [List.isEmpty_cons, Bool.false_eq_true, if_false, String.toList_append,
    String.toList_intercalate, List.map_map]
  rw [hmargin, ← List.map_map, List.map_cons, hseparator, hbreak, hrows]
  simp [margin]

theorem spells_list {entries : List String}
    (h : List.Forall₂ Spells (entries.map String.toList) vs) (depth : Nat) :
    Spells (block "[" "]" depth entries).toList (.list vs) := by
  intro fuel rest hrest hfuel
  obtain ⟨fuel, rfl⟩ : ∃ n, fuel = n + 1 := ⟨fuel - 1, by omega⟩
  by_cases hne : entries = []
  · subst hne
    cases h
    rw [toList_block_nil]
    rfl
  · have hblock := toList_block '[' ']' depth hne
    rw [show String.singleton '[' = "[" from rfl, show String.singleton ']' = "]" from rfl] at hblock
    rw [hblock] at hfuel ⊢
    simp only [List.length_append, List.length_cons] at hfuel
    have hitems := elements_rows h (by simpa using hne) (depth + 1) depth fuel rest (by omega)
    simpa using value_list hitems (depth + 1)

theorem spells_object {entries : List String} (hmore : (Members.keys more).Nodup)
    (h : List.Forall₂ SpellsMember (entries.map String.toList) more) (depth : Nat) :
    Spells (block "\x7b" "\x7d" depth entries).toList (.object more) := by
  intro fuel rest hrest hfuel
  obtain ⟨fuel, rfl⟩ : ∃ n, fuel = n + 1 := ⟨fuel - 1, by omega⟩
  by_cases hne : entries = []
  · subst hne
    cases h
    rw [toList_block_nil]
    rfl
  · have hblock := toList_block '\x7b' '\x7d' depth hne
    rw [show String.singleton '\x7b' = "\x7b" from rfl,
      show String.singleton '\x7d' = "\x7d" from rfl] at hblock
    rw [hblock] at hfuel ⊢
    simp only [List.length_append, List.length_cons] at hfuel
    have hmembers := members_rows h (by simpa using hne) (depth + 1) depth fuel rest (by omega)
    have hvalue := value_object hmembers (depth + 1)
    rw [Members.ofList_eq_self hmore] at hvalue
    simpa using hvalue

mutual
/-- **The layout of a legible value spells it**, at any depth. -/
theorem spells_prettyAt (depth : Nat) : ∀ v : Json, v.Legible → Spells (prettyAt depth v).toList v
  | .null, _ => .of_scalar fun rest _ => scalar_null rest
  | .bool b, _ => .of_scalar fun rest _ => scalar_bool b rest
  | .int _, hn => .of_scalar fun _ => scalar_int hn
  | .real _, hx => .of_scalar hx
  | .text s, _ => spells_text s
  | .list items, hitems => spells_list (spells_prettyItems (depth + 1) items hitems) depth
  | .object more, hmore => spells_object hmore.1 (spells_prettyMembers (depth + 1) more hmore.2) depth

theorem spells_prettyItems (depth : Nat) : ∀ items : List Json, AllLegible items →
    List.Forall₂ Spells ((prettyItems depth items).map String.toList) items
  | [], _ => .nil
  | v :: rest, h => .cons (spells_prettyAt depth v h.1) (spells_prettyItems depth rest h.2)

theorem spells_prettyMembers (depth : Nat) : ∀ more : List (String × Json), MembersLegible more →
    List.Forall₂ SpellsMember ((prettyMembers depth more).map String.toList) more
  | [], _ => .nil
  | (k, v) :: rest, h =>
    .cons ⟨_, spells_prettyAt depth v h.1, by simp [stringText]⟩ (spells_prettyMembers depth rest h.2)
end

end Parser

/-- **A legible value is read back** from its layout with one item or member to a line. -/
theorem parse_pretty {v : Json} (h : v.Legible) : parse v.pretty = .ok v := by
  have hread := Parser.spells_prettyAt 0 v h (2 * v.pretty.toList.length + 2) []
    (by simp [Parser.Ends]) (by unfold pretty; omega)
  rw [List.append_nil] at hread
  have hskip : Parser.skipSpaces v.pretty.toList = v.pretty.toList :=
    Parser.skipSpaces_append [] (by simp) (Parser.noBlank_of_value hread).1
  unfold parse
  dsimp only
  rw [hskip]
  unfold pretty at hread ⊢
  rw [hread]
  rfl

end Json

/-- The timeout of the shipped settings is legible. -/
theorem Binary64.legible_one : Binary64.one.Legible := by
  intro rest hrest
  have htext : (Json.realText .one).toList = ['1', '.', '0'] := rfl
  have hten : Binary64.digitsValue ['1', '0'] = 10 := rfl
  have hvalue : Binary64.ofDecimal false 10 (-1) = .one := rfl
  have hdigits : Binary64.takeDigits ('0' :: rest) = (['0'], rest) :=
    Json.Parser.takeDigits_append (List.forall_mem_singleton.mpr rfl) hrest.no_digit
  have hplaces : Json.Parser.fractionPart ('.' :: '0' :: rest) = (['0'], rest) := by
    simp [Json.Parser.fractionPart, hdigits]
  have hwhole : Json.Parser.wholePart ('1' :: '.' :: '0' :: rest) = (['1'], '.' :: '0' :: rest) := rfl
  rw [htext]
  calc Json.Parser.scalar ('1' :: '.' :: '0' :: rest)
      = Json.Parser.number ('1' :: '.' :: '0' :: rest) := (Json.Parser.scalar_digit rfl _).1
    _ = .ok (.real (Binary64.ofDecimal false 10 (-1)), rest) := by
      simp [Json.Parser.number, hwhole, hplaces, hrest.no_exponent, hten]
    _ = .ok (.real .one, rest) := by rw [hvalue]

end TabCompletion
