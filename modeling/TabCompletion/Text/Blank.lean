import TabCompletion.Text.Ranges

/-!
# Blank characters

The characters that separate words and are trimmed from the ends of a text: the space, the line
and field separators of ASCII and the space separators of Unicode.

* `fields` are the words of a text, without the blanks between them.
* `isBlank_eq_false_of_mem_fieldsOf`: no word has a blank in it.
* `trimLeft_of_not_head`, `trimRight_concat_of_not`: nothing is trimmed from an end that is not
  blank.
-/

namespace TabCompletion.Text

/-- The blank code points. -/
def blankRanges : Ranges :=
  [(0x09, 0x0D), (0x1C, 0x20), (0x85, 0x85), (0xA0, 0xA0), (0x1680, 0x1680), (0x2000, 0x200A),
   (0x2028, 0x2029), (0x202F, 0x202F), (0x205F, 0x205F), (0x3000, 0x3000)]

/-- Whether a character is blank. -/
def isBlank (c : Char) : Bool := blankRanges.has c.toNat

/-- `cs` without the characters of `p` at its start. -/
def trimLeft (p : Char → Bool) (cs : List Char) : List Char := cs.dropWhile p

/-- `cs` without the characters of `p` at its end. -/
def trimRight (p : Char → Bool) (cs : List Char) : List Char :=
  (cs.reverse.dropWhile p).reverse

/-- `cs` without the characters of `p` at its two ends. -/
def trimWith (p : Char → Bool) (cs : List Char) : List Char := trimRight p (trimLeft p cs)

/-- The text without the blanks at its two ends. -/
def trim (s : String) : String := String.ofList (trimWith isBlank s.toList)

theorem trimLeft_of_not_head {p : Char → Bool} {c : Char} {cs : List Char} (h : p c = false) :
    trimLeft p (c :: cs) = c :: cs := by
  simp [trimLeft, h]

theorem trimRight_concat_of_not {p : Char → Bool} {c : Char} {cs : List Char} (h : p c = false) :
    trimRight p (cs ++ [c]) = cs ++ [c] := by
  simp [trimRight, h]

/-! ## Words -/

/-- The words of `cs`, of whose first word `taken` was read already, last character first. -/
def fieldsFrom (taken : List Char) : List Char → List (List Char)
  | [] => if taken.isEmpty then [] else [taken.reverse]
  | c :: rest =>
    if isBlank c then
      if taken.isEmpty then fieldsFrom [] rest else taken.reverse :: fieldsFrom [] rest
    else fieldsFrom (c :: taken) rest

/-- The words of `cs`: its longest stretches without a blank. -/
def fieldsOf (cs : List Char) : List (List Char) := fieldsFrom [] cs

/-- The words of a text. -/
def fields (s : String) : List String := (fieldsOf s.toList).map String.ofList

theorem isBlank_eq_false_of_mem_fieldsFrom {taken cs : List Char}
    (h : ∀ c ∈ taken, isBlank c = false) :
    ∀ word ∈ fieldsFrom taken cs, ∀ c ∈ word, isBlank c = false := by
  induction cs generalizing taken with
  | nil =>
    intro word hw c hc
    unfold fieldsFrom at hw
    split at hw
    · simp at hw
    · obtain rfl := List.mem_singleton.mp hw
      exact h c (List.mem_reverse.mp hc)
  | cons d rest ih =>
    intro word hw c hc
    unfold fieldsFrom at hw
    split at hw
    · split at hw
      · exact ih (by simp) word hw c hc
      · rcases List.mem_cons.mp hw with rfl | hw
        · exact h c (List.mem_reverse.mp hc)
        · exact ih (by simp) word hw c hc
    · rename_i hd
      refine ih (fun e he => ?_) word hw c hc
      rcases List.mem_cons.mp he with rfl | he
      · simpa using hd
      · exact h e he

theorem isBlank_eq_false_of_mem_fieldsOf {cs word : List Char} (h : word ∈ fieldsOf cs) :
    ∀ c ∈ word, isBlank c = false :=
  isBlank_eq_false_of_mem_fieldsFrom (by simp) word h

end TabCompletion.Text
