import TabCompletion.Answer

/-!
# The last command of a line

Delimiters are found from the left, and one that is found is used up: of three bars the first two
are a delimiter, and the third begins the next command. What stands before the last delimiter is
cut off whatever it is, with its quotes and backslashes, and nothing in it can change how the rest
is read, unless it ends in the first half of the delimiter.

* `segmentFrom_append`: a text without delimiters in front, if none reaches over its end.
* `segmentFrom_of_delimiterFree`: a line without delimiters is its own last segment.
* `exists_delimiter`: a text with delimiters is cut behind its first one.
* `exists_cut`: a line is a text that is cut off from whatever follows it, and its last segment.
* `delimiterFree_segmentFrom`: the last segment has no delimiter.
* **`last_segment_counts`**: what is before a delimiter does not count for segment, tokens or offer.
-/

namespace TabCompletion

/-- What holds of every character of a text is found out along the text, rather than for every
character that there is. -/
theorem forall_mem_of_all {cs : List Char} {P : Char → Prop} [DecidablePred P]
    (h : cs.all (fun c => decide (P c)) = true) : ∀ c ∈ cs, P c :=
  fun c hc => of_decide_eq_true (List.all_eq_true.mp h c hc)

/-! ## Delimiters -/

/-- The texts that separate commands. -/
def delimiters : List (List Char) := [['|', '|'], ['&', '&'], [';']]

theorem delimiter_cases {d : List Char} (hd : d ∈ delimiters) :
    d = ['|', '|'] ∨ d = ['&', '&'] ∨ d = [';'] := by
  simpa [delimiters] using hd

theorem length_of_delimiter {d : List Char} (hd : d ∈ delimiters) :
    0 < d.length ∧ d.length ≤ 2 := by
  rcases delimiter_cases hd with rfl | rfl | rfl <;> decide

/-- A delimiter of two characters repeats its first one. -/
theorem head_eq_of_delimiter {c e : Char} (h : [c, e] ∈ delimiters) : c = e := by
  rcases delimiter_cases h with h | h | h <;> cases h <;> rfl

/-- A blank is no part of a delimiter. -/
theorem not_mem_of_blank {d : List Char} {c : Char} (hd : d ∈ delimiters)
    (hc : Text.isBlank c = true) : c ∉ d := by
  intro hmem
  rcases delimiter_cases hd with rfl | rfl | rfl <;> simp only [List.mem_cons, List.not_mem_nil,
    or_false, or_self] at hmem <;> subst hmem <;> exact absurd hc (by decide)

/-- A text that no delimiter occurs in. -/
def DelimiterFree (cs : List Char) : Prop := ∀ d ∈ delimiters, ¬ d <:+: cs

/-- A text without the characters that delimiters begin with has no delimiter. -/
theorem delimiterFree_of_chars {cs : List Char} (h : ∀ c ∈ cs, c ≠ '|' ∧ c ≠ '&' ∧ c ≠ ';') :
    DelimiterFree cs := by
  intro d hd hin
  rcases delimiter_cases hd with rfl | rfl | rfl
  · exact (h '|' (hin.subset List.mem_cons_self)).1 rfl
  · exact (h '&' (hin.subset List.mem_cons_self)).2.1 rfl
  · exact (h ';' (hin.subset List.mem_cons_self)).2.2 rfl

/-- Blanks make no delimiters. -/
theorem delimiterFree_of_blank {cs : List Char} (h : ∀ c ∈ cs, Text.isBlank c = true) :
    DelimiterFree cs := by
  intro d hd hin
  obtain ⟨c, hc⟩ := List.exists_mem_of_length_pos (length_of_delimiter hd).1
  exact not_mem_of_blank hd (h c (hin.subset hc)) hc

theorem delimiterFree_of_cons {c : Char} {cs : List Char} (h : DelimiterFree (c :: cs)) :
    DelimiterFree cs :=
  fun d hd hin => h d hd (List.infix_cons hin)

/-! ## Texts that meet -/

/-- No delimiter begins at the end of the one text and goes on in the other. -/
def Apart (w rest : List Char) : Prop :=
  ∀ c e, w.getLast? = some c → rest.head? = some e → [c, e] ∉ delimiters

/-- A delimiter at the start of a text does not reach over two characters. -/
theorem prefix_of_delimiter {d w rest : List Char} (hd : d ∈ delimiters) (hw : 2 ≤ w.length)
    (h : d <+: w ++ rest) : d <+: w :=
  List.prefix_of_prefix_length_le h (List.prefix_append _ _)
    (Nat.le_trans (length_of_delimiter hd).2 hw)

theorem apart_of_cons {c : Char} {w rest : List Char} (h : Apart (c :: w) rest) :
    Apart w rest := by
  intro a e ha he
  refine h a e ?_ he
  rw [List.getLast?_cons, ha]
  rfl

/-- A text that ends in a blank is apart from any other. -/
theorem apart_of_blank_left {w : List Char}
    (h : ∀ c, w.getLast? = some c → Text.isBlank c = true) (rest : List Char) : Apart w rest :=
  fun c _ hc _ hd => not_mem_of_blank hd (h c hc) List.mem_cons_self

/-- A text that begins with a blank is apart from any other. -/
theorem apart_of_blank_right {rest : List Char} (w : List Char)
    (h : ∀ e, rest.head? = some e → Text.isBlank e = true) : Apart w rest :=
  fun _ e _ he hd => not_mem_of_blank hd (h e he) (by simp)

/-- No delimiter begins where a text without delimiters does. -/
theorem not_prefix_append {c : Char} {w rest : List Char} (hw : DelimiterFree (c :: w))
    (h : Apart (c :: w) rest) : ∀ d ∈ delimiters, ¬ d <+: c :: (w ++ rest) := by
  intro d hd hp
  cases w with
  | cons c' w =>
    have hlen : 2 ≤ (c :: c' :: w).length := by simp
    exact hw d hd (prefix_of_delimiter hd hlen hp).isInfix
  | nil =>
    cases rest with
    | nil => exact hw d hd hp.isInfix
    | cons e rest =>
      have hp' : d <+: [c, e] := prefix_of_delimiter (w := [c, e]) hd (Nat.le_refl 2) hp
      rcases Nat.lt_or_ge d.length 2 with hlt | hge
      · have hc : d <+: [c] :=
          List.prefix_of_prefix_length_le hp' ⟨[e], rfl⟩ (Nat.le_of_lt_succ hlt)
        exact hw d hd hc.isInfix
      · exact h c e rfl rfl (hp'.eq_of_length_le hge ▸ hd)

/-- Texts without delimiters that are apart have none together. -/
theorem delimiterFree_append {w rest : List Char} (hw : DelimiterFree w)
    (hrest : DelimiterFree rest) (h : Apart w rest) : DelimiterFree (w ++ rest) := by
  induction w with
  | nil => exact hrest
  | cons c w ih =>
    intro d hd hin
    rcases List.infix_cons_iff.mp hin with hp | hin
    · exact not_prefix_append hw h d hd hp
    · exact ih (delimiterFree_of_cons hw) (apart_of_cons h) d hd hin

/-! ## The segment -/

/-- A character that begins no delimiter belongs to the segment. -/
theorem segmentFrom_cons {taken : List Char} {c : Char} {rest : List Char}
    (h : ∀ d ∈ delimiters, ¬ d <+: c :: rest) :
    segmentFrom taken (c :: rest) = segmentFrom (c :: taken) rest := by
  rw [segmentFrom.eq_def]
  split
  · rename_i heq
    exact absurd ⟨_, heq.symm⟩ (h ['|', '|'] (by simp [delimiters]))
  · rename_i heq
    exact absurd ⟨_, heq.symm⟩ (h ['&', '&'] (by simp [delimiters]))
  · rename_i heq
    exact absurd ⟨_, heq.symm⟩ (h [';'] (by simp [delimiters]))
  · rename_i heq
    cases heq
    rfl
  · rename_i heq
    cases heq

/-- **A text without delimiters belongs to the segment**, if none reaches over its end. -/
theorem segmentFrom_append {w rest : List Char} (hw : DelimiterFree w) (h : Apart w rest)
    (taken : List Char) :
    segmentFrom taken (w ++ rest) = segmentFrom (w.reverse ++ taken) rest := by
  induction w generalizing taken with
  | nil => rfl
  | cons c w ih =>
    rw [List.cons_append, segmentFrom_cons (not_prefix_append hw h),
      ih (delimiterFree_of_cons hw) (apart_of_cons h), List.reverse_cons, List.append_assoc,
      List.singleton_append]

/-- **A line without delimiters is its own last segment.** -/
theorem segmentFrom_of_delimiterFree {cs : List Char} (h : DelimiterFree cs) (taken : List Char) :
    segmentFrom taken cs = taken.reverse ++ cs := by
  have hread := segmentFrom_append h (@apart_of_blank_right [] cs nofun) taken
  rwa [List.append_nil, segmentFrom, List.reverse_append, List.reverse_reverse] at hread

/-! ## The cut -/

/-- A delimiter begins a new segment. -/
theorem segmentFrom_delimiter {d : List Char} (hd : d ∈ delimiters) (taken rest : List Char) :
    segmentFrom taken (d ++ rest) = segmentFrom [] rest := by
  rcases delimiter_cases hd with rfl | rfl | rfl
  · exact segmentFrom.eq_1 taken rest
  · exact segmentFrom.eq_2 taken rest
  · exact segmentFrom.eq_3 taken rest

/-- **A text with delimiters is cut behind its first one**, whatever comes after it. -/
theorem exists_delimiter {cs : List Char} (h : ¬ DelimiterFree cs) :
    ∃ before d rest, d ∈ delimiters ∧ cs = before ++ d ++ rest ∧
      ∀ taken after, segmentFrom taken (before ++ d ++ after) = segmentFrom [] after := by
  induction cs with
  | nil =>
    refine absurd (fun d hd hin => ?_) h
    rw [List.infix_nil.mp hin] at hd
    exact absurd hd (by decide)
  | cons c cs ih =>
    by_cases hfirst : ∃ d ∈ delimiters, d <+: c :: cs
    · obtain ⟨d, hd, rest, hrest⟩ := hfirst
      exact ⟨[], d, rest, hd, hrest.symm, fun taken after => segmentFrom_delimiter hd taken after⟩
    · have hnone : ∀ d ∈ delimiters, ¬ d <+: c :: cs := fun d hd hp => hfirst ⟨d, hd, hp⟩
      have hlater : ¬ DelimiterFree cs := fun hfree => h fun d hd hin =>
        (List.infix_cons_iff.mp hin).elim (hnone d hd) (hfree d hd)
      obtain ⟨before, d, rest, hd, rfl, hcut⟩ := ih hlater
      refine ⟨c :: before, d, rest, hd, rfl, fun taken after => ?_⟩
      -- whether a delimiter begins at `c` is seen from `c` and the character after it
      have hlen : 2 ≤ (c :: (before ++ d)).length := by
        have := (length_of_delimiter hd).1
        simp only [List.length_cons, List.length_append]
        omega
      have hno : ∀ d' ∈ delimiters, ¬ d' <+: c :: (before ++ d ++ after) := fun d' hd' hp =>
        hnone d' hd' ((prefix_of_delimiter (w := c :: (before ++ d)) hd' hlen hp).trans
          (List.prefix_append _ rest))
      rw [List.cons_append, List.cons_append, segmentFrom_cons hno, hcut]

/-- **A line is a text that is cut off, whatever follows it, and its last segment.** -/
theorem exists_cut (cs : List Char) :
    ∃ before, cs = before ++ segmentFrom [] cs ∧
      ∀ after, segmentFrom [] (before ++ after) = segmentFrom [] after := by
  induction hn : cs.length using Nat.strongRecOn generalizing cs with
  | ind n ih =>
    by_cases hfree : DelimiterFree cs
    · exact ⟨[], by simp [segmentFrom_of_delimiterFree hfree], fun after => rfl⟩
    · obtain ⟨before, d, rest, hd, rfl, hcut⟩ := exists_delimiter hfree
      have hlt : rest.length < n := by
        have := (length_of_delimiter hd).1
        simp only [List.length_append] at hn
        omega
      obtain ⟨before', hrest, hcut'⟩ := ih _ hlt rest rfl
      refine ⟨before ++ d ++ before', ?_, fun after => ?_⟩
      · rw [hcut, List.append_assoc _ before', ← hrest]
      · rw [List.append_assoc _ before', hcut, hcut']

theorem segmentFrom_suffix (cs : List Char) : segmentFrom [] cs <:+ cs := by
  obtain ⟨before, hcs, -⟩ := exists_cut cs
  exact ⟨before, hcs.symm⟩

/-- The last segment is its own last segment. -/
theorem segmentFrom_idem (cs : List Char) :
    segmentFrom [] (segmentFrom [] cs) = segmentFrom [] cs := by
  obtain ⟨before, hcs, hcut⟩ := exists_cut cs
  rw [← hcut, ← hcs]

/-- **The last segment has no delimiter.** -/
theorem delimiterFree_segmentFrom (cs : List Char) : DelimiterFree (segmentFrom [] cs) := by
  refine Classical.byContradiction fun hfree => ?_
  obtain ⟨before, d, rest, hd, hseg, hcut⟩ := exists_delimiter hfree
  have hrest : segmentFrom [] cs = segmentFrom [] rest := by
    rw [← segmentFrom_idem, hseg, hcut]
  have hle : (segmentFrom [] cs).length ≤ rest.length := by
    rw [hrest]
    exact (segmentFrom_suffix rest).length_le
  have := (length_of_delimiter hd).1
  rw [hseg] at hle
  simp only [List.length_append] at hle
  omega

/-- A text is apart from a delimiter, if it does not end in the first half of it. -/
theorem apart_of_delimiter {d w : List Char} (hd : d ∈ delimiters)
    (hlast : d.length = 2 → w.getLast? ≠ d.head?) (rest : List Char) : Apart w (d ++ rest) := by
  intro c e hc he htwo
  obtain rfl := head_eq_of_delimiter htwo
  rcases delimiter_cases hd with rfl | rfl | rfl
  · exact hlast rfl (hc.trans he.symm)
  · exact hlast rfl (hc.trans he.symm)
  · obtain rfl := Option.some.inj he
    exact absurd htwo (by decide)

/-! ## Whole lines -/

/-- **A delimiter cuts off what is before it**, if that does not end in its first half. -/
theorem segmentFrom_append_delimiter {d before : List Char} (hd : d ∈ delimiters)
    (hlast : d.length = 2 → before.getLast? ≠ d.head?) (after : List Char) :
    segmentFrom [] (before ++ d ++ after) = segmentFrom [] after := by
  obtain ⟨cut, hbefore, hcut⟩ := exists_cut before
  have hfree := delimiterFree_segmentFrom before
  generalize segmentFrom [] before = w at hbefore hfree
  subst hbefore
  have hw : d.length = 2 → w.getLast? ≠ d.head? := by
    intro htwo hsame
    obtain ⟨c, hc⟩ := Option.isSome_iff_exists.mp
      (List.isSome_head?.mpr (List.ne_nil_of_length_pos (length_of_delimiter hd).1))
    refine hlast htwo ?_
    rw [List.getLast?_append, hsame, hc]
    rfl
  rw [List.append_assoc, List.append_assoc, hcut,
    segmentFrom_append hfree (apart_of_delimiter hd hw after), segmentFrom_delimiter hd]

/-- **Only the last segment counts.** A delimiter that the text before it does not begin already
cuts that text off, with the quotes and backslashes that it leaves open: segment, tokens and offer
are those of the text after it. The last segment is the end of the line, has no delimiter, and is
its own last segment. -/
theorem last_segment_counts :
    (∀ d ∈ delimiters, ∀ before after : String,
      (d.length = 2 → before.toList.getLast? ≠ d.head?) →
      lastSegment (before ++ String.ofList d ++ after) = lastSegment after ∧
      tokens (before ++ String.ofList d ++ after) = tokens after ∧
      ∀ reg : Registry,
        reg.offerFor (before ++ String.ofList d ++ after) = reg.offerFor after) ∧
    ∀ line : String, (lastSegment line).toList <:+ line.toList ∧
      DelimiterFree (lastSegment line).toList ∧
      lastSegment (lastSegment line) = lastSegment line := by
  refine ⟨fun d hd before after hlast => ?_, fun line => ?_⟩
  · have hsegment : segmentFrom [] (before ++ String.ofList d ++ after).toList =
        segmentFrom [] after.toList := by
      rw [String.toList_append, String.toList_append, String.toList_ofList]
      exact segmentFrom_append_delimiter hd hlast _
    have htokens : tokens (before ++ String.ofList d ++ after) = tokens after :=
      congrArg (tokensFrom none) hsegment
    refine ⟨congrArg String.ofList hsegment, htokens, fun reg => ?_⟩
    unfold Registry.offerFor
    rw [htokens]
  · unfold lastSegment
    rw [String.toList_ofList]
    exact ⟨segmentFrom_suffix _, delimiterFree_segmentFrom _, by rw [segmentFrom_idem]⟩

/-- A quote that is left open, and a bar in front of an ampersand, stay in the segment before. -/
theorem last_segment_counts_open :
    "echo 'a|".toList.getLast? ≠ some '&' ∧
    lastSegment "echo 'a|&&git st" = "git st" ∧
    ∀ reg : Registry, reg.offerFor "echo 'a|&&git st" = reg.offerFor "git st" := by
  have hlast : "echo 'a|".toList.getLast? ≠ some '&' := by decide
  obtain ⟨hsegment, -, hoffer⟩ :=
    last_segment_counts.1 ['&', '&'] (by decide) "echo 'a|" "git st" fun _ => hlast
  exact ⟨hlast, hsegment, hoffer⟩

end TabCompletion
