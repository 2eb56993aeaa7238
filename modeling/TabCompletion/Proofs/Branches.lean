import Mathlib
import TabCompletion.Proofs.CommandLine.Segment
import TabCompletion.Source.Branches
import TabCompletion.Text.Blank

/-!
# Reading branch lists

A branch list has one line for each branch: a mark, the name and a line feed (`branchList`). The
branch that is checked out is marked with a star, one that is checked out in another worktree with a
plus, any other with blanks. A line in round brackets says where a detached head stands and names no
branch.

The stars and blanks of a mark are taken away; the plus stays, as if the name began with it.

Results:
* `linesFrom_ended`: lines that are ended by line feeds are found again.
* `branchOfLine_marked`: what is left of one line.
* **`branchNames_branchList`**: what is read of a whole list, line by line.
* **`branches_read_back_iff`**: it is the names if and only if no line has the mark of a worktree.
* `worktree_mark_kept`: a list with such a line.
-/

namespace TabCompletion

/-! ## The lines of a text -/

namespace Text

theorem isBlank_of_isLineBreak {c : Char} (h : isLineBreak c = true) : isBlank c = true := by
  simp only [isLineBreak, List.contains_iff_mem, List.mem_cons, List.not_mem_nil, or_false] at h
  rcases h with rfl | rfl | rfl | rfl | rfl | rfl | rfl | rfl | rfl | rfl <;> decide

/-- A line without breaks of its own is read up to its end. -/
theorem linesFrom_line {line : List Char} (h : ∀ c ∈ line, isLineBreak c = false)
    (taken rest : List Char) :
    linesFrom taken (line ++ '\n' :: rest) = (taken.reverse ++ line) :: linesFrom [] rest := by
  induction line generalizing taken with
  | nil =>
    have hbreak : isLineBreak '\n' = true := rfl
    simp [linesFrom, hbreak]
  | cons c line ih =>
    have hc : isLineBreak c = false := h c List.mem_cons_self
    have hreturn : c ≠ '\r' := by
      rintro rfl
      cases hc
    have hline : ∀ c ∈ line, isLineBreak c = false := fun d hd => h d (List.mem_cons_of_mem _ hd)
    simp [linesFrom, hreturn, hc, ih hline]

/-- **Lines that are ended by line feeds** are found again. -/
theorem linesFrom_ended {lines : List (List Char)}
    (h : ∀ line ∈ lines, ∀ c ∈ line, isLineBreak c = false) :
    linesFrom [] (lines.flatMap (· ++ ['\n'])) = lines := by
  induction lines with
  | nil => rfl
  | cons line rest ih =>
    have hrest := ih fun l hl => h l (List.mem_cons_of_mem _ hl)
    rw [List.flatMap_cons, List.append_assoc, List.singleton_append,
      linesFrom_line (h line List.mem_cons_self), hrest, List.reverse_nil, List.nil_append]

/-- A text that neither begins nor ends with a character of `p` is its own trimming. -/
theorem trimWith_of_ends {p : Char → Bool} {c : Char} {cs : List Char} (hc : p c = false)
    (hlast : ∀ d ∈ (c :: cs).getLast?, p d = false) : trimWith p (c :: cs) = c :: cs := by
  rw [trimWith, trimLeft_of_not_head hc]
  rcases List.eq_nil_or_concat (c :: cs) with h | ⟨front, d, h⟩
  · cases h
  · rw [h, List.concat_eq_append] at hlast ⊢
    exact trimRight_concat_of_not (hlast d List.getLast?_concat)

end Text

/-! ## Branch lists -/

/-- What stands in front of a branch in a list. -/
inductive BranchMark where
  | plain | current | worktree
  deriving DecidableEq, Repr

/-- The characters of a mark. -/
def BranchMark.chars : BranchMark → List Char
  | .plain => [' ', ' ']
  | .current => ['*', ' ']
  | .worktree => ['+', ' ']

/-- The name of a branch. -/
structure BranchName where
  text : String
  ne_empty : text ≠ ""
  unblank : ∀ c ∈ text.toList, Text.isBlank c = false
  no_star : '*' ∉ text.toList
  no_bracket : text.toList.head? ≠ some '('

/-- What a line in round brackets says. -/
structure BranchRemark where
  text : String
  unbroken : ∀ c ∈ text.toList, Text.isLineBreak c = false

/-- A line of a branch list. -/
inductive BranchLine where
  | branch (mark : BranchMark) (name : BranchName)
  | remark (mark : BranchMark) (remark : BranchRemark)

namespace BranchLine

/-- What stands in front. -/
def mark : BranchLine → BranchMark
  | branch mark _ => mark
  | remark mark _ => mark

/-- What stands behind the mark. -/
def entry : BranchLine → List Char
  | branch _ name => name.text.toList
  | remark _ r => '(' :: (r.text.toList ++ [')'])

/-- The branch of the line. -/
def name? : BranchLine → Option String
  | branch _ name => some name.text
  | remark _ _ => none

/-- What the line is taken for: its branch, or with the mark of a worktree all that it has. -/
def taken? (l : BranchLine) : Option String :=
  if l.mark = .worktree then some (String.ofList (l.mark.chars ++ l.entry)) else l.name?

end BranchLine

/-- The branch list of some lines. -/
def branchList (lines : List BranchLine) : String :=
  String.ofList ((lines.map fun l => l.mark.chars ++ l.entry).flatMap (· ++ ['\n']))

/-! ## One line -/

/-- The entry of a line begins with no character of a mark, ends with no blank and is not broken. -/
structure IsBranchEntry (cs : List Char) : Prop where
  head : ∃ c, cs.head? = some c ∧ Text.isBlank c = false ∧ c ≠ '*'
  last : ∀ c ∈ cs.getLast?, Text.isBlank c = false
  unbroken : ∀ c ∈ cs, Text.isLineBreak c = false

theorem BranchName.isBranchEntry (name : BranchName) : IsBranchEntry name.text.toList := by
  have hbreak : ∀ c ∈ name.text.toList, Text.isLineBreak c = false := fun c hc =>
    Bool.eq_false_iff.mpr fun h =>
      Bool.eq_false_iff.mp (name.unblank c hc) (Text.isBlank_of_isLineBreak h)
  refine ⟨?_, fun c hc => name.unblank c (List.mem_of_getLast? hc), hbreak⟩
  cases hcs : name.text.toList with
  | nil => exact absurd (String.toList_eq_nil_iff.mp hcs) name.ne_empty
  | cons c rest =>
    have hc : c ∈ name.text.toList := by simp [hcs]
    exact ⟨c, rfl, name.unblank c hc, fun h => name.no_star (h ▸ hc)⟩

theorem BranchLine.isBranchEntry (l : BranchLine) : IsBranchEntry l.entry := by
  cases l with
  | branch _ name => exact name.isBranchEntry
  | remark _ r =>
    refine ⟨⟨'(', rfl, rfl, by decide⟩, fun c hc => ?_, fun c hc => ?_⟩
    · rw [entry, ← List.cons_append, List.getLast?_concat] at hc
      cases hc
      rfl
    · simp only [entry, List.mem_cons, List.mem_append, List.not_mem_nil, or_false] at hc
      rcases hc with rfl | hc | rfl
      · rfl
      · exact r.unbroken c hc
      · rfl

/-- **What is left of a line**: its entry, and in front of that the mark of a worktree. -/
theorem branchOfLine_marked (mark : BranchMark) {cs : List Char} (h : IsBranchEntry cs) :
    branchOfLine (mark.chars ++ cs) = if mark = .worktree then mark.chars ++ cs else cs := by
  obtain ⟨c, hhead, hblank, hstar⟩ := h.head
  obtain ⟨rest, rfl⟩ := List.head?_eq_some_iff.mp hhead
  have hspace : c ≠ ' ' := by
    rintro rfl
    cases hblank
  have hmark : isBranchMarker c = false := by simp [isBranchMarker, hstar, hspace]
  have hstays : Text.trimLeft isBranchMarker (c :: rest) = c :: rest :=
    Text.trimLeft_of_not_head hmark
  have htrim : Text.trimWith Text.isBlank (c :: rest) = c :: rest :=
    Text.trimWith_of_ends hblank h.last
  -- Behind a character that is not blank, the entry still ends the line.
  have hmarked : ∀ m : Char, Text.isBlank m = false →
      Text.trimWith Text.isBlank (m :: ' ' :: c :: rest) = m :: ' ' :: c :: rest :=
    fun m hm => Text.trimWith_of_ends hm (by simpa using h.last)
  cases mark with
  | plain =>
    have hblanks : Text.trimWith Text.isBlank (' ' :: ' ' :: c :: rest) = c :: rest := htrim
    show branchOfLine (' ' :: ' ' :: c :: rest) = c :: rest
    rw [branchOfLine, hblanks, hstays, htrim]
  | current =>
    have hstarred : Text.trimLeft isBranchMarker ('*' :: ' ' :: c :: rest) = c :: rest := hstays
    show branchOfLine ('*' :: ' ' :: c :: rest) = c :: rest
    rw [branchOfLine, hmarked '*' rfl, hstarred, htrim]
  | worktree =>
    show branchOfLine ('+' :: ' ' :: c :: rest) = '+' :: ' ' :: c :: rest
    rw [branchOfLine, hmarked '+' rfl, Text.trimLeft_of_not_head rfl, hmarked '+' rfl]

/-! ## Whole lists -/

theorem unbroken_line (l : BranchLine) :
    ∀ c ∈ l.mark.chars ++ l.entry, Text.isLineBreak c = false := by
  intro c hc
  rcases List.mem_append.mp hc with hmark | hentry
  · have hmarks : ∀ mark : BranchMark, ∀ c ∈ mark.chars, Text.isLineBreak c = false := by
      intro mark
      cases mark <;> exact forall_mem_of_all (by decide)
    exact hmarks l.mark c hmark
  · exact l.isBranchEntry.unbroken c hentry

/-- **What is read of a branch list**: of each line what it is taken for. -/
theorem branchNames_branchList (lines : List BranchLine) :
    branchNames (branchList lines) = lines.filterMap BranchLine.taken? := by
  have hlines : ∀ line ∈ lines.map fun l => l.mark.chars ++ l.entry, ∀ c ∈ line,
      Text.isLineBreak c = false := by
    intro line hline
    obtain ⟨l, -, rfl⟩ := List.mem_map.mp hline
    exact unbroken_line l
  unfold branchNames branchList
  rw [String.toList_ofList, Text.linesFrom_ended hlines, List.map_map, List.filterMap_map]
  refine List.filterMap_congr fun l _ => ?_
  rw [Function.comp_apply, Function.comp_apply, branchOfLine_marked l.mark l.isBranchEntry,
    BranchLine.taken?]
  by_cases hmark : l.mark = .worktree
  · rw [if_pos hmark, if_pos hmark, hmark]
    rfl
  · rw [if_neg hmark, if_neg hmark]
    cases l with
    | remark _ _ => rfl
    | branch _ name =>
      have hbracket : name.text.toList.head? ≠ some '(' := name.no_bracket
      have hne : name.text.toList ≠ [] := fun h => name.ne_empty (String.toList_eq_nil_iff.mp h)
      simp only [BranchLine.entry, BranchLine.name?]
      split
      · exact absurd ‹_› hne
      · rename_i hcs
        rw [hcs] at hbracket
        exact absurd rfl hbracket
      · rw [String.ofList_toList]

/-- Without the mark of a worktree a line is taken for its branch. -/
theorem BranchLine.taken?_of_ne {l : BranchLine} (h : l.mark ≠ .worktree) : l.taken? = l.name? :=
  if_neg h

/-- What a line with the mark of a worktree is taken for is no name of a branch, since it has a
blank in it. -/
theorem BranchLine.name?_ne_of_worktree {l m : BranchLine} {text : String}
    (hl : l.mark = .worktree) (h : l.taken? = some text) : m.name? ≠ some text := by
  intro hm
  have htext : text.toList = '+' :: ' ' :: l.entry := by
    rw [BranchLine.taken?, if_pos hl, hl] at h
    rw [← Option.some.inj h, String.toList_ofList]
    rfl
  cases m with
  | remark _ _ => cases hm
  | branch _ name =>
    have hname : name.text = text := Option.some.inj hm
    have hspace : ' ' ∈ name.text.toList := by simp [hname, htext]
    cases name.unblank ' ' hspace

/-- **Branch lists read back, but for worktrees.** Each line gives a candidate for its branch, or for
all that it has if it is marked as checked out in another worktree; a remark without that mark gives
none. The names are those of the branches, unchanged and in order, if and only if no line has that
mark. -/
theorem branches_read_back_iff (lines : List BranchLine) :
    branchCandidates (branchList lines) =
      (lines.filterMap BranchLine.taken?).map
        (fun name => { name, kind := .arg, description := .text "branch" }) ∧
    ((branchCandidates (branchList lines)).map (·.name) = lines.filterMap BranchLine.name? ↔
      ∀ l ∈ lines, l.mark ≠ .worktree) := by
  have hread : branchNames (branchList lines) = lines.filterMap BranchLine.taken? :=
    branchNames_branchList lines
  have hnames : (branchCandidates (branchList lines)).map (·.name) =
      lines.filterMap BranchLine.taken? := by
    rw [branchCandidates, List.map_map, hread]
    exact List.map_id _
  refine ⟨by rw [branchCandidates, hread], ?_⟩
  rw [hnames]
  constructor
  · intro heq l hl hmark
    have htaken : l.taken? = some (String.ofList (l.mark.chars ++ l.entry)) := if_pos hmark
    have hmem : String.ofList (l.mark.chars ++ l.entry) ∈ lines.filterMap BranchLine.name? :=
      heq ▸ List.mem_filterMap.mpr ⟨l, hl, htaken⟩
    obtain ⟨m, -, hm⟩ := List.mem_filterMap.mp hmem
    exact BranchLine.name?_ne_of_worktree hmark htaken hm
  · intro h
    exact List.filterMap_congr fun l hl => BranchLine.taken?_of_ne (h l hl)

/-- **The mark of a worktree is kept.** The branch `feature`, checked out in another worktree, is
offered with the mark in front of its name. -/
theorem worktree_mark_kept :
    let main : BranchName :=
      ⟨"main", by decide, forall_mem_of_all (by decide), by decide, by decide⟩
    let feature : BranchName :=
      ⟨"feature", by decide, forall_mem_of_all (by decide), by decide, by decide⟩
    let lines : List BranchLine := [.branch .current main, .branch .worktree feature]
    branchList lines = "* main\n+ feature\n" ∧
      lines.filterMap BranchLine.name? = ["main", "feature"] ∧
      (branchCandidates (branchList lines)).map (·.name) = ["main", "+ feature"] := by
  exact ⟨by cbv, rfl, by cbv⟩

end TabCompletion
