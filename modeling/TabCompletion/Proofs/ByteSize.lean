import Mathlib
import TabCompletion.ByteSize
import TabCompletion.Proofs.Binary64.Rounding
import TabCompletion.Proofs.Json.Written

/-!
# Sizes in the right unit

A size below `2 ^ 53` is divided by 1024 without loss, so that the amount in each unit is exact
(`Share`) until its text rounds it to tenths. The unit is chosen before that: an amount less than
1024 by no more than a twentieth is rounded up to 1024 units, where the next unit would have one.

Results:
* `inUnits_spec`: the unit that is chosen, by induction on the units that are left.
* `text?_eq`: the text of a size.
* **`size_in_right_unit`**: the text is a number and the right unit, and when that is less than 1024.
* `overfull_kilobytes`: one byte less than a megabyte.
-/

namespace TabCompletion

open Binary64 (twoTo)

/-! ## Decimals -/

/-- One digit or more, and nothing else. -/
def areDigits (cs : List Char) : Bool := !cs.isEmpty && cs.all Char.isDigit

/-- The number that a decimal without sign writes: digits, and maybe a point with more digits
behind it. -/
def decimal? (cs : List Char) : Option ℚ :=
  match Binary64.takeDigits cs with
  | (whole, []) => if areDigits whole then some (Binary64.digitsValue whole) else none
  | (whole, '.' :: places) =>
    if areDigits whole && areDigits places then
      some (Binary64.digitsValue whole + Binary64.digitsValue places / 10 ^ places.length)
    else none
  | _ => none

theorem areDigits_toDigits (n : Nat) : areDigits (Nat.toDigits 10 n) = true := by
  obtain ⟨c, cs, hdigits, -, -⟩ := Json.Parser.head_toDigits n
  have hall : (Nat.toDigits 10 n).all Char.isDigit = true :=
    List.all_eq_true.mpr fun _ hd => Nat.isDigit_of_mem_toDigits (by decide) (by decide) hd
  rw [areDigits, hall, hdigits]
  rfl

/-- The digits of a number are taken up to what is no digit. -/
theorem takeDigits_toDigits (n : Nat) {rest : List Char}
    (hrest : ∀ c ∈ rest.head?, c.isDigit = false) :
    Binary64.takeDigits (Nat.toDigits 10 n ++ rest) = (Nat.toDigits 10 n, rest) :=
  Json.Parser.takeDigits_append
    (fun _ hd => Nat.isDigit_of_mem_toDigits (by decide) (by decide) hd) hrest

/-- Whole digits are the number that they write. -/
theorem decimal?_toString (n : Nat) : decimal? (toString n).toList = some (n : ℚ) := by
  have htake : Binary64.takeDigits (Nat.toDigits 10 n ++ []) = (Nat.toDigits 10 n, []) :=
    takeDigits_toDigits n (by simp)
  rw [List.append_nil] at htake
  rw [Nat.toString_eq_repr, Nat.toList_repr]
  simp only [decimal?, htake, areDigits_toDigits, Json.Parser.digitsValue_toDigits, if_true]

namespace ByteSize

/-- A number of tenths with its point. -/
def tenthsText (t : Nat) : String := toString (t / 10) ++ "." ++ toString (t % 10)

/-- A number of tenths is read from its text. -/
theorem decimal?_tenthsText (t : Nat) : decimal? (tenthsText t).toList = some (t / 10 : ℚ) := by
  have htext : (tenthsText t).toList =
      Nat.toDigits 10 (t / 10) ++ '.' :: Nat.toDigits 10 (t % 10) := by
    simp [tenthsText]
  have htake : Binary64.takeDigits (Nat.toDigits 10 (t / 10) ++ '.' :: Nat.toDigits 10 (t % 10)) =
      (Nat.toDigits 10 (t / 10), '.' :: Nat.toDigits 10 (t % 10)) :=
    takeDigits_toDigits (t / 10) (by simp)
  have hlength : (Nat.toDigits 10 (t % 10)).length = 1 := by
    rw [Nat.toDigits_of_lt_base (by omega)]
    rfl
  have hvalue : ((t / 10 : Nat) : ℚ) + ((t % 10 : Nat) : ℚ) / 10 ^ 1 = t / 10 := by
    have hsplit : (10 * (t / 10 : Nat) + (t % 10 : Nat) : ℚ) = t := by
      exact_mod_cast Nat.div_add_mod t 10
    linarith
  simp only [htext, decimal?, htake, areDigits_toDigits, hlength,
    Json.Parser.digitsValue_toDigits, Bool.and_self, if_true, hvalue]

/-! ## Exact amounts -/

/-- The double is the size `n` in the unit of number `i`, exactly. -/
def Share (n i : Nat) (x : Binary64) : Prop :=
  ∃ k : Nat, x = .finite false (n * twoTo k) (-((k + 10 * i : Nat) : Int))

variable {n i : Nat} {x : Binary64}

theorem twoTo_add_ten_mul (k i : Nat) : twoTo (k + 10 * i) = 1024 ^ i * twoTo k := by
  have hpow : (1024 : Nat) = 2 ^ 10 := rfl
  show 2 ^ (k + 10 * i) = 1024 ^ i * 2 ^ k
  rw [hpow, ← Nat.pow_mul, ← Nat.pow_add, Nat.add_comm]

theorem Share.ratio (h : Share n i x) :
    ∃ c, 0 < c ∧ x.ratio = (n * c, 1024 ^ i * c) := by
  obtain ⟨k, rfl⟩ := h
  refine ⟨twoTo k, Nat.two_pow_pos k, ?_⟩
  have hneg : (-((k + 10 * i : Nat) : Int)).toNat = 0 := by omega
  have hpos : (- -((k + 10 * i : Nat) : Int)).toNat = k + 10 * i := by omega
  have hone : twoTo 0 = 1 := rfl
  rw [Binary64.ratio, hneg, hpos, hone, Nat.mul_one, twoTo_add_ten_mul]

/-- There are at least 1024 of a unit if there is at least one of the next. -/
theorem Share.atLeast_iff (h : Share n i x) : x.atLeast 1024 = true ↔ 1024 ^ (i + 1) ≤ n := by
  obtain ⟨c, hc, hratio⟩ := h.ratio
  obtain ⟨k, rfl⟩ := h
  have hpow : 1024 * (1024 ^ i * c) = 1024 ^ (i + 1) * c := by ring
  rw [Binary64.atLeast, decide_eq_true_iff, hratio, hpow]
  exact Nat.mul_le_mul_right_iff hc

theorem Share.shrink (h : Share n i x) : Share n (i + 1) (x.shrink 10) := by
  obtain ⟨k, rfl⟩ := h
  refine ⟨k, ?_⟩
  rw [Binary64.shrink]
  congr 1
  push_cast
  ring

theorem Share.truncate (h : Share n 0 x) : x.truncate = n := by
  obtain ⟨c, hc, hratio⟩ := h.ratio
  obtain ⟨k, rfl⟩ := h
  show ((Binary64.ratio _).1 : Int) / (Binary64.ratio _).2 = n
  rw [hratio, Nat.pow_zero, Nat.one_mul]
  exact_mod_cast Nat.mul_div_cancel n hc

theorem Share.fixed1 (h : Share n i x) :
    x.fixed1 = tenthsText (roundHalfEven (10 * n) (1024 ^ i)) := by
  obtain ⟨c, hc, hratio⟩ := h.ratio
  obtain ⟨k, rfl⟩ := h
  have htenths : roundHalfEven (10 * (n * c)) (1024 ^ i * c) =
      roundHalfEven (10 * n) (1024 ^ i) := by
    rw [← Nat.mul_assoc, roundHalfEven_mul_right hc]
  rw [Binary64.fixed1, hratio]
  dsimp only
  rw [htenths]
  rfl

/-! ## The unit -/

/-- The text writes a decimal and the unit of number `i`. -/
def Writes (text : String) (value : ℚ) (i : Nat) : Prop :=
  ∃ number unit, text = number ++ " " ++ unit ∧ units[i]? = some unit ∧
    decimal? number.toList = some value

/-- A size is given by a value in the unit of number `i`, which is the right one for it: there is at
least one of it, and less than one of the next. Bytes are exact, and other units at most a twentieth
away. -/
structure InRightUnit (n : Int) (value : ℚ) (i : Nat) : Prop where
  least : 1024 ^ i ≤ n
  next : i + 1 < units.length → n < 1024 ^ (i + 1)
  bytes : i = 0 → value = n
  near : |value * 1024 ^ i - n| ≤ 1024 ^ i / 20
  one_le : 1 ≤ value

/-- **The unit that is chosen** of those that are left: there is at least one of it, and less than
one of the next, if there is a next. -/
theorem inUnits_spec (h : Share n i x) (hsize : 1024 ^ i ≤ n) (left : List String)
    (hleft : left ≠ []) :
    ∃ j unit, (inUnits x left).2 = unit ∧ left[j]? = some unit ∧
      Share n (i + j) (inUnits x left).1 ∧ 1024 ^ (i + j) ≤ n ∧
      (j + 1 < left.length → n < 1024 ^ (i + j + 1)) := by
  fun_induction inUnits x left generalizing i with
  | case1 => exact absurd rfl hleft
  | case2 x unit => exact ⟨0, unit, rfl, rfl, h, hsize, fun hlt => absurd hlt (by simp)⟩
  | case3 x unit next rest hmany ih =>
    obtain ⟨j, unit', hunit, hplace, hshare, hle, hlt⟩ :=
      ih h.shrink (h.atLeast_iff.mp hmany) (List.cons_ne_nil _ _)
    have hnumber : i + 1 + j = i + (j + 1) := by omega
    rw [hnumber] at hshare hle hlt
    exact ⟨j + 1, unit', hunit, hplace, hshare, hle, fun hlast => hlt (by simpa using hlast)⟩
  | case4 x unit next rest hfew =>
    refine ⟨0, unit, rfl, rfl, h, hsize, fun _ => ?_⟩
    exact Nat.lt_of_not_le fun hle => hfew (h.atLeast_iff.mpr hle)

/-- The bytes are the first of the units. -/
theorem eq_bytes_iff {unit : String} (h : units[i]? = some unit) : unit = "B" ↔ i = 0 := by
  have hi : i < units.length := (List.getElem?_eq_some_iff.mp h).1
  have hfive : units.length = 5 := rfl
  rw [hfive] at hi
  interval_cases i <;> cases h <;> decide

/-- Tenths of bytes are not rounded. -/
theorem tenths_of_bytes (n : Nat) : (roundHalfEven (10 * n) (1024 ^ 0) / 10 : ℚ) = n := by
  rw [Nat.pow_zero, roundHalfEven_one]
  push_cast
  ring

/-- **The text of a size** writes it in tenths of the unit that is chosen, rounded. -/
theorem text?_eq (hn : n ≠ 0) (h : n < 2 ^ 53) :
    ∃ text i, text? n = some text ∧
      Writes text (roundHalfEven (10 * n) (1024 ^ i) / 10) i ∧
      1024 ^ i ≤ n ∧ (i + 1 < units.length → n < 1024 ^ (i + 1)) := by
  obtain ⟨k, hdouble⟩ := Binary64.ofInt?_of_lt hn h
  have hshare : Share n 0 (.finite false (n * twoTo k) (-(k : Int))) := ⟨k, rfl⟩
  obtain ⟨i, unit, hunit, hplace, hamount, hle, hnext⟩ :=
    inUnits_spec hshare (by rw [Nat.pow_zero]; omega) units (by decide)
  rw [Nat.zero_add] at hamount hle hnext
  rw [text?, hdouble, Option.map_some]
  dsimp only
  rw [hunit]
  by_cases hi : i = 0
  · subst hi
    rw [if_pos ((eq_bytes_iff hplace).mpr rfl), hamount.truncate]
    refine ⟨_, 0, rfl, ⟨toString n, unit, rfl, hplace, ?_⟩, hle, hnext⟩
    rw [tenths_of_bytes, decimal?_toString]
  · rw [if_neg (mt (eq_bytes_iff hplace).mp hi), hamount.fixed1]
    exact ⟨_, i, rfl, ⟨_, unit, rfl, hplace, decimal?_tenthsText _⟩, hle, hnext⟩

/-- Tenths of a unit, rounded: at most a twentieth of the unit away from the size, at least one unit
if the size is, and less than 1024 units up to a twentieth below that. -/
theorem rounded_tenths {unit : Nat} (hunit : 0 < unit) (h : unit ≤ n) :
    |(roundHalfEven (10 * n) unit / 10 : ℚ) * unit - n| ≤ unit / 20 ∧
      (1 : ℚ) ≤ roundHalfEven (10 * n) unit / 10 ∧
      ((roundHalfEven (10 * n) unit / 10 : ℚ) < 1024 ↔ 20 * n < 20479 * unit) := by
  have hnear := roundHalfEven_near hunit (10 * n)
  have hone : 10 ≤ roundHalfEven (10 * n) unit := le_roundHalfEven hunit (by omega)
  have hfull : roundHalfEven (10 * n) unit ≤ 10239 ↔ 2 * (10 * n) < (2 * 10239 + 1) * unit :=
    roundHalfEven_le_iff hunit rfl
  generalize roundHalfEven (10 * n) unit = t at hnear hone hfull
  have hlow : (2 * (t * unit) : ℚ) ≤ 2 * (10 * n) + unit := by exact_mod_cast hnear.1
  have hhigh : (2 * (10 * n) : ℚ) ≤ 2 * (t * unit) + unit := by exact_mod_cast hnear.2
  have hten : (10 : ℚ) ≤ t := by exact_mod_cast hone
  refine ⟨abs_le.mpr ⟨by linarith, by linarith⟩, by linarith, ?_⟩
  calc (t / 10 : ℚ) < 1024 ↔ (t : ℚ) < (10240 : Nat) := by
        rw [div_lt_iff₀ (by norm_num)]
        norm_num
    _ ↔ t ≤ 10239 := by rw [Nat.cast_lt, Nat.lt_succ_iff]
    _ ↔ 20 * n < 20479 * unit := by rw [hfull]; omega

/-- **Sizes are written in the right unit**, as a number that is at least one. The number is less than
1024 exactly if the size is more than a twentieth of the unit below 1024 units. -/
theorem size_in_right_unit {n : Int} (hpos : 0 < n) (hlt : n < 2 ^ 53) :
    ∃ text value i, text? n = some text ∧ Writes text value i ∧ InRightUnit n value i ∧
      (value < 1024 ↔ 20 * n < 20479 * 1024 ^ i) := by
  lift n to Nat using hpos.le
  have hn : n ≠ 0 := by omega
  obtain ⟨text, i, htext, hwrites, hle, hnext⟩ := text?_eq hn (by exact_mod_cast hlt)
  obtain ⟨hnear, hone, hfull⟩ := rounded_tenths (Nat.pow_pos (by norm_num)) hle
  refine ⟨text, _, i, htext, hwrites, ?_, ?_⟩
  · refine ⟨by exact_mod_cast hle, fun hi => by exact_mod_cast hnext hi, ?_,
      by exact_mod_cast hnear, hone⟩
    rintro rfl
    exact tenths_of_bytes n
  · rw [hfull, ← Int.ofNat_lt]
    push_cast
    rfl

/-- The greatest size that is written with less than 1024 kilobytes. -/
theorem size_in_right_unit_kilobytes :
    (0 : Int) < 1048524 ∧ (1048524 : Int) < 2 ^ 53 ∧ text? 1048524 = some "1023.9 KB" ∧
    ∃ text value i, text? 1048524 = some text ∧ Writes text value i ∧ InRightUnit 1048524 value i ∧
      (value < 1024 ↔ 20 * (1048524 : Int) < 20479 * 1024 ^ i) :=
  ⟨by decide, by decide, by decide +kernel, size_in_right_unit (by decide) (by decide)⟩

/-- **One byte less than a megabyte** is written as 1024 kilobytes. -/
theorem overfull_kilobytes :
    text? 1048575 = some "1024.0 KB" ∧ Writes "1024.0 KB" 1024 1 ∧ 1 + 1 < units.length := by
  refine ⟨by decide +kernel, ⟨"1024.0", "KB", by decide, rfl, ?_⟩, by decide⟩
  have htenths : tenthsText 10240 = "1024.0" := by decide +kernel
  rw [← htenths, decimal?_tenthsText]
  norm_num

end ByteSize

end TabCompletion
