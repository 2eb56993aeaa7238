import Mathlib.Tactic.Linarith
import Mathlib.Tactic.Ring
import TabCompletion.Binary64.Basic

/-!
# Rounding quotients

A quotient of naturals is rounded to the nearest natural, a tie to the even one (`roundHalfEven`). A
whole number below `2 ^ 53` is a double as it is.

Results:
* `roundHalfEven_mul_right`: a common factor changes nothing.
* `roundHalfEven_near`: the rounded quotient is at most one half away.
* `roundHalfEven_le_iff`: which quotients are rounded to at most an odd number.
* **`Binary64.ofInt?_of_lt`**: whole numbers below `2 ^ 53` are not rounded.
-/

namespace TabCompletion

variable {n d k c : Nat}

theorem roundHalfEven_mul_right (hc : 0 < c) (n d : Nat) :
    roundHalfEven (n * c) (d * c) = roundHalfEven n d := by
  have hlt : ∀ a b, a * c < b * c ↔ a < b := fun a b => Nat.mul_lt_mul_right hc
  have htwice : 2 * (n % d * c) = 2 * (n % d) * c := by rw [Nat.mul_assoc]
  unfold roundHalfEven
  simp only [Nat.mul_div_mul_right n d hc, Nat.mul_mod_mul_right, htwice, hlt]

/-- What is at least `k` units is rounded to at least `k`. -/
theorem le_roundHalfEven (hd : 0 < d) (h : k * d ≤ n) : k ≤ roundHalfEven n d := by
  have hquotient : k ≤ n / d := (Nat.le_div_iff_mul_le hd).mpr h
  unfold roundHalfEven
  dsimp only
  split_ifs <;> omega

/-- The rounded quotient is at most half a unit away. -/
theorem roundHalfEven_near (hd : 0 < d) (n : Nat) :
    2 * (roundHalfEven n d * d) ≤ 2 * n + d ∧ 2 * n ≤ 2 * (roundHalfEven n d * d) + d := by
  have hsplit : n / d * d + n % d = n := Nat.div_add_mod' n d
  have hrest : n % d < d := Nat.mod_lt n hd
  unfold roundHalfEven
  dsimp only
  split_ifs
  · omega
  · rw [Nat.add_mul]
    omega
  · -- A tie: both neighbours are half a unit away.
    rcases Nat.mod_two_eq_zero_or_one (n / d) with heven | hodd
    · rw [heven, Nat.add_zero]
      omega
    · rw [hodd, Nat.add_mul]
      omega

/-- A quotient is rounded to at most an odd `k` if it is less than half a unit beyond it. -/
theorem roundHalfEven_le_iff (hd : 0 < d) (hk : k % 2 = 1) :
    roundHalfEven n d ≤ k ↔ 2 * n < (2 * k + 1) * d := by
  have hsplit : n / d * d + n % d = n := Nat.div_add_mod' n d
  have hrest : n % d < d := Nat.mod_lt n hd
  have hbound : (2 * k + 1) * d = 2 * (k * d) + d := by ring
  unfold roundHalfEven
  dsimp only
  rcases Nat.lt_trichotomy (n / d) k with hlt | heq | hgt
  · have hle : (n / d + 1) * d ≤ k * d := Nat.mul_le_mul_right d hlt
    rw [Nat.add_mul] at hle
    split_ifs <;> omega
  · rw [heq] at hsplit ⊢
    split_ifs <;> omega
  · have hle : (k + 1) * d ≤ n / d * d := Nat.mul_le_mul_right d hgt
    rw [Nat.add_mul] at hle
    split_ifs <;> omega

namespace Binary64

theorem scaled_neg (num den k : Nat) : scaled num den (-(k : Int)) = (num * twoTo k, den) := by
  have hneg : (-(k : Int)).toNat = 0 := by omega
  have hpos : (- -(k : Int)).toNat = k := by omega
  have hone : twoTo 0 = 1 := rfl
  rw [scaled, hneg, hpos, hone, Nat.mul_one]

/-- The exponent of a whole number below `2 ^ 53` makes its mantissa as long as can be. -/
theorem exponentFor_of_lt (hn : n ≠ 0) (h : n < 2 ^ 53) :
    exponentFor n 1 = -((52 - n.log2 : Nat) : Int) := by
  have hlog : n.log2 < 53 := (Nat.log2_lt hn).mpr h
  have hone : Nat.log2 1 = 0 := rfl
  have hguess : (n.log2 : Int) - (0 : Nat) - 53 = -((53 - n.log2 : Nat) : Int) := by omega
  have hfull : ¬ n * twoTo (53 - n.log2) < twoTo 53 := by
    refine Nat.not_lt.mpr ?_
    calc twoTo 53 = 2 ^ n.log2 * 2 ^ (53 - n.log2) := by
          rw [← Nat.pow_add, Nat.add_sub_cancel' hlog.le]
          rfl
      _ ≤ n * twoTo (53 - n.log2) := Nat.mul_le_mul_right _ (Nat.log2_self_le hn)
  unfold exponentFor minExponent
  dsimp only
  rw [hone, hguess, scaled_neg, Nat.div_one, if_neg hfull]
  omega

/-- **A whole number below `2 ^ 53` is a double as it is.** -/
theorem ofInt?_of_lt (hn : n ≠ 0) (h : n < 2 ^ 53) :
    ∃ k : Nat, ofInt? n = some (.finite false (n * twoTo k) (-(k : Int))) := by
  refine ⟨52 - n.log2, ?_⟩
  have hlog : n.log2 < 53 := (Nat.log2_lt hn).mpr h
  have hshort : n * twoTo (52 - n.log2) < twoTo 53 := by
    calc n * twoTo (52 - n.log2) < 2 ^ (n.log2 + 1) * 2 ^ (52 - n.log2) :=
          Nat.mul_lt_mul_of_pos_right Nat.lt_log2_self (Nat.two_pow_pos _)
      _ = 2 ^ 53 := by rw [← Nat.pow_add]; congr 1; omega
  have hmax : ¬ maxExponent < -((52 - n.log2 : Nat) : Int) := by
    unfold maxExponent
    omega
  have hnonneg : ¬ (n : Int) < 0 := by omega
  unfold ofInt? ofRatio
  simp only [Int.natAbs_natCast, hnonneg, decide_false, if_neg hn, exponentFor_of_lt hn h, scaled_neg,
    roundHalfEven_one, if_neg hshort.ne, if_neg hmax]

end Binary64

end TabCompletion
