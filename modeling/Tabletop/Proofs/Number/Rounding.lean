import Mathlib.Algebra.Order.Field.Power
import Mathlib.Data.Int.ConditionallyCompleteOrder
import Mathlib.Data.Rat.Star
import Mathlib.Tactic.Linarith
import Mathlib.Tactic.Positivity
import Mathlib.Tactic.Ring
import Tabletop.Scalar.Basic

/-!
# Rounding to doubles

A double is nearest to a number if no finite double is nearer, and if its significand is even whenever
another one is as near. Numbers from half a step above the largest finite double on are rounded to
infinity. Doubles form a grid: around a number they are the multiples of a power of two, and those that
are not lie in a smaller binade and further away. So it is enough to round to a whole number of steps.
-/

namespace Tabletop

/-! ## The exact value of a double -/

/-- The number that a significand and an exponent stand for. -/
def Binary.value (x : Binary) : ℚ := x.significand * 2 ^ x.exponent

/-- The number that a finite double stands for. -/
def exactValue (x : Float) : ℚ :=
  if isNegative x then -(Binary.ofBits x.toBits).value else (Binary.ofBits x.toBits).value

/-- A number without a sign is rounded to this double. -/
structure IsNearest (x : Float) (q : ℚ) : Prop where
  /-- The sign bit is clear. -/
  isNegative_eq : isNegative x = false
  /-- From half a step above the largest finite double on, the double is infinite. -/
  isInf_of_le : overflowMagnitude ≤ q → x.isInf = true
  /-- Below that it is finite. -/
  isFinite_of_lt : q < overflowMagnitude → x.isFinite = true
  /-- No finite double is nearer to the number than a finite one that it is rounded to. -/
  le_dist : x.isFinite = true → ∀ y : Float, y.isFinite = true → |exactValue x - q| ≤ |exactValue y - q|
  /-- If another finite double is as near, the significand is even. -/
  even_of_tie : x.isFinite = true → ∀ y : Float, y.isFinite = true →
    |exactValue y - q| = |exactValue x - q| → exactValue y ≠ exactValue x →
      Even (Binary.ofBits x.toBits).significand

section Decode

variable {bits : UInt64}

/-- Below the least normal double the bits are the significand. -/
theorem Binary.ofBits_of_lt (h : bits.toNat < 2 ^ 52) : ofBits bits = ⟨bits.toNat, -1074, false⟩ := by
  have hfraction : bits.toNat % Nat.pow 2 52 = bits.toNat := Nat.mod_eq_of_lt h
  have hpower : bits.toNat / Nat.pow 2 52 % Nat.pow 2 11 = 0 := by
    rw [show bits.toNat / Nat.pow 2 52 = 0 from Nat.div_eq_of_lt h]
  simp only [ofBits, hfraction, hpower, ↓reduceIte]

/-- From the least normal double on the significand has a leading one that the bits leave out. -/
theorem Binary.ofBits_of_le (hle : 2 ^ 52 ≤ bits.toNat) (hlt : bits.toNat < 2 ^ 63) :
    ∃ narrow, ofBits bits =
      ⟨2 ^ 52 + bits.toNat % 2 ^ 52, (bits.toNat / 2 ^ 52 : ℕ) - 1075, narrow⟩ := by
  have hpower : bits.toNat / Nat.pow 2 52 % Nat.pow 2 11 = bits.toNat / 2 ^ 52 :=
    Nat.mod_eq_of_lt (show bits.toNat / 2 ^ 52 < 2 ^ 11 by omega)
  have hne : ¬ bits.toNat / 2 ^ 52 = 0 := by omega
  simp only [ofBits, hpower, if_neg hne]
  exact ⟨_, rfl⟩

/-- No significand has more than 53 bits, and no exponent is below that of the least double. -/
theorem Binary.ofBits_bounds (bits : UInt64) :
    (ofBits bits).significand < 2 ^ 53 ∧ -1074 ≤ (ofBits bits).exponent := by
  have hfraction : bits.toNat % Nat.pow 2 52 < 2 ^ 52 := Nat.mod_lt _ (by decide)
  have hleading : Nat.pow 2 52 = 2 ^ 52 := rfl
  simp only [ofBits]
  split
  · exact ⟨by dsimp only; omega, le_rfl⟩
  · constructor <;> dsimp only <;> omega

/-- A double is a small multiple of a power of two. -/
theorem exists_exactValue_eq (x : Float) :
    ∃ (j : ℤ) (k : ℤ), exactValue x = j * 2 ^ k ∧ |j| < 2 ^ 53 ∧ -1074 ≤ k := by
  obtain ⟨hsignificand, hexponent⟩ := Binary.ofBits_bounds x.toBits
  have habs : |((Binary.ofBits x.toBits).significand : ℤ)| < 2 ^ 53 := by
    rw [Nat.abs_cast]
    exact_mod_cast hsignificand
  rw [exactValue]
  split
  · refine ⟨-(Binary.ofBits x.toBits).significand, _, ?_, (abs_neg _).trans_lt habs, hexponent⟩
    rw [Binary.value]
    push_cast
    ring
  · exact ⟨(Binary.ofBits x.toBits).significand, _, by rw [Binary.value]; push_cast; rfl, habs, hexponent⟩

end Decode

/-! ## Rounding to a whole number -/

/-- A whole number is nearest to a number, and even if the one next to it is as near. -/
structure RoundsTo (v : ℚ) (r : ℕ) : Prop where
  near : |(r : ℚ) - v| ≤ 1 / 2
  even_of_eq : |(r : ℚ) - v| = 1 / 2 → Even r

section Rounds

variable {v q : ℚ} {r : ℕ} {t : ℤ}

/-- Any other whole number is at least half a step away. -/
theorem RoundsTo.half_le (h : RoundsTo v r) {j : ℤ} (hne : j ≠ r) : 1 / 2 ≤ |(j : ℚ) - v| := by
  have hstep : (1 : ℚ) ≤ |(j : ℚ) - r| := by
    exact_mod_cast Int.one_le_abs (sub_ne_zero.mpr hne)
  have htriangle := abs_sub_le (j : ℚ) v r
  rw [abs_sub_comm v] at htriangle
  linarith [h.near]

/-- No whole number is nearer. -/
theorem RoundsTo.le_dist (h : RoundsTo v r) (j : ℤ) : |(r : ℚ) - v| ≤ |(j : ℚ) - v| := by
  by_cases hne : j = r
  · simp [hne]
  · exact h.near.trans (h.half_le hne)

/-- If another whole number is as near, this one is even. -/
theorem RoundsTo.even_of_tie (h : RoundsTo v r) {j : ℤ} (htie : |(j : ℚ) - v| = |(r : ℚ) - v|)
    (hne : j ≠ r) : Even r :=
  h.even_of_eq (le_antisymm h.near (htie ▸ h.half_le hne))

/-- A number is rounded to a multiple of `2 ^ t`, the step between the doubles around it. -/
structure RoundsOnGrid (q : ℚ) (r : ℕ) (t : ℤ) : Prop where
  roundsTo : RoundsTo (q / 2 ^ t) r
  le_exponent : -1074 ≤ t
  lt_two_pow : q / 2 ^ t < 2 ^ 53
  /-- Above the least step, the number is not in a smaller binade. -/
  two_pow_le : t = -1074 ∨ 2 ^ 52 ≤ q / 2 ^ t

/-- Rounding goes up to the end of the binade. -/
theorem RoundsOnGrid.le_two_pow (h : RoundsOnGrid q r t) : r ≤ 2 ^ 53 := by
  have hnear := (abs_le.mp h.roundsTo.near).2
  have hlt : (r : ℚ) < 2 ^ 53 + 1 := by linarith [h.lt_two_pow]
  exact Nat.lt_succ_iff.mp (by exact_mod_cast hlt)

/-- Rounding does not leave the binade below its start. -/
theorem RoundsOnGrid.two_pow_le_natCast (h : RoundsOnGrid q r t) : t = -1074 ∨ 2 ^ 52 ≤ r := by
  refine h.two_pow_le.imp_right fun hle => ?_
  have hnear := (abs_le.mp h.roundsTo.near).1
  have hlt : (2 : ℚ) ^ 52 < r + 1 := by linarith
  exact Nat.lt_succ_iff.mp (by exact_mod_cast hlt)

/-- One step of a grid is two steps of the next finer one. -/
theorem two_zpow_add_one (t : ℤ) : (2 : ℚ) ^ (t + 1) = 2 * 2 ^ t := by
  rw [zpow_add_one₀ two_ne_zero, mul_comm]

/-- Distances on the grid are distances of whole numbers, scaled. -/
theorem abs_mul_zpow_sub (a q : ℚ) (t : ℤ) : |a * 2 ^ t - q| = |a - q / 2 ^ t| * 2 ^ t := by
  have hpos : (0 : ℚ) < 2 ^ t := by positivity
  rw [← abs_of_pos hpos, ← abs_mul, abs_of_pos hpos, sub_mul, div_mul_cancel₀ _ hpos.ne']

/-- A multiple of a larger power of two lies on the grid. -/
theorem exists_mul_zpow_eq {k t : ℤ} (hle : t ≤ k) (j : ℤ) :
    ∃ i : ℤ, (j : ℚ) * 2 ^ k = i * 2 ^ t := by
  refine ⟨j * 2 ^ (k - t).toNat, ?_⟩
  have hsplit : (2 : ℚ) ^ k = 2 ^ (k - t).toNat * 2 ^ t := by
    rw [← zpow_natCast, ← zpow_add₀ two_ne_zero]
    congr 1
    omega
  rw [hsplit]
  push_cast
  ring

/-- A double with a smaller step lies below the binade, and so further away than its start. -/
theorem RoundsOnGrid.lt_dist (h : RoundsOnGrid q r t) {j k : ℤ} (hj : |j| < 2 ^ 53) (hk : -1074 ≤ k)
    (hlt : k < t) : |(r : ℚ) * 2 ^ t - q| < |(j : ℚ) * 2 ^ k - q| := by
  have hpos : (0 : ℚ) < 2 ^ t := by positivity
  have hstart : 2 ^ 52 ≤ q / 2 ^ t := h.two_pow_le.resolve_left (by omega)
  have hbelow : (j : ℚ) * 2 ^ k < 2 ^ 52 * 2 ^ t := by
    have hj' : (j : ℚ) < 2 ^ 53 := by exact_mod_cast (abs_lt.mp hj).2
    calc (j : ℚ) * 2 ^ k < 2 ^ 53 * 2 ^ k := mul_lt_mul_of_pos_right hj' (by positivity)
      _ = 2 ^ 52 * 2 ^ (k + 1) := by rw [two_zpow_add_one]; ring
      _ ≤ 2 ^ 52 * 2 ^ t := by gcongr <;> [norm_num; omega]
  have hq : 2 ^ 52 * 2 ^ t ≤ q := (le_div_iff₀ hpos).mp hstart
  have hfar : |(2 : ℚ) ^ 52 * 2 ^ t - q| < |(j : ℚ) * 2 ^ k - q| := by
    rw [abs_of_nonpos (by linarith), abs_of_nonpos (by linarith)]
    linarith
  refine lt_of_le_of_lt ?_ hfar
  rw [abs_mul_zpow_sub, abs_mul_zpow_sub]
  have hwhole := h.roundsTo.le_dist (2 ^ 52)
  rw [Int.cast_pow, Int.cast_ofNat] at hwhole
  exact mul_le_mul_of_nonneg_right hwhole hpos.le

/-- No double is nearer than the multiple of the step. -/
theorem RoundsOnGrid.le_dist (h : RoundsOnGrid q r t) {j k : ℤ} (hj : |j| < 2 ^ 53) (hk : -1074 ≤ k) :
    |(r : ℚ) * 2 ^ t - q| ≤ |(j : ℚ) * 2 ^ k - q| := by
  rcases lt_or_ge k t with hlt | hle
  · exact (h.lt_dist hj hk hlt).le
  · obtain ⟨i, hi⟩ := exists_mul_zpow_eq hle j
    rw [hi, abs_mul_zpow_sub, abs_mul_zpow_sub]
    have hwhole := h.roundsTo.le_dist i
    gcongr

/-- If another double is as near, the number of steps is even. -/
theorem RoundsOnGrid.even_of_tie (h : RoundsOnGrid q r t) {j k : ℤ} (hj : |j| < 2 ^ 53)
    (hk : -1074 ≤ k) (htie : |(j : ℚ) * 2 ^ k - q| = |(r : ℚ) * 2 ^ t - q|)
    (hne : (j : ℚ) * 2 ^ k ≠ r * 2 ^ t) : Even r := by
  rcases lt_or_ge k t with hlt | hle
  · exact absurd htie (h.lt_dist hj hk hlt).ne'
  · obtain ⟨i, hi⟩ := exists_mul_zpow_eq hle j
    rw [hi, abs_mul_zpow_sub, abs_mul_zpow_sub] at htie
    refine h.roundsTo.even_of_tie (mul_right_cancel₀ (by positivity) htie) fun hir => hne ?_
    rw [hi, hir]
    push_cast
    rfl

/-! ## Overflow -/

/-- Half a step above the largest finite double. -/
theorem overflowMagnitude_eq : (overflowMagnitude : ℚ) = (2 ^ 53 - 1 / 2) * 2 ^ (971 : ℤ) := by
  have hnat : overflowMagnitude = (2 ^ 54 - 1) * 2 ^ 970 := by decide +kernel
  have hstep : (2 : ℚ) ^ (971 : ℤ) = 2 * 2 ^ 970 := two_zpow_add_one 970
  rw [hnat, hstep, Nat.cast_mul, Nat.cast_pow 2 970, Nat.cast_ofNat]
  generalize (2 : ℚ) ^ 970 = step
  push_cast
  ring

/-- The encoding of the rounded number goes past the finite doubles exactly if the number is that
large. -/
theorem RoundsOnGrid.overflow_iff (h : RoundsOnGrid q r t) :
    2047 * 2 ^ 52 ≤ (t + 1074).toNat * 2 ^ 52 + r ↔ (overflowMagnitude : ℚ) ≤ q := by
  have hpos : (0 : ℚ) < 2 ^ t := by positivity
  have hexponent := h.le_exponent
  have hle := h.le_two_pow
  rw [overflowMagnitude_eq]
  rcases lt_trichotomy t 971 with hlt | rfl | hgt
  · have hstep : (2 : ℚ) * 2 ^ t ≤ 2 ^ (971 : ℤ) := by
      rw [← two_zpow_add_one]
      exact zpow_le_zpow_right₀ one_le_two (by omega)
    have hq : q < 2 ^ 53 * 2 ^ t := (div_lt_iff₀ hpos).mp h.lt_two_pow
    refine iff_of_false (by omega) (not_le.mpr ?_)
    generalize (2 : ℚ) ^ (971 : ℤ) = step at hstep
    linarith
  · rw [← le_div_iff₀ hpos]
    have hnear := abs_le.mp h.roundsTo.near
    refine ⟨fun hover => ?_, fun hover => ?_⟩
    · have hr : r = 2 ^ 53 := by omega
      rw [hr, Nat.cast_pow, Nat.cast_ofNat] at hnear
      linarith
    · -- Just below the last step the number of steps would be odd, and rounding goes up.
      by_contra hunder
      have hr : r + 1 ≤ 2 ^ 53 := by omega
      have hcast : (r : ℚ) + 1 ≤ 2 ^ 53 := by exact_mod_cast hr
      have htie : |(r : ℚ) - q / 2 ^ (971 : ℤ)| = 1 / 2 := by
        rw [abs_of_neg (by linarith)]
        linarith
      have hlast : (r : ℚ) + 1 = 2 ^ 53 := by linarith
      obtain ⟨half, hhalf⟩ := h.roundsTo.even_of_eq htie
      have hsteps : r + 1 = 2 ^ 53 := by exact_mod_cast hlast
      omega
  · have hstep : (2 : ℚ) * 2 ^ (971 : ℤ) ≤ 2 ^ t := by
      rw [← two_zpow_add_one]
      exact zpow_le_zpow_right₀ one_le_two (by omega)
    have hpositive : (0 : ℚ) < 2 ^ (971 : ℤ) := by positivity
    have hq : 2 ^ 52 * 2 ^ t ≤ q := (le_div_iff₀ hpos).mp (h.two_pow_le.resolve_left (by omega))
    have hnormal := h.two_pow_le_natCast.resolve_left (by omega)
    refine iff_of_true (by omega) ?_
    generalize (2 : ℚ) ^ (971 : ℤ) = step at hstep hpositive
    linarith

end Rounds

end Tabletop
