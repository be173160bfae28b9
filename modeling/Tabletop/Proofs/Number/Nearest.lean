import Mathlib.Tactic.FieldSimp
import Tabletop.Proofs.Number.Encoding

/-!
# Correct rounding

Arithmetic on doubles is carried out on whole numbers, together with a note on what was cut off: nothing,
or less than half a step, or half a step, or more. This note survives further shifting, and it is enough
to round correctly. So a quotient of whole numbers, and in particular a number in decimal notation, is
rounded to the double nearest to it.
-/

namespace Tabletop

open Float.Model (UnpackedFloat Format)
open Float.Model.UnpackedFloat

/-! ## What was cut off -/

/-- Where a number lies between a whole number and the next one. -/
def Approximates (mantissa : ℕ) (accuracy : Accuracy) (v : ℚ) : Prop :=
  match accuracy with
  | .exact => v = mantissa
  | .inexact .lt => mantissa < v ∧ 2 * v < 2 * mantissa + 1
  | .inexact .eq => 2 * v = 2 * mantissa + 1
  | .inexact .gt => 2 * mantissa + 1 < 2 * v ∧ v < mantissa + 1

section Approximates

variable {mantissa : ℕ} {accuracy : Accuracy} {v : ℚ}

/-- A mantissa is not above the value that it approximates. -/
theorem Approximates.le (h : Approximates mantissa accuracy v) : (mantissa : ℚ) ≤ v := by
  rcases accuracy with _ | (_ | _ | _) <;> simp only [Approximates] at h <;> linarith

/-- The next mantissa is above the value. -/
theorem Approximates.lt_add_one (h : Approximates mantissa accuracy v) : v < mantissa + 1 := by
  rcases accuracy with _ | (_ | _ | _) <;> simp only [Approximates] at h <;> linarith

/-- Cutting off one more bit keeps track of what was cut off. -/
theorem Approximates.shiftRightOne {em : ExtendedMantissa}
    (h : Approximates em.mantissa em.accuracy v) :
    Approximates em.shiftRightOne.mantissa em.shiftRightOne.accuracy (v / 2) := by
  obtain ⟨mantissa, round, sticky⟩ := em
  obtain ⟨half, rfl | rfl⟩ := Nat.even_or_odd' mantissa
  · have hhalf : 2 * half / 2 = half := by omega
    have hbit : (2 * half % 2 != 0) = false := by simp
    cases round <;> cases sticky <;>
      simp only [ExtendedMantissa.shiftRightOne, ExtendedMantissa.accuracy, Approximates, hhalf, hbit,
        Bool.or_false, Bool.or_true, Nat.cast_mul, Nat.cast_ofNat] at h ⊢ <;>
      (try constructor) <;> linarith
  · have hhalf : (2 * half + 1) / 2 = half := by omega
    have hbit : ((2 * half + 1) % 2 != 0) = true := by simp
    cases round <;> cases sticky <;>
      simp only [ExtendedMantissa.shiftRightOne, ExtendedMantissa.accuracy, Approximates, hhalf, hbit,
        Bool.or_false, Bool.or_true, Nat.cast_mul, Nat.cast_ofNat, Nat.cast_add, Nat.cast_one] at h ⊢ <;>
      (try constructor) <;> linarith

/-- So does cutting off any number of bits. -/
theorem Approximates.shiftRight {em : ExtendedMantissa} (h : Approximates em.mantissa em.accuracy v)
    (count : ℕ) : Approximates (em >>> count).mantissa (em >>> count).accuracy (v / 2 ^ count) := by
  induction count with
  | zero =>
    rw [pow_zero, div_one]
    exact h
  | succ count ih =>
    rw [pow_succ, ← div_div]
    exact ih.shiftRightOne

/-- A mantissa with an accuracy is extended by bits that say the same. -/
theorem Approximates.ofMantissaAndAccuracy (h : Approximates mantissa accuracy v) :
    Approximates (ExtendedMantissa.ofMantissaAndAccuracy mantissa accuracy).mantissa
      (ExtendedMantissa.ofMantissaAndAccuracy mantissa accuracy).accuracy v := by
  rcases accuracy with _ | (_ | _ | _) <;> exact h

/-- A whole number less than half a step away is the nearest one. -/
theorem roundsTo_of_lt {r : ℕ} (hlow : (r : ℚ) - 1 / 2 < v) (hhigh : v < r + 1 / 2) : RoundsTo v r := by
  have hnear : |(r : ℚ) - v| < 1 / 2 := abs_lt.mpr ⟨by linarith, by linarith⟩
  exact ⟨hnear.le, fun htie => absurd htie hnear.ne⟩

/-- What is known of the number is enough to round it, with ties to even. -/
theorem Approximates.roundsTo (h : Approximates mantissa accuracy v) :
    RoundsTo v (Accuracy.roundToNearestEven mantissa accuracy) := by
  rcases accuracy with _ | (_ | _ | _) <;> simp only [Approximates, Accuracy.roundToNearestEven] at h ⊢
  · exact roundsTo_of_lt (by linarith) (by linarith)
  · exact roundsTo_of_lt (by linarith) (by linarith)
  · obtain ⟨half, rfl | rfl⟩ := Nat.even_or_odd' mantissa
    · have heven : 2 * half + 2 * half % 2 = 2 * half := by omega
      rw [heven]
      exact ⟨abs_le.mpr ⟨by linarith, by linarith⟩, fun _ => even_two_mul half⟩
    · have heven : 2 * half + 1 + (2 * half + 1) % 2 = 2 * (half + 1) := by omega
      rw [heven]
      push_cast at h ⊢
      refine ⟨?_, fun _ => even_two_mul (half + 1)⟩
      push_cast
      exact abs_le.mpr ⟨by linarith, by linarith⟩
  · exact roundsTo_of_lt (by push_cast; linarith) (by push_cast; linarith)

/-- A remainder says where a quotient lies. -/
theorem approximates_div (a : ℕ) {b : ℕ} (hb : 0 < b) :
    Approximates (a / b) (accuracyOfFraction (a % b) b) ((a : ℚ) / b) := by
  have hb' : (0 : ℚ) < b := by exact_mod_cast hb
  have hsplit : (a : ℚ) / b = (a / b : ℕ) + ((a % b : ℕ) : ℚ) / b := by
    rw [add_div' _ _ _ hb'.ne', div_left_inj' hb'.ne']
    exact_mod_cast (Nat.div_add_mod' a b).symm
  have hrest : ((a % b : ℕ) : ℚ) / b < 1 := by
    rw [div_lt_one hb']
    exact_mod_cast Nat.mod_lt a hb
  have hdouble : 2 * (((a % b : ℕ) : ℚ) / b) = ((2 * (a % b) : ℕ) : ℚ) / b := by
    push_cast
    ring
  rw [accuracyOfFraction]
  split
  · rename_i hzero
    rw [hsplit, hzero]
    simp [Approximates]
  · rename_i hne
    have hpos : 0 < ((a % b : ℕ) : ℚ) / b := div_pos (by exact_mod_cast Nat.pos_of_ne_zero hne) hb'
    rcases lt_trichotomy (2 * (a % b)) b with hlt | heq | hgt
    · have hhalf : ((2 * (a % b) : ℕ) : ℚ) / b < 1 := (div_lt_one hb').mpr (by exact_mod_cast hlt)
      rw [compare_lt_iff_lt.mpr hlt]
      constructor <;> linarith
    · have hhalf : ((2 * (a % b) : ℕ) : ℚ) / b = 1 :=
        (div_eq_one_iff_eq hb'.ne').mpr (by exact_mod_cast heq)
      rw [compare_eq_iff_eq.mpr heq]
      change _ = _
      linarith
    · have hhalf : 1 < ((2 * (a % b) : ℕ) : ℚ) / b := (one_lt_div hb').mpr (by exact_mod_cast hgt)
      rw [compare_gt_iff_gt.mpr hgt]
      constructor <;> linarith

end Approximates

/-! ## Rounding what is known -/

/-- The exponent to which a significand is shifted: 53 bits are left, or as many as there are steps of the
least double. -/
theorem targetExponent_eq (mantissa : ℕ) (exponent : ℤ) :
    Format.targetExponent .binary64 (Float.Model.totalExponent mantissa exponent) =
      max (mantissa.log2 + 1 + exponent - 53) (-1074) := rfl

section Round

variable {mantissa : ℕ} {exponent : ℤ} {accuracy : Accuracy} {q : ℚ}

/-- Shifting to the target exponent and rounding there is rounding on the grid of doubles. -/
theorem Approximates.roundsOnGrid (h : Approximates mantissa accuracy (q / 2 ^ exponent))
    (hfits : exponent ≤ max (mantissa.log2 + 1 + exponent - 53) (-1074)) :
    RoundsOnGrid q (shiftToTargetExponent .binary64 mantissa exponent accuracy).1.roundedMantissa
      (shiftToTargetExponent .binary64 mantissa exponent accuracy).2 := by
  simp only [shiftToTargetExponent, shiftToExponent, targetExponent_eq]
  generalize htarget : max ((mantissa.log2 : ℤ) + 1 + exponent - 53) (-1074) = target at hfits
  obtain ⟨count, rfl⟩ := Int.le.dest hfits
  have hcount : (exponent + count - exponent).toNat = count := by omega
  rw [hcount]
  have hscale : q / 2 ^ (exponent + (count : ℤ)) = q / 2 ^ exponent / 2 ^ count := by
    rw [zpow_add₀ two_ne_zero, zpow_natCast, div_div]
  have hround := (h.ofMantissaAndAccuracy.shiftRight count).roundsTo
  have hpos : (0 : ℚ) < 2 ^ count := by positivity
  constructor
  · rw [hscale]
    exact hround
  · omega
  · have hbound : mantissa + 1 ≤ 2 ^ (53 + count) :=
      Nat.lt_log2_self.trans_le (Nat.pow_le_pow_right two_pos (by omega))
    rw [hscale, div_lt_iff₀ hpos, ← pow_add]
    exact h.lt_add_one.trans_le (by exact_mod_cast hbound)
  · rcases max_choice ((mantissa.log2 : ℤ) + 1 + exponent - 53) (-1074) with hnormal | hleast
    · right
      have hbound : 2 ^ (52 + count) ≤ mantissa := by
        have hne : mantissa ≠ 0 := by
          rintro rfl
          have hlog : Nat.log2 0 = 0 := rfl
          omega
        exact (Nat.pow_le_pow_right two_pos (by omega)).trans (Nat.log2_self_le hne)
      rw [hscale, le_div_iff₀ hpos, ← pow_add]
      exact le_trans (by exact_mod_cast hbound) h.le
    · left
      omega

/-- A significand of at most 53 bits is not shifted again. -/
theorem shiftToTargetExponent_of_lt {r : ℕ} {t : ℤ} (hlt : r < 2 ^ 53) (hmin : -1074 ≤ t) :
    shiftToTargetExponent .binary64 r t .exact = (⟨r, false, false⟩, t) := by
  have hlog : r.log2 < 53 := by
    rcases Nat.eq_zero_or_pos r with rfl | hpos
    · decide
    · exact (Nat.log2_lt hpos.ne').mpr hlt
  have hcount : (max ((r.log2 : ℤ) + 1 + t - 53) (-1074) - t).toNat = 0 := by omega
  simp only [shiftToTargetExponent, shiftToExponent, targetExponent_eq, hcount]
  simp [ExtendedMantissa.ofMantissaAndAccuracy]
  rfl

/-- At the end of a binade the significand is halved. -/
theorem shiftToTargetExponent_two_pow {t : ℤ} (hmin : -1074 ≤ t) :
    shiftToTargetExponent .binary64 (2 ^ 53) t .exact = (⟨2 ^ 52, false, false⟩, t + 1) := by
  have hlog : Nat.log2 (2 ^ 53) = 53 := by decide +kernel
  have hcount : (max ((Nat.log2 (2 ^ 53) : ℤ) + 1 + t - 53) (-1074) - t).toNat = 1 := by omega
  simp only [shiftToTargetExponent, shiftToExponent, targetExponent_eq, hcount]
  rfl

/-- A number that is known well enough is packed as it is rounded on its grid. -/
theorem Approximates.exists_roundsOnGrid (h : Approximates mantissa accuracy (q / 2 ^ exponent))
    (hfits : exponent ≤ max (mantissa.log2 + 1 + exponent - 53) (-1074)) :
    ∃ r t, RoundsOnGrid q r t ∧
      (pack .binary64 (roundWithAccuracy .binary64 .positive mantissa exponent accuracy)).toNat =
        min ((t + 1074).toNat * 2 ^ 52 + r) (2047 * 2 ^ 52) := by
  have hgrid := h.roundsOnGrid hfits
  refine ⟨_, _, hgrid, ?_⟩
  unfold roundWithAccuracy
  dsimp only
  generalize (shiftToTargetExponent .binary64 mantissa exponent accuracy).1.roundedMantissa = r at *
  generalize (shiftToTargetExponent .binary64 mantissa exponent accuracy).2 = t at *
  have hmin := hgrid.le_exponent
  rcases hgrid.le_two_pow.lt_or_eq with hlt | rfl
  · rw [shiftToTargetExponent_of_lt hlt hmin]
    rcases Nat.eq_zero_or_pos r with rfl | hpos
    · obtain rfl : t = -1074 := hgrid.two_pow_le_natCast.resolve_right (by decide)
      decide
    · dsimp only
      rw [dif_neg hpos.ne']
      exact toNat_pack_finite hpos hlt hmin hgrid.two_pow_le_natCast
  · rw [shiftToTargetExponent_two_pow hmin]
    dsimp only
    rw [dif_neg (by decide), toNat_pack_finite _ (by decide) (by omega) (Or.inr le_rfl)]
    omega

/-- A number that is known well enough is packed as the double nearest to it. -/
theorem Approximates.isNearest (h : Approximates mantissa accuracy (q / 2 ^ exponent))
    (hfits : exponent ≤ max (mantissa.log2 + 1 + exponent - 53) (-1074)) :
    IsNearest (.ofModel (.pack (roundWithAccuracy .binary64 .positive mantissa exponent accuracy))) q := by
  obtain ⟨r, t, hgrid, hbits⟩ := h.exists_roundsOnGrid hfits
  exact hgrid.isNearest hbits

/-- A dividend that was shifted far enough leaves a quotient with 53 bits. -/
theorem log2_div_shiftLeft {m₁ m₂ count : ℕ} (h₁ : 0 < m₁) (h₂ : 0 < m₂)
    (hcount : m₂.log2 + 53 ≤ m₁.log2 + count) : 52 ≤ (m₁ <<< count / m₂).log2 := by
  have hquotient : 2 ^ 52 ≤ m₁ <<< count / m₂ := by
    rw [Nat.le_div_iff_mul_le h₂, Nat.shiftLeft_eq]
    calc 2 ^ 52 * m₂ ≤ 2 ^ 52 * 2 ^ (m₂.log2 + 1) := Nat.mul_le_mul_left _ Nat.lt_log2_self.le
      _ = 2 ^ (m₂.log2 + 53) := by rw [← pow_add]; congr 1; omega
      _ ≤ 2 ^ (m₁.log2 + count) := Nat.pow_le_pow_right two_pos hcount
      _ = 2 ^ m₁.log2 * 2 ^ count := pow_add _ _ _
      _ ≤ m₁ * 2 ^ count := Nat.mul_le_mul_right _ (Nat.log2_self_le h₁.ne')
  have hne : m₁ <<< count / m₂ ≠ 0 := ((Nat.two_pow_pos 52).trans_le hquotient).ne'
  exact (Nat.le_log2 hne).mpr hquotient

/-- A quotient of positive numbers is packed as the double nearest to it. -/
theorem isNearest_div {m₁ m₂ : ℕ} (e₁ e₂ : ℤ) (h₁ : 0 < m₁) (h₂ : 0 < m₂) :
    IsNearest (.ofModel (.pack (div .binary64 (.finite .positive m₁ e₁ h₁) (.finite .positive m₂ e₂ h₂))))
      ((m₁ * 2 ^ e₁) / (m₂ * 2 ^ e₂)) := by
  have hexponent : Format.targetExponent .binary64
      (Float.Model.totalExponent m₁ e₁ - Float.Model.totalExponent m₂ e₂) =
        max ((m₁.log2 + 1 + e₁) - (m₂.log2 + 1 + e₂) - 53) (-1074) := rfl
  unfold div divCore
  dsimp only
  rw [hexponent]
  generalize htarget :
    min (e₁ - e₂) (max ((m₁.log2 + 1 + e₁) - (m₂.log2 + 1 + e₂) - 53) (-1074)) = target
  obtain ⟨count, hcount⟩ := Int.le.dest (show target ≤ e₁ - e₂ by omega)
  have hshift : (e₁ - e₂ - target).toNat = count := by omega
  rw [hshift]
  refine Approximates.isNearest ?_ ?_
  · have hsplit : (2 : ℚ) ^ e₁ = 2 ^ e₂ * (2 ^ target * 2 ^ count) := by
      rw [← zpow_natCast, ← zpow_add₀ two_ne_zero, ← zpow_add₀ two_ne_zero]
      congr 1
      omega
    have hquotient :
        (m₁ * 2 ^ e₁ : ℚ) / (m₂ * 2 ^ e₂) / 2 ^ target = ((m₁ <<< count : ℕ) : ℚ) / m₂ := by
      rw [hsplit, Nat.shiftLeft_eq]
      push_cast
      field_simp
    rw [hquotient]
    exact approximates_div _ h₂
  · rcases le_or_gt target (-1074) with hleast | hnormal
    · exact hleast.trans (le_max_right _ _)
    · have hbits := log2_div_shiftLeft h₁ h₂ (show m₂.log2 + 53 ≤ m₁.log2 + count by omega)
      omega

end Round

/-! ## Whole numbers and powers of ten -/

/-- A double with a positive whole value is unpacked to that value. -/
theorem exists_unpack_eq {x : Float} {n : ℕ} (hlt : x.toBits.toNat < 2047 * 2 ^ 52) (hn : 0 < n)
    (hvalue : (Binary.ofBits x.toBits).value = n) :
    ∃ m e hpos, Float.Model.unpack x.toModel = .finite .positive m e hpos ∧ (m * 2 ^ e : ℚ) = n := by
  have hpos : 0 < (Binary.ofBits x.toBits).significand := by
    refine Nat.pos_of_ne_zero fun hzero => ?_
    rw [Binary.value, hzero, Nat.cast_zero, zero_mul] at hvalue
    exact hn.ne (by exact_mod_cast hvalue)
  exact ⟨_, _, hpos, by rw [unpack_eq hlt, dif_pos hpos], hvalue⟩

/-- A whole number of at most 53 bits is rounded to itself. -/
theorem RoundsOnGrid.eq_of_lt {n r : ℕ} {t : ℤ} (h : RoundsOnGrid n r t) (hlt : n < 2 ^ 53) :
    (r : ℚ) * 2 ^ t = n := by
  have hdist := h.le_dist (j := n) (k := 0) (by rw [Nat.abs_cast]; exact_mod_cast hlt) (by decide)
  rw [zpow_zero, mul_one, Int.cast_natCast, sub_self, abs_zero] at hdist
  exact sub_eq_zero.mp (abs_nonpos_iff.mp hdist)

/-- A whole number is shifted until it has 53 bits. -/
theorem toFloat_eq {n count : ℕ} (hn : 0 < n) (hcount : n.log2 + count = 52) :
    n.toUInt64.toFloat = .ofModel (.pack
      (roundWithAccuracy .binary64 .positive (n <<< count) (-count) .exact)) := by
  have hlt : n < 2 ^ 53 := (Nat.log2_lt hn.ne').mp (by omega)
  have hcast : n.toUInt64.toNat = n := by
    rw [Nat.toUInt64, UInt64.toNat_ofNat']
    omega
  have hshift : (0 - max ((n.log2 : ℤ) + 1 + 0 - 53) (-1074)).toNat = count := by omega
  change Float.ofModel (.pack (ofInt .binary64 n.toUInt64.toNat)) = _
  rw [hcast, ofInt, Float.Model.UnpackedFloat.normalize, compare_gt_iff_gt.mpr (by omega : (n : ℤ) > 0)]
  simp only [Float.Model.UnpackedFloat.round, decreaseExponent, targetExponent_eq, Int.toNat_natCast,
    hshift]
  rw [zero_sub]

/-- A whole number of at most 53 bits is converted exactly. -/
theorem exists_unpack_toFloat {n : ℕ} (hn : 0 < n) (hlt : n < 2 ^ 53) :
    ∃ m e hpos, Float.Model.unpack n.toUInt64.toFloat.toModel = .finite .positive m e hpos ∧
      (m * 2 ^ e : ℚ) = n := by
  obtain ⟨count, hcount⟩ := Nat.le.dest (Nat.lt_succ_iff.mp ((Nat.log2_lt hn.ne').mpr hlt))
  have hexact : Approximates (n <<< count) .exact ((n : ℚ) / 2 ^ (-(count : ℤ))) := by
    change _ = _
    rw [zpow_neg, zpow_natCast, div_inv_eq_mul, Nat.shiftLeft_eq]
    push_cast
    rfl
  have hbits : 52 ≤ (n <<< count).log2 := by
    have hle : 2 ^ 52 ≤ n <<< count := by
      rw [Nat.shiftLeft_eq, ← hcount, pow_add]
      exact Nat.mul_le_mul_right _ (Nat.log2_self_le hn.ne')
    exact (Nat.le_log2 (by omega)).mpr hle
  obtain ⟨r, t, hgrid, hpack⟩ := hexact.exists_roundsOnGrid (by omega)
  have hfinite : (t + 1074).toNat * 2 ^ 52 + r < 2047 * 2 ^ 52 := by
    rw [← not_le, hgrid.overflow_iff, not_le]
    exact_mod_cast hlt.trans (by decide +kernel)
  rw [min_eq_left hfinite.le, ← toNat_toBits_ofModel, ← toFloat_eq hn hcount] at hpack
  refine exists_unpack_eq (hpack ▸ hfinite) hn ?_
  rw [(hgrid.decode hpack (hpack ▸ hfinite)).1]
  exact hgrid.eq_of_lt hlt

/-- A magnitude that is a natural number has its value. -/
theorem Binary.value_eq_of_isNat {x : Binary} {n : ℕ} (h : x.isNat n = true) : x.value = n := by
  have hnat : x.significand * 2 ^ x.exponent.toNat = n * 2 ^ (-x.exponent).toNat := beq_iff_eq.mp h
  have hcast : (x.significand : ℚ) * 2 ^ x.exponent.toNat = n * 2 ^ (-x.exponent).toNat := by
    exact_mod_cast hnat
  have hsplit : (2 : ℚ) ^ x.exponent.toNat = 2 ^ x.exponent * 2 ^ (-x.exponent).toNat := by
    rw [← zpow_natCast, ← zpow_natCast, ← zpow_add₀ two_ne_zero]
    congr 1
    omega
  rw [hsplit, ← mul_assoc] at hcast
  exact mul_right_cancel₀ (by positivity) hcast

/-- The table holds the powers of ten themselves. -/
theorem powersOfTen_isNat : ∀ d : Fin Float.exactlyRepresentablePowersOfTen.size,
    (Float.exactlyRepresentablePowersOfTen[d]).toBits.toNat < 2047 * 2 ^ 52 ∧
      (Binary.ofBits (Float.exactlyRepresentablePowersOfTen[d]).toBits).isNat (10 ^ d.val) = true := by
  decide +kernel

/-- A power of ten from the table is unpacked to itself. -/
theorem exists_unpack_powerOfTen {d : ℕ} (hd : d < Float.exactlyRepresentablePowersOfTen.size) :
    ∃ m e hpos, Float.Model.unpack (Float.exactlyRepresentablePowersOfTen[d]).toModel =
      .finite .positive m e hpos ∧ (m * 2 ^ e : ℚ) = (10 ^ d : ℕ) := by
  obtain ⟨hlt, hvalue⟩ := powersOfTen_isNat ⟨d, hd⟩
  exact exists_unpack_eq hlt (by positivity) (Binary.value_eq_of_isNat hvalue)

/-! ## Decimal notation -/

/-- What is less than half the least double is rounded to zero. -/
theorem isNearest_zero {q : ℚ} (hq : 0 ≤ q) (hlt : q < 2 ^ (-1075 : ℤ)) :
    IsNearest (.ofModel (.pack (.zero .positive))) q := by
  have hpos : (0 : ℚ) < 2 ^ (-1074 : ℤ) := by positivity
  have hhalf : q / 2 ^ (-1074 : ℤ) < 1 / 2 := by
    rw [div_lt_iff₀ hpos, show (-1074 : ℤ) = -1075 + 1 by decide, two_zpow_add_one]
    linarith
  have hnonneg : 0 ≤ q / 2 ^ (-1074 : ℤ) := div_nonneg hq hpos.le
  have hgrid : RoundsOnGrid q 0 (-1074) := by
    refine ⟨roundsTo_of_lt ?_ ?_, le_rfl, hhalf.trans (by norm_num), Or.inl rfl⟩
    · rw [Nat.cast_zero]
      exact lt_of_lt_of_le (by norm_num) hnonneg
    · rwa [Nat.cast_zero, zero_add]
  exact hgrid.isNearest rfl

/-- A decimal number of which few digits stand behind the point is a quotient of exact doubles. -/
theorem isNearest_quotient {n d : ℕ} (hn : n < 2 ^ 53)
    (hd : d < Float.exactlyRepresentablePowersOfTen.size) :
    IsNearest (n.toUInt64.toFloat / Float.exactlyRepresentablePowersOfTen[d]) (n / 10 ^ d) := by
  obtain ⟨m₂, e₂, h₂, hpower, hvalue₂⟩ := exists_unpack_powerOfTen hd
  change IsNearest (.ofModel (.pack (div .binary64 (Float.Model.unpack n.toUInt64.toFloat.toModel)
    (Float.Model.unpack (Float.exactlyRepresentablePowersOfTen[d]).toModel)))) _
  rw [hpower]
  rcases Nat.eq_zero_or_pos n with rfl | hpos
  · rw [Nat.cast_zero, zero_div]
    exact isNearest_zero le_rfl (by positivity)
  · obtain ⟨m₁, e₁, h₁, hwhole, hvalue₁⟩ := exists_unpack_toFloat hpos hn
    rw [hwhole, ← hvalue₁, show (10 : ℚ) ^ d = ((10 ^ d : ℕ) : ℚ) by push_cast; rfl, ← hvalue₂]
    exact isNearest_div e₁ e₂ h₁ h₂

/-- More digits behind the point than a double has place for leave next to nothing. -/
theorem div_ten_pow_lt {n d : ℕ} (hd : 2048 + n.log2 < d) :
    (n / 10 ^ d : ℚ) < 2 ^ (-1075 : ℤ) := by
  have hnat : n * 2 ^ 1075 < 10 ^ d :=
    calc n * 2 ^ 1075 < 2 ^ (n.log2 + 1) * 2 ^ 1075 :=
          Nat.mul_lt_mul_of_pos_right Nat.lt_log2_self (by positivity)
      _ = 2 ^ (n.log2 + 1 + 1075) := (pow_add _ _ _).symm
      _ ≤ 2 ^ d := Nat.pow_le_pow_right two_pos (by omega)
      _ ≤ 10 ^ d := Nat.pow_le_pow_left (by decide) d
  have hcast : (n : ℚ) * 2 ^ 1075 < 10 ^ d := by exact_mod_cast hnat
  rw [zpow_neg, div_lt_iff₀ (by positivity), inv_mul_eq_div, lt_div_iff₀ (by positivity)]
  exact hcast

/-- A product whose first factor was shifted beforehand is packed as the double nearest to it. -/
theorem isNearest_mul {m₁ m₂ : ℕ} (h₁ : 0 < m₁ <<< 53) (h₂ : 0 < m₂) :
    IsNearest (.ofModel (.pack
      (mul .binary64 (.finite .positive (m₁ <<< 53) (-53) h₁) (.finite .positive m₂ 0 h₂))))
      (m₁ * m₂) := by
  have hbits : 53 ≤ (m₁ <<< 53 * m₂).log2 := by
    have hle : 2 ^ 53 ≤ m₁ <<< 53 * m₂ := by
      rw [Nat.shiftLeft_eq] at h₁ ⊢
      rw [Nat.mul_right_comm]
      exact Nat.le_mul_of_pos_left _ (Nat.mul_pos (Nat.pos_of_mul_pos_right h₁) h₂)
    exact (Nat.le_log2 (by omega)).mpr hle
  have hexact : Approximates (m₁ <<< 53 * m₂) .exact ((m₁ * m₂ : ℚ) / 2 ^ (-53 + 0 : ℤ)) := by
    change _ = _
    rw [add_zero, zpow_neg, div_inv_eq_mul, Nat.shiftLeft_eq, Nat.mul_right_comm]
    push_cast
    rfl
  exact hexact.isNearest (by omega)

/-- Outside the reach of the table, numbers in decimal notation are rounded from whole numbers. -/
theorem isNearest_scientific (n d : ℕ) :
    IsNearest (.ofModel (.pack (UnpackedFloat.ofScientific .binary64 n (Int.negOfNat d))))
      (n / 10 ^ d) := by
  have hexponent : Int.negOfNat d = -(d : ℤ) := Int.negOfNat_eq
  have hrange : (2 : ℤ) ^ Format.exponentBits .binary64 = 2048 := by decide
  rw [UnpackedFloat.ofScientific, hexponent, hrange]
  rcases Nat.eq_zero_or_pos n with rfl | hpos
  · rw [dif_pos rfl, Nat.cast_zero, zero_div]
    exact isNearest_zero le_rfl (by positivity)
  · rw [dif_neg hpos.ne', if_neg (by omega)]
    by_cases htiny : -(d : ℤ) < -(2048 + (n.log2 : ℤ))
    · rw [if_pos htiny]
      exact isNearest_zero (by positivity) (div_ten_pow_lt (by omega))
    · rw [if_neg htiny]
      rcases Nat.eq_zero_or_pos d with rfl | hd
      · rw [if_pos (by decide)]
        have hmul := isNearest_mul (Nat.shiftLeft_pos_iff.mpr hpos) (show 0 < 10 ^ 0 by decide)
        have hvalue : (n : ℚ) * ((10 ^ 0 : ℕ) : ℚ) = n / 10 ^ 0 := by simp
        rw [hvalue] at hmul
        exact hmul
      · rw [if_neg (by omega)]
        have hcount : (-(-(d : ℤ))).toNat = d := by omega
        have hvalue : (n : ℚ) / 10 ^ d =
            n * 2 ^ (0 : ℤ) / (((10 ^ (-(-(d : ℤ))).toNat : ℕ) : ℚ) * 2 ^ (0 : ℤ)) := by
          rw [hcount, zpow_zero, mul_one, mul_one, Nat.cast_pow, Nat.cast_ofNat]
        rw [hvalue]
        exact isNearest_div 0 0 hpos (by positivity)

/-- A number in decimal notation is converted to the double nearest to it. -/
theorem isNearest_ofScientific (n d : ℕ) : IsNearest (Float.ofScientific n true d) (n / 10 ^ d) := by
  rw [Float.ofScientific]
  split
  · rename_i h
    exact isNearest_quotient h.1 (Nat.lt_succ_iff.mpr h.2)
  · exact isNearest_scientific n d

end Tabletop
