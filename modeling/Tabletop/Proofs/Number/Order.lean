import Tabletop.Proofs.Number.Encoding

/-!
# Doubles in order

The doubles without a sign are ordered like their bits, and even significands are those of even bits. So
between two doubles with even significands there is always a third one, and only one double can be nearest
to a number.
-/

namespace Tabletop

open Float.Model (UnpackedFloat Format)
open Float.Model.UnpackedFloat

/-- From the encoding of infinity on, a double without a sign is not finite, and what is infinite is
encoded like this. -/
theorem of_le_toBits {x : Float} (hle : 2047 * 2 ^ 52 ≤ x.toBits.toNat) (hlt : x.toBits.toNat < 2 ^ 63) :
    x.isFinite = false ∧ (x.isInf = true → x.toBits.toNat = 2047 * 2 ^ 52) := by
  change isFinite (unpack .binary64 x.toBits.toBitVec) = false ∧
    (isInf (unpack .binary64 x.toBits.toBitVec) = true → _)
  have hones : @unpackExponent .binary64 x.toBits.toBitVec = -1#11 :=
    unpackExponent_eq_ones_iff.mpr (hle.trans_eq (Nat.mod_eq_of_lt hlt).symm)
  have hmantissa := toNat_unpackMantissa x.toBits.toBitVec
  obtain ⟨-, hzero, hunpack⟩ | ⟨-, -, hunpack⟩ | ⟨hne, -⟩ := unpack_cases x.toBits.toBitVec
  · rw [hunpack]
    refine ⟨rfl, fun _ => ?_⟩
    rw [hzero] at hmantissa
    simp at hmantissa
    omega
  · rw [hunpack]
    exact ⟨rfl, fun h => by cases h⟩
  · exact absurd hones hne

/-- The finite doubles without a sign are those whose bits are below those of infinity. -/
theorem isFinite_iff {x : Float} (h : x.toBits.toNat < 2 ^ 63) :
    x.isFinite = true ↔ x.toBits.toNat < 2047 * 2 ^ 52 := by
  refine ⟨fun hfinite => ?_, fun hlt => (isFinite_of_lt hlt).1⟩
  by_contra hle
  rw [(of_le_toBits (Nat.not_lt.mp hle) h).1] at hfinite
  cases hfinite

/-- There is one infinity without a sign. -/
theorem isInf_iff {x : Float} (h : x.toBits.toNat < 2 ^ 63) :
    x.isInf = true ↔ x.toBits.toNat = 2047 * 2 ^ 52 := by
  refine ⟨fun hinf => ?_, fun heq => (isInf_of_eq heq).1⟩
  refine (of_le_toBits (Nat.not_lt.mp fun hlt => ?_) h).2 hinf
  rw [(isFinite_of_lt hlt).2] at hinf
  cases hinf

/-- The doubles without a sign, in the order of their bits. -/
def magnitude (n : ℕ) : ℚ :=
  if n < 2 ^ 52 then n * 2 ^ (-1074 : ℤ) else (2 ^ 52 + n % 2 ^ 52 : ℕ) * 2 ^ ((n / 2 ^ 52 : ℕ) - 1075 : ℤ)

/-- Each double is larger than the one before. -/
theorem magnitude_strictMono : StrictMono magnitude := by
  refine strictMono_nat_of_lt_succ fun n => ?_
  have hmore {a b : ℕ} (e : ℤ) (h : a < b) : (a * 2 ^ e : ℚ) < b * 2 ^ e :=
    mul_lt_mul_of_pos_right (by exact_mod_cast h) (by positivity)
  rcases lt_trichotomy (n + 1) (2 ^ 52) with hbelow | hstart | habove
  · rw [magnitude, magnitude, if_pos (by omega), if_pos hbelow]
    exact hmore _ n.lt_succ_self
  · have hfraction : 2 ^ 52 + (n + 1) % 2 ^ 52 = n + 1 := by omega
    have hexponent : (((n + 1) / 2 ^ 52 : ℕ) : ℤ) - 1075 = -1074 := by omega
    rw [magnitude, magnitude, if_pos (by omega), if_neg (by omega), hfraction, hexponent]
    exact hmore _ n.lt_succ_self
  · rw [magnitude, magnitude, if_neg (by omega), if_neg (by omega)]
    by_cases hend : n % 2 ^ 52 + 1 = 2 ^ 52
    · -- The significand starts again, and its unit is doubled.
      have hfraction : 2 ^ 52 + (n + 1) % 2 ^ 52 = 2 ^ 52 := by omega
      have hexponent : (((n + 1) / 2 ^ 52 : ℕ) : ℤ) - 1075 = (n / 2 ^ 52 : ℕ) - 1075 + 1 := by omega
      rw [hfraction, hexponent, two_zpow_add_one, ← mul_assoc]
      have hdouble : ((2 ^ 52 : ℕ) : ℚ) * 2 = (2 ^ 53 : ℕ) := by norm_num
      rw [hdouble]
      exact hmore _ (by omega)
    · have hfraction : (n + 1) % 2 ^ 52 = n % 2 ^ 52 + 1 := by omega
      have hexponent : (n + 1) / 2 ^ 52 = n / 2 ^ 52 := by omega
      rw [hfraction, hexponent]
      exact hmore _ (by omega)

/-- A double that is not negative has the magnitude of its bits, and a significand of their parity. -/
theorem exactValue_eq_magnitude {x : Float} (h : x.toBits.toNat < 2 ^ 63) :
    exactValue x = magnitude x.toBits.toNat ∧
      (Even (Binary.ofBits x.toBits).significand ↔ Even x.toBits.toNat) := by
  rw [exactValue, isNegative_eq_false_iff.mpr h, magnitude, if_neg Bool.false_ne_true]
  rcases lt_or_ge x.toBits.toNat (2 ^ 52) with hsmall | hlarge
  · rw [if_pos hsmall, Binary.ofBits_of_lt hsmall]
    exact ⟨rfl, Iff.rfl⟩
  · obtain ⟨narrow, hbinary⟩ := Binary.ofBits_of_le hlarge h
    rw [if_neg (by omega), hbinary]
    refine ⟨rfl, ?_⟩
    rw [Nat.even_iff, Nat.even_iff]
    dsimp only
    omega

/-- A double whose bits are smaller is smaller. -/
theorem exactValue_lt_of_toBits_lt {x y : Float} (hlt : x.toBits.toNat < y.toBits.toNat)
    (hy : y.toBits.toNat < 2 ^ 63) : exactValue x < exactValue y := by
  rw [(exactValue_eq_magnitude (hlt.trans hy)).1, (exactValue_eq_magnitude hy).1]
  exact magnitude_strictMono hlt

/-- All bits before those of infinity are bits of a double. -/
theorem exists_toBits_eq {n : ℕ} (h : n < 2047 * 2 ^ 52) : ∃ x : Float, x.toBits.toNat = n := by
  have hbits : (UInt64.ofNat n).toNat = n := UInt64.toNat_ofNat_of_lt' (h.trans (by decide))
  have hones : ¬ @unpackExponent .binary64 (UInt64.ofNat n).toBitVec = -1#11 := by
    rw [unpackExponent_eq_ones_iff, not_le]
    exact (Nat.mod_le _ _).trans_lt (hbits.trans_lt h)
  exact ⟨.ofModel ⟨UInt64.ofNat n, ⟨fun hexponent => absurd hexponent hones⟩⟩, hbits⟩

/-- Between two doubles with even bits there is another one. -/
theorem exists_between {x y : Float} (hx : Even x.toBits.toNat) (hy : Even y.toBits.toNat)
    (hlt : x.toBits.toNat < y.toBits.toNat) (hfinite : y.toBits.toNat < 2047 * 2 ^ 52) :
    ∃ z : Float, z.isFinite = true ∧ exactValue x < exactValue z ∧ exactValue z < exactValue y := by
  have hnext : x.toBits.toNat + 1 < y.toBits.toNat := by
    refine lt_of_le_of_ne hlt fun heq => ?_
    rw [← heq] at hy
    exact Nat.not_even_iff_odd.mpr hx.add_one hy
  obtain ⟨z, hz⟩ := exists_toBits_eq (hnext.trans hfinite)
  refine ⟨z, (isFinite_of_lt (by omega)).1, ?_, ?_⟩
  · exact exactValue_lt_of_toBits_lt (by omega) (by omega)
  · exact exactValue_lt_of_toBits_lt (by omega) (by omega)

/-- No double nearest to a number stands before another one. -/
theorem IsNearest.not_lt {x y : Float} {q : ℚ} (hx : IsNearest x q) (hy : IsNearest y q) :
    ¬ x.toBits.toNat < y.toBits.toNat := by
  intro hlt
  have hx' := isNegative_eq_false_iff.mp hx.isNegative_eq
  have hy' := isNegative_eq_false_iff.mp hy.isNegative_eq
  rcases le_or_gt (overflowMagnitude : ℚ) q with hlarge | hsmall
  · have hxbits := (isInf_iff hx').mp (hx.isInf_of_le hlarge)
    have hybits := (isInf_iff hy').mp (hy.isInf_of_le hlarge)
    omega
  · have hxfinite := hx.isFinite_of_lt hsmall
    have hyfinite := hy.isFinite_of_lt hsmall
    have htie : |exactValue x - q| = |exactValue y - q| :=
      le_antisymm (hx.le_dist hxfinite y hyfinite) (hy.le_dist hyfinite x hxfinite)
    have hvalues := exactValue_lt_of_toBits_lt hlt hy'
    have hxeven := (exactValue_eq_magnitude hx').2.mp
      (hx.even_of_tie hxfinite y hyfinite htie.symm hvalues.ne')
    have hyeven := (exactValue_eq_magnitude hy').2.mp
      (hy.even_of_tie hyfinite x hxfinite htie hvalues.ne)
    -- Two doubles as near as each other lie on both sides of the number, and one between them is nearer.
    obtain ⟨z, hzfinite, hafter, hbefore⟩ :=
      exists_between hxeven hyeven hlt ((isFinite_iff hy').mp hyfinite)
    rcases abs_eq_abs.mp htie with hsame | hopposite
    · linarith
    · have hnearer : |exactValue z - q| < |exactValue x - q| := by
        rw [abs_of_neg (show exactValue x - q < 0 by linarith), abs_lt]
        constructor <;> linarith
      exact absurd (hx.le_dist hxfinite z hzfinite) (not_le.mpr hnearer)

/-- There is only one double nearest to a number. -/
theorem IsNearest.unique {x y : Float} {q : ℚ} (hx : IsNearest x q) (hy : IsNearest y q) : x = y := by
  have hbits : x.toBits.toNat = y.toBits.toNat :=
    le_antisymm (Nat.not_lt.mp (hy.not_lt hx)) (Nat.not_lt.mp (hx.not_lt hy))
  exact eq_of_toNat_toBits hbits

end Tabletop
