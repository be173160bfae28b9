import Tabletop.Proofs.Number.Rounding

/-!
# The bits of a double

The bits of a double without a sign count the doubles from zero on. Hence a rounded number of steps is
packed by adding it to the number of the grid, and one that reaches the end of its binade is carried
over to the next grid by the same addition.
-/

namespace Tabletop

open Float.Model (UnpackedFloat Format)
open Float.Model.UnpackedFloat

/-- A double is known from its bits. -/
theorem eq_of_toNat_toBits {x y : Float} (h : x.toBits.toNat = y.toBits.toNat) : x = y := by
  obtain ⟨⟨bits, _⟩⟩ := x
  obtain ⟨⟨bits', _⟩⟩ := y
  obtain rfl : bits = bits' := UInt64.toNat_inj.mp h
  rfl

/-! ## Packing -/

/-- The components of a double in its bits. -/
theorem toNat_packComponents (sign : Sign) (exponent : BitVec 11) (mantissa : BitVec 52) :
    (packComponents .binary64 sign exponent mantissa).toNat =
      sign.toBitVec.toNat * 2 ^ 63 + (exponent.toNat * 2 ^ 52 + mantissa.toNat) := by
  simp only [packComponents]
  rw [BitVec.toNat_append, BitVec.toNat_append, ← Nat.shiftLeft_add_eq_or_of_lt mantissa.isLt,
    ← Nat.shiftLeft_add_eq_or_of_lt exponent.isLt]
  simp only [Nat.shiftLeft_eq]
  omega

/-- A normal significand has 53 bits. -/
theorem log2_eq_of_le_of_lt {mantissa : ℕ} (hle : 2 ^ 52 ≤ mantissa) (hlt : mantissa < 2 ^ 53) :
    mantissa.log2 = 52 := by
  have hne : mantissa ≠ 0 := by omega
  have hlow := (Nat.le_log2 hne).mpr hle
  have hhigh := (Nat.log2_lt hne).mpr hlt
  omega

/-- A significand and an exponent that fit are packed by counting, up to infinity. -/
theorem toNat_pack_finite {mantissa : ℕ} {exponent : ℤ} (hpos : 0 < mantissa)
    (hlt : mantissa < 2 ^ 53) (hmin : -1074 ≤ exponent) (hlarge : exponent = -1074 ∨ 2 ^ 52 ≤ mantissa) :
    (pack .binary64 (.finite .positive mantissa exponent hpos)).toNat =
      min ((exponent + 1074).toNat * 2 ^ 52 + mantissa) (2047 * 2 ^ 52) := by
  have hbias : exponent + (Format.exponentBias .binary64 : ℕ) +
      (Format.mantissaBitsWithoutImplicit .binary64 : ℕ) = exponent + 1075 :=
    Int.add_assoc exponent 1023 52
  have hbits : Format.mantissaBits .binary64 = 53 := rfl
  have hsign : Sign.positive.toBitVec.toNat = 0 := rfl
  unfold pack
  dsimp only
  rw [hbias, hbits]
  by_cases hexponent : 972 ≤ exponent
  · rw [if_pos (show 2 ^ 11 ≤ (exponent + 1075).toNat + 1 by omega), min_eq_right (by omega)]
    rfl
  · rw [if_neg (show ¬ 2 ^ 11 ≤ (exponent + 1075).toNat + 1 by omega), min_eq_left (by omega)]
    by_cases hnormal : 2 ^ 52 ≤ mantissa
    · rw [if_pos (show mantissa.log2 + 1 = 53 by rw [log2_eq_of_le_of_lt hnormal hlt]),
        toNat_packComponents, hsign, Nat.zero_mul, Nat.zero_add, BitVec.toNat_ofNat, BitVec.toNat_ofNat]
      omega
    · have hlog := (Nat.log2_lt (Nat.pos_iff_ne_zero.mp hpos)).mpr (Nat.not_le.mp hnormal)
      rw [if_neg (show ¬ mantissa.log2 + 1 = 53 by omega), toNat_packComponents, hsign,
        BitVec.toNat_ofNat, BitVec.toNat_ofNat, Nat.mod_eq_of_lt (Nat.not_le.mp hnormal),
        hlarge.resolve_right hnormal]
      simp

/-- The bits of a double that was packed. -/
theorem toNat_toBits_ofModel (unpacked : UnpackedFloat) :
    (Float.ofModel (Float.Model.pack unpacked)).toBits.toNat = (pack .binary64 unpacked).toNat := rfl

/-! ## Unpacking -/

/-- The lowest bits are those of the significand behind its leading one. -/
theorem toNat_unpackMantissa (b : BitVec (Format.numBits .binary64)) :
    (unpackMantissa b : BitVec 52).toNat = b.toNat % 2 ^ 52 := BitVec.extractLsb'_toNat 0 52 b

/-- The bits above them are those of the exponent. -/
theorem toNat_unpackExponent (b : BitVec (Format.numBits .binary64)) :
    (unpackExponent b : BitVec 11).toNat = b.toNat / 2 ^ 52 % 2 ^ 11 := by
  rw [← Nat.shiftRight_eq_div_pow]
  exact BitVec.extractLsb'_toNat 52 11 b

/-- The topmost bit is the sign. -/
theorem ofBitVec_unpackSign (b : BitVec (Format.numBits .binary64)) :
    Sign.ofBitVec (unpackSign b) = if b.toNat < 2 ^ 63 then .positive else .negative := by
  have htop : (unpackSign b).toNat = b.toNat / 2 ^ 63 := by
    have hlt : b.toNat < 2 ^ 64 := b.isLt
    have hbit : (unpackSign b).toNat = (b.toNat >>> 63) % 2 ^ 1 := BitVec.extractLsb'_toNat 63 1 b
    rw [hbit, Nat.shiftRight_eq_div_pow]
    exact Nat.mod_eq_of_lt (show b.toNat / 2 ^ 63 < 2 ^ 1 by omega)
  have hclear : unpackSign b = 0#1 ↔ b.toNat < 2 ^ 63 := by
    rw [← BitVec.toNat_inj, htop, BitVec.toNat_ofNat]
    omega
  simp only [Sign.ofBitVec, hclear]

/-- All bits of the exponent are set from the encoding of infinity on. -/
theorem unpackExponent_eq_ones_iff {b : BitVec (Format.numBits .binary64)} :
    unpackExponent b = -1#11 ↔ 2047 * 2 ^ 52 ≤ b.toNat % 2 ^ 63 := by
  rw [← BitVec.toNat_inj, toNat_unpackExponent]
  simp
  omega

/-- No bit of the exponent is set below the smallest significand with a leading one. -/
theorem unpackExponent_eq_zero_iff {b : BitVec (Format.numBits .binary64)} :
    unpackExponent b = 0#11 ↔ b.toNat % 2 ^ 63 < 2 ^ 52 := by
  rw [← BitVec.toNat_inj, toNat_unpackExponent]
  simp
  omega

/-- The significand with its leading one. -/
theorem toNat_leading_unpackMantissa (b : BitVec (Format.numBits .binary64)) :
    (1#1 ++ (unpackMantissa b : BitVec 52)).toNat = 2 ^ 52 + b.toNat % 2 ^ 52 := by
  rw [BitVec.toNat_append, ← Nat.shiftLeft_add_eq_or_of_lt (BitVec.isLt _), toNat_unpackMantissa]
  rfl

/-- The exponent tells infinities and what is not a number from zeros and other finite doubles. -/
theorem unpack_cases (b : BitVec (Format.numBits .binary64)) :
    (unpackExponent b = -1#11 ∧ unpackMantissa b = 0#52 ∧
      unpack .binary64 b = .infinity (.ofBitVec (unpackSign b))) ∨
    (unpackExponent b = -1#11 ∧ unpackMantissa b ≠ 0#52 ∧ unpack .binary64 b = .notANumber) ∨
    (unpackExponent b ≠ -1#11 ∧ (unpack .binary64 b = .zero (.ofBitVec (unpackSign b)) ∨
      ∃ mantissa exponent hpos,
        unpack .binary64 b = .finite (.ofBitVec (unpackSign b)) mantissa exponent hpos)) := by
  unfold unpack
  dsimp only
  by_cases hones : unpackExponent b = -1#11
  · rw [if_pos hones]
    by_cases hnone : unpackMantissa b = 0#52
    · exact .inl ⟨hones, hnone, if_pos hnone⟩
    · exact .inr (.inl ⟨hones, hnone, if_neg hnone⟩)
  · rw [if_neg hones]
    refine .inr (.inr ⟨hones, ?_⟩)
    by_cases hzero : unpackExponent b = 0#11
    · rw [if_pos hzero]
      by_cases hnone : unpackMantissa b = 0#52
      · exact .inl (dif_pos hnone)
      · have hpos : 0 < (unpackMantissa b).toNat :=
          Nat.pos_of_ne_zero fun h => hnone (BitVec.toNat_inj.mp h)
        exact .inr ⟨_, _, hpos, dif_neg hnone⟩
    · have hpos : 0 < (1#1 ++ (unpackMantissa b : BitVec 52)).toNat := by
        rw [toNat_leading_unpackMantissa]
        omega
      exact .inr ⟨_, _, hpos, if_neg hzero⟩

/-- A finite double without a sign is unpacked to its significand and its exponent. -/
theorem unpack_eq {x : Float} (h : x.toBits.toNat < 2047 * 2 ^ 52) :
    Float.Model.unpack x.toModel =
      if hpos : 0 < (Binary.ofBits x.toBits).significand then
        .finite .positive (Binary.ofBits x.toBits).significand (Binary.ofBits x.toBits).exponent hpos
      else .zero .positive := by
  change unpack .binary64 x.toBits.toBitVec = _
  have hnat : x.toBits.toBitVec.toNat = x.toBits.toNat := rfl
  have hexponent := toNat_unpackExponent x.toBits.toBitVec
  have hmantissa := toNat_unpackMantissa x.toBits.toBitVec
  have hleading := toNat_leading_unpackMantissa x.toBits.toBitVec
  rw [hnat] at hexponent hmantissa hleading
  have hbias : ((Format.exponentBias .binary64 : ℕ) : ℤ) = 1023 := rfl
  unfold unpack
  dsimp only
  rw [ofBitVec_unpackSign, if_pos (show x.toBits.toBitVec.toNat < 2 ^ 63 by omega),
    if_neg (mt unpackExponent_eq_ones_iff.mp (by omega))]
  by_cases hsmall : x.toBits.toNat < 2 ^ 52
  · have hnone : @unpackMantissa .binary64 x.toBits.toBitVec = 0#52 ↔ ¬ 0 < x.toBits.toNat := by
      rw [← BitVec.toNat_inj, hmantissa]
      simp
      omega
    rw [if_pos (unpackExponent_eq_zero_iff.mpr (by omega)), Binary.ofBits_of_lt hsmall]
    by_cases hpos : 0 < x.toBits.toNat
    · rw [dif_pos hpos, dif_neg (by rwa [hnone, not_not])]
      congr 1 <;> dsimp only <;> omega
    · rw [dif_neg hpos, dif_pos (hnone.mpr hpos)]
  · obtain ⟨narrow, hbinary⟩ := Binary.ofBits_of_le (Nat.not_lt.mp hsmall) (by omega)
    rw [if_neg (mt unpackExponent_eq_zero_iff.mp (by omega)), hbinary, dif_pos (by positivity)]
    congr 1
    dsimp only
    omega

/-- The sign bit is clear in the lower half of the bits. -/
theorem isNegative_eq_false_iff {x : Float} : isNegative x = false ↔ x.toBits.toNat < 2 ^ 63 := by
  rw [isNegative, decide_eq_false_iff_not, UInt64.le_iff_toNat_le]
  exact Nat.not_le

/-- Below the encoding of infinity a double is finite. -/
theorem isFinite_of_lt {x : Float} (h : x.toBits.toNat < 2047 * 2 ^ 52) :
    x.isFinite = true ∧ x.isInf = false := by
  change isFinite (Float.Model.unpack x.toModel) = true ∧ isInf (Float.Model.unpack x.toModel) = false
  rw [unpack_eq h]
  by_cases hpos : 0 < (Binary.ofBits x.toBits).significand
  · rw [dif_pos hpos]
    exact ⟨rfl, rfl⟩
  · rw [dif_neg hpos]
    exact ⟨rfl, rfl⟩

/-- The encoding of infinity. -/
theorem isInf_of_eq {x : Float} (h : x.toBits.toNat = 2047 * 2 ^ 52) :
    x.isInf = true ∧ x.isFinite = false := by
  have hbits : x.toBits = 0x7FF0000000000000 := UInt64.toNat_inj.mp h
  change isInf (unpack .binary64 x.toBits.toBitVec) = true ∧
    isFinite (unpack .binary64 x.toBits.toBitVec) = false
  rw [hbits]
  decide

/-! ## The nearest double -/

section Nearest

variable {q : ℚ} {r : ℕ} {t : ℤ}

/-- Adding a number of steps to the number of their grid encodes their product, and keeps the
significand even. -/
theorem RoundsOnGrid.decode (h : RoundsOnGrid q r t) {bits : UInt64}
    (hbits : bits.toNat = (t + 1074).toNat * 2 ^ 52 + r) (hlt : bits.toNat < 2047 * 2 ^ 52) :
    (Binary.ofBits bits).value = r * 2 ^ t ∧ (Even r → Even (Binary.ofBits bits).significand) := by
  have hmin := h.le_exponent
  have hle := h.le_two_pow
  rcases lt_or_ge r (2 ^ 52) with hsubnormal | hnormal
  · obtain rfl : t = -1074 := h.two_pow_le_natCast.resolve_right (by omega)
    have hr : bits.toNat = r := by simpa using hbits
    rw [Binary.ofBits_of_lt (by omega), hr]
    exact ⟨rfl, id⟩
  · obtain ⟨narrow, hbinary⟩ := Binary.ofBits_of_le
      (show 2 ^ 52 ≤ bits.toNat by omega) (by omega)
    rw [hbinary]
    rcases hle.lt_or_eq with hbelow | rfl
    · have hfraction : 2 ^ 52 + bits.toNat % 2 ^ 52 = r := by omega
      have hexponent : ((bits.toNat / 2 ^ 52 : ℕ) : ℤ) - 1075 = t := by omega
      rw [hfraction, hexponent]
      exact ⟨rfl, id⟩
    · -- The end of the binade is the start of the next one.
      have hfraction : 2 ^ 52 + bits.toNat % 2 ^ 52 = 2 ^ 52 := by omega
      have hexponent : ((bits.toNat / 2 ^ 52 : ℕ) : ℤ) - 1075 = t + 1 := by omega
      rw [hfraction, hexponent]
      refine ⟨?_, fun _ => (by decide : Even (2 ^ 52))⟩
      rw [Binary.value, two_zpow_add_one]
      push_cast
      ring

/-- A double that encodes a number rounded on its grid is the nearest one. -/
theorem RoundsOnGrid.isNearest (h : RoundsOnGrid q r t) {x : Float}
    (hbits : x.toBits.toNat = min ((t + 1074).toNat * 2 ^ 52 + r) (2047 * 2 ^ 52)) : IsNearest x q := by
  have hpositive : isNegative x = false := isNegative_eq_false_iff.mpr (by omega)
  rcases lt_or_ge ((t + 1074).toNat * 2 ^ 52 + r) (2047 * 2 ^ 52) with hfinite | hover
  · rw [min_eq_left hfinite.le] at hbits
    have hsmall : ¬ (overflowMagnitude : ℚ) ≤ q := mt h.overflow_iff.mpr (Nat.not_le.mpr hfinite)
    obtain ⟨hvalue, heven⟩ := h.decode hbits (hbits ▸ hfinite)
    have hexact : exactValue x = r * 2 ^ t := by
      rw [exactValue, hpositive, ← hvalue]
      rfl
    constructor
    · exact hpositive
    · exact fun hlarge => absurd hlarge hsmall
    · exact fun _ => (isFinite_of_lt (hbits ▸ hfinite)).1
    · intro _ y _
      obtain ⟨j, k, hy, hj, hk⟩ := exists_exactValue_eq y
      rw [hexact, hy]
      exact h.le_dist hj hk
    · intro _ y _ htie hne
      obtain ⟨j, k, hy, hj, hk⟩ := exists_exactValue_eq y
      rw [hexact, hy] at htie hne
      exact heven (h.even_of_tie hj hk htie hne)
  · rw [min_eq_right hover] at hbits
    have hlarge : (overflowMagnitude : ℚ) ≤ q := h.overflow_iff.mp hover
    obtain ⟨hinf, hnot⟩ := isInf_of_eq hbits
    constructor
    · exact hpositive
    · exact fun _ => hinf
    · exact fun hsmall => absurd hlarge (not_le.mpr hsmall)
    · exact fun hfinite => absurd hfinite (by simp [hnot])
    · exact fun hfinite => absurd hfinite (by simp [hnot])

end Nearest

end Tabletop
