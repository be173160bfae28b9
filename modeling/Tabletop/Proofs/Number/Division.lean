import Tabletop.Proofs.Number.Nearest
import Tabletop.Proofs.Number.Order

/-!
# Division of doubles

Division follows the rules of IEEE 754. The class of the quotient follows from the classes of the operands,
its sign is the product of theirs, and a quotient of finite doubles is rounded to the nearest one. The sign
is the topmost bit and stays apart from all the others, so what is known of doubles without a sign holds of
the bits below it.
-/

namespace Tabletop

open Float.Model (UnpackedFloat Format)
open Float.Model.UnpackedFloat

/-! ## Signs -/

/-- The sign of an unpacked double. What is not a number has a clear sign bit. -/
def signOf : UnpackedFloat → Sign
  | .infinity sign => sign
  | .zero sign => sign
  | .finite sign _ _ _ => sign
  | .notANumber => .positive

/-- An unpacked double with another sign. -/
def withSign (sign : Sign) : UnpackedFloat → UnpackedFloat
  | .infinity _ => .infinity sign
  | .zero _ => .zero sign
  | .finite _ mantissa exponent hpos => .finite sign mantissa exponent hpos
  | .notANumber => .notANumber

/-- Giving a number the sign that it has leaves it as it is. -/
theorem withSign_signOf (unpacked : UnpackedFloat) : withSign (signOf unpacked) unpacked = unpacked := by
  cases unpacked <;> rfl

/-- A finite double is packed as an infinity, or with an exponent that has a clear bit. -/
theorem pack_finite_cases {mantissa : ℕ} (exponent : ℤ) (hpos : 0 < mantissa) :
    (∀ sign, pack .binary64 (.finite sign mantissa exponent hpos) = packedInfinity .binary64 sign) ∨
    ∃ (power : BitVec 11) (rest : BitVec 52), power ≠ -1#11 ∧ ∀ sign,
      pack .binary64 (.finite sign mantissa exponent hpos) = packComponents .binary64 sign power rest := by
  let power :=
    (exponent + Format.exponentBias .binary64 + Format.mantissaBitsWithoutImplicit .binary64).toNat
  by_cases hlarge : 2 ^ 11 ≤ power + 1
  · exact .inl fun sign => if_pos hlarge
  · refine .inr ?_
    by_cases hnormal : mantissa.log2 + 1 = 53
    · refine ⟨BitVec.ofNat 11 power, BitVec.ofNat 52 mantissa, ?_,
        fun sign => (if_neg hlarge).trans (if_pos hnormal)⟩
      rw [ne_eq, ← BitVec.toNat_inj, BitVec.toNat_ofNat]
      simp
      omega
    · exact ⟨0#11, BitVec.ofNat 52 mantissa, by decide,
        fun sign => (if_neg hlarge).trans (if_neg hnormal)⟩

/-- Whatever the sign, the other components are packed alike. -/
theorem exists_packComponents (unpacked : UnpackedFloat) :
    ∃ (exponent : BitVec 11) (mantissa : BitVec 52), ∀ sign, pack .binary64 (withSign sign unpacked) =
      packComponents .binary64 (signOf (withSign sign unpacked)) exponent mantissa := by
  cases unpacked with
  | notANumber => exact ⟨_, _, fun sign => rfl⟩
  | infinity _ => exact ⟨_, _, fun sign => rfl⟩
  | zero _ => exact ⟨_, _, fun sign => rfl⟩
  | finite _ _ exponent hpos =>
    obtain hinfinity | ⟨_, _, -, hcomponents⟩ := pack_finite_cases exponent hpos
    · exact ⟨_, _, hinfinity⟩
    · exact ⟨_, _, hcomponents⟩

/-- The bits below the sign do not depend on it. -/
theorem toNat_pack_withSign (sign : Sign) (unpacked : UnpackedFloat) :
    (pack .binary64 (withSign sign unpacked)).toNat % 2 ^ 63 = (pack .binary64 unpacked).toNat % 2 ^ 63 := by
  obtain ⟨exponent, mantissa, h⟩ := exists_packComponents unpacked
  have hself := h (signOf unpacked)
  rw [withSign_signOf] at hself
  rw [h, hself, toNat_packComponents, toNat_packComponents, Nat.mul_add_mod', Nat.mul_add_mod']

/-- A double is negative if the highest of its bits is set. -/
theorem isNegative_iff {x : Float} : isNegative x = true ↔ 2 ^ 63 ≤ x.toBits.toNat := by
  rw [← Bool.not_eq_false, isNegative_eq_false_iff, not_lt]

/-- A double is packed with its sign. -/
theorem isNegative_ofModel_pack (unpacked : UnpackedFloat) :
    isNegative (.ofModel (.pack unpacked)) = (signOf unpacked == .negative) := by
  obtain ⟨exponent, mantissa, h⟩ := exists_packComponents unpacked
  have hself := h (signOf unpacked)
  rw [withSign_signOf] at hself
  have hexponent := exponent.isLt
  have hmantissa := mantissa.isLt
  rw [Bool.eq_iff_iff, isNegative_iff, toNat_toBits_ofModel, hself, toNat_packComponents]
  cases signOf unpacked with
  | negative =>
    have hsign : Sign.negative.toBitVec.toNat = 1 := rfl
    exact iff_of_true (by omega) rfl
  | positive =>
    have hsign : Sign.positive.toBitVec.toNat = 0 := rfl
    exact iff_of_false (by omega) (by decide)

/-- A finite double keeps its significand and exponent with another sign. -/
theorem finite_eq_withSign {sign other : Sign} {mantissa mantissa' : ℕ} {exponent : ℤ}
    {hpos : 0 < mantissa} {hpos' : 0 < mantissa'} (h : mantissa = mantissa') :
    UnpackedFloat.finite sign mantissa exponent hpos =
      withSign sign (.finite other mantissa' exponent hpos') := by
  subst h
  rfl

/-- The exponent, the significand and the class of a double do not depend on its sign. -/
theorem unpack_eq_withSign {b b' : BitVec (Format.numBits .binary64)}
    (h : b.toNat % 2 ^ 63 = b'.toNat % 2 ^ 63) :
    unpack .binary64 b = withSign (.ofBitVec (unpackSign b)) (unpack .binary64 b') := by
  have hexponent : unpackExponent b = unpackExponent b' := by
    rw [← BitVec.toNat_inj, toNat_unpackExponent, toNat_unpackExponent]
    omega
  have hmantissa : unpackMantissa b = unpackMantissa b' := by
    rw [← BitVec.toNat_inj, toNat_unpackMantissa, toNat_unpackMantissa]
    omega
  unfold unpack
  dsimp only
  rw [hexponent]
  by_cases hones : unpackExponent b' = -1#11
  · rw [if_pos hones, if_pos hones, hmantissa]
    split <;> rfl
  · rw [if_neg hones, if_neg hones]
    by_cases hzero : unpackExponent b' = 0#11
    · rw [if_pos hzero, if_pos hzero]
      by_cases hnone : unpackMantissa b' = 0#52
      · rw [dif_pos (hmantissa.trans hnone), dif_pos hnone]
        rfl
      · rw [dif_neg (hmantissa ▸ hnone), dif_neg hnone]
        exact finite_eq_withSign (congrArg BitVec.toNat hmantissa)
    · rw [if_neg hzero, if_neg hzero]
      exact finite_eq_withSign (congrArg (fun m : BitVec 52 => (1#1 ++ m).toNat) hmantissa)

/-- A double is unpacked with its sign. -/
theorem signOf_unpack (x : Float) : (signOf (Float.Model.unpack x.toModel) == .negative) = isNegative x := by
  have hsign : (Sign.ofBitVec (@unpackSign .binary64 x.toBits.toBitVec) == .negative) = isNegative x := by
    rw [ofBitVec_unpackSign, Bool.eq_iff_iff, isNegative_iff, ← not_lt]
    change _ ↔ ¬ x.toBits.toBitVec.toNat < 2 ^ 63
    split
    · rename_i hlow
      exact iff_of_false (by decide) (not_not.mpr hlow)
    · rename_i hhigh
      exact iff_of_true rfl hhigh
  rw [← hsign]
  change (signOf (unpack .binary64 x.toBits.toBitVec) == _) = _
  obtain ⟨-, -, hunpack⟩ | ⟨hones, hmantissa, -⟩ | ⟨-, hunpack | ⟨_, _, _, hunpack⟩⟩ :=
    unpack_cases x.toBits.toBitVec
  · rw [hunpack]
    rfl
  · -- What is not a number has one encoding only.
    have hbits : x.toBits.toBitVec = packedNaN .binary64 := x.toModel.valid.eq_packedNaN hones hmantissa
    rw [hbits]
    rfl
  · rw [hunpack]
    rfl
  · rw [hunpack]
    rfl

/-! ## Finite doubles -/

/-- The bits of a finite double below its sign are below those of infinity. -/
theorem toNat_mod_lt_of_isFinite {x : Float} (h : x.isFinite = true) :
    x.toBits.toNat % 2 ^ 63 < 2047 * 2 ^ 52 := by
  by_contra hle
  have hones : @unpackExponent .binary64 x.toBits.toBitVec = -1#11 :=
    unpackExponent_eq_ones_iff.mpr (Nat.not_lt.mp hle)
  change isFinite (unpack .binary64 x.toBits.toBitVec) = true at h
  obtain ⟨-, -, hunpack⟩ | ⟨-, -, hunpack⟩ | ⟨hne, -⟩ := unpack_cases x.toBits.toBitVec
  · rw [hunpack] at h
    cases h
  · rw [hunpack] at h
    cases h
  · exact hne hones

/-- A finite double is unpacked to a sign, its significand and its exponent. -/
theorem unpack_of_isFinite {x : Float} (h : x.isFinite = true) :
    ∃ sign, Float.Model.unpack x.toModel =
      if hpos : 0 < (Binary.ofBits x.toBits).significand then
        .finite sign (Binary.ofBits x.toBits).significand (Binary.ofBits x.toBits).exponent hpos
      else .zero sign := by
  have hlt := toNat_mod_lt_of_isFinite h
  obtain ⟨y, hy⟩ := exists_toBits_eq hlt
  have hbinary : Binary.ofBits y.toBits = Binary.ofBits x.toBits := by
    have hfraction : y.toBits.toNat % Nat.pow 2 52 = x.toBits.toNat % Nat.pow 2 52 := by
      rw [hy]
      exact Nat.mod_mod_of_dvd _ (by decide)
    have hpower : y.toBits.toNat / Nat.pow 2 52 % Nat.pow 2 11 =
        x.toBits.toNat / Nat.pow 2 52 % Nat.pow 2 11 := by
      rw [hy]
      change x.toBits.toNat % 2 ^ 63 / 2 ^ 52 % 2 ^ 11 = x.toBits.toNat / 2 ^ 52 % 2 ^ 11
      omega
    simp only [Binary.ofBits, hfraction, hpower]
  have hbits : x.toBits.toBitVec.toNat % 2 ^ 63 = y.toBits.toBitVec.toNat % 2 ^ 63 := by
    change x.toBits.toNat % 2 ^ 63 = y.toBits.toNat % 2 ^ 63
    omega
  have hsigned : Float.Model.unpack x.toModel = withSign _ (Float.Model.unpack y.toModel) :=
    unpack_eq_withSign hbits
  have hunpack := unpack_eq (hy.trans_lt hlt)
  rw [hbinary] at hunpack
  refine ⟨.ofBitVec (@unpackSign .binary64 x.toBits.toBitVec), ?_⟩
  rw [hsigned, hunpack]
  by_cases hpos : 0 < (Binary.ofBits x.toBits).significand
  · rw [dif_pos hpos, dif_pos hpos]
    rfl
  · rw [dif_neg hpos, dif_neg hpos]
    rfl

/-- Without its sign a double stands for its significand and its exponent. -/
theorem abs_exactValue (x : Float) : |exactValue x| = (Binary.ofBits x.toBits).value := by
  have hnonneg : 0 ≤ (Binary.ofBits x.toBits).value := by
    rw [Binary.value]
    positivity
  rw [exactValue]
  split
  · rw [abs_neg, abs_of_nonneg hnonneg]
  · exact abs_of_nonneg hnonneg

/-! ## Classes -/

/-- The double is one of the two zeros. -/
def IsZero (x : Float) : Prop := x = 0.0 ∨ x = -0.0

instance (x : Float) : Decidable (IsZero x) := inferInstanceAs (Decidable (_ ∨ _))

/-- The unpacked double is a zero. -/
def isZero : UnpackedFloat → Bool
  | .zero _ => true
  | _ => false

/-- The zeros are unpacked to one, and nothing else is. -/
theorem isZero_unpack_iff {x : Float} : isZero (Float.Model.unpack x.toModel) = true ↔ IsZero x := by
  constructor
  · intro h
    have hfinite : x.isFinite = true := by
      change isFinite (Float.Model.unpack x.toModel) = true
      cases hunpack : Float.Model.unpack x.toModel <;> rw [hunpack] at h <;> first | rfl | cases h
    obtain ⟨sign, hunpack⟩ := unpack_of_isFinite hfinite
    have hzero : (Binary.ofBits x.toBits).significand = 0 := by
      by_contra hne
      rw [hunpack, dif_pos (Nat.pos_of_ne_zero hne)] at h
      cases h
    have hlt := x.toBits.toNat_lt
    have hbits : x.toBits.toNat = 0 ∨ x.toBits.toNat = 2 ^ 63 := by
      have hleading : Nat.pow 2 52 = 2 ^ 52 := rfl
      have hpower : Nat.pow 2 11 = 2 ^ 11 := rfl
      simp only [Binary.ofBits, hleading, hpower] at hzero
      split at hzero <;> dsimp only at hzero <;> omega
    refine hbits.imp (fun hpositive => ?_) (fun hnegative => ?_)
    · exact eq_of_toNat_toBits hpositive
    · exact eq_of_toNat_toBits hnegative
  · intro h
    rcases h with rfl | rfl <;> rfl

/-- An exponent with a clear bit is that of a number. -/
theorem isNaN_unpack_of_ne {b : BitVec (Format.numBits .binary64)} (h : unpackExponent b ≠ -1#11) :
    isNaN (unpack .binary64 b) = false := by
  obtain ⟨hones, -⟩ | ⟨hones, -⟩ | ⟨-, hunpack | ⟨_, _, _, hunpack⟩⟩ := unpack_cases b
  · exact absurd hones h
  · exact absurd hones h
  · rw [hunpack]
    rfl
  · rw [hunpack]
    rfl

/-- Only what is not a number is packed as such. -/
theorem isNaN_ofModel_pack (unpacked : UnpackedFloat) :
    (Float.ofModel (.pack unpacked)).isNaN = isNaN unpacked := by
  change isNaN (unpack .binary64 (pack .binary64 unpacked)) = _
  cases unpacked with
  | notANumber => rfl
  | infinity sign => cases sign <;> rfl
  | zero sign => cases sign <;> rfl
  | finite sign _ exponent hpos =>
    obtain hinfinity | ⟨_, _, hclear, hcomponents⟩ := pack_finite_cases exponent hpos
    · rw [hinfinity]
      cases sign <;> rfl
    · rw [hcomponents]
      refine isNaN_unpack_of_ne ?_
      rwa [unpackExponent_packComponents]

/-- An infinity is packed as one. -/
theorem isInf_ofModel_pack (sign : Sign) : (Float.ofModel (.pack (.infinity sign))).isInf = true := by
  cases sign <;> rfl

/-- A zero is packed as one. -/
theorem isZero_ofModel_pack (sign : Sign) : IsZero (.ofModel (.pack (.zero sign))) := by
  rw [← isZero_unpack_iff]
  cases sign <;> rfl

/-! ## Quotients -/

section Unpacked

variable {u v : UnpackedFloat}

/-- Rounding yields a zero or another finite double, in either case with the given sign. -/
theorem roundWithAccuracy_cases (mantissa : ℕ) (exponent : ℤ) (accuracy : Accuracy) :
    (∀ sign, roundWithAccuracy .binary64 sign mantissa exponent accuracy = .zero sign) ∨
    ∃ rounded power hpos, ∀ sign,
      roundWithAccuracy .binary64 sign mantissa exponent accuracy = .finite sign rounded power hpos := by
  let first := shiftToTargetExponent .binary64 mantissa exponent accuracy
  let second := shiftToTargetExponent .binary64 first.1.roundedMantissa first.2 .exact
  by_cases hzero : second.1.mantissa = 0
  · exact .inl fun sign => dif_pos hzero
  · exact .inr ⟨_, _, _, fun sign => dif_neg hzero⟩

/-- Rounding yields a number. -/
theorem isNaN_roundWithAccuracy (sign : Sign) (mantissa : ℕ) (exponent : ℤ) (accuracy : Accuracy) :
    isNaN (roundWithAccuracy .binary64 sign mantissa exponent accuracy) = false := by
  obtain hzero | ⟨_, _, _, hfinite⟩ := roundWithAccuracy_cases mantissa exponent accuracy
  · rw [hzero]
    rfl
  · rw [hfinite]
    rfl

/-- What rounding yields has the given sign. -/
theorem signOf_roundWithAccuracy (sign : Sign) (mantissa : ℕ) (exponent : ℤ) (accuracy : Accuracy) :
    signOf (roundWithAccuracy .binary64 sign mantissa exponent accuracy) = sign := by
  obtain hzero | ⟨_, _, _, hfinite⟩ := roundWithAccuracy_cases mantissa exponent accuracy
  · rw [hzero]
    rfl
  · rw [hfinite]
    rfl

/-- Apart from the sign, rounding does not depend on it. -/
theorem roundWithAccuracy_eq_withSign (sign : Sign) (mantissa : ℕ) (exponent : ℤ) (accuracy : Accuracy) :
    roundWithAccuracy .binary64 sign mantissa exponent accuracy =
      withSign sign (roundWithAccuracy .binary64 .positive mantissa exponent accuracy) := by
  obtain hzero | ⟨_, _, _, hfinite⟩ := roundWithAccuracy_cases mantissa exponent accuracy
  · rw [hzero, hzero]
    rfl
  · rw [hfinite, hfinite]
    rfl

/-- There is no quotient without two numbers, of two zeros and of two infinities. -/
theorem isNaN_div (u v : UnpackedFloat) : isNaN (div .binary64 u v) =
    (isNaN u || isNaN v || (isZero u && isZero v) || (isInf u && isInf v)) := by
  cases u <;> cases v <;> try rfl
  -- Only a quotient of finite numbers other than zero is rounded.
  exact isNaN_roundWithAccuracy _ _ _ _

/-- The sign of a quotient is the quotient of the signs. -/
theorem signOf_div (h : isNaN (div .binary64 u v) = false) :
    signOf (div .binary64 u v) = signOf u / signOf v := by
  cases u <;> cases v <;> first | rfl | cases h | skip
  exact signOf_roundWithAccuracy _ _ _ _

/-- A quotient by zero is infinite. -/
theorem div_of_isZero (hu : isZero u = false) (hv : isZero v = true) (hnumber : isNaN u = false) :
    div .binary64 u v = .infinity (signOf u / signOf v) := by
  cases v <;> cases hv
  cases u with
  | notANumber => cases hnumber
  | zero _ => cases hu
  | infinity _ => rfl
  | finite _ _ _ _ => rfl

/-- A quotient of an infinity is infinite. -/
theorem div_of_isInf (hu : isInf u = true) (hv : isFinite v = true) :
    div .binary64 u v = .infinity (signOf u / signOf v) := by
  cases u <;> cases hu
  cases v <;> first | rfl | cases hv

/-- A quotient by an infinity is zero. -/
theorem div_of_isFinite (hu : isFinite u = true) (hv : isInf v = true) :
    div .binary64 u v = .zero (signOf u / signOf v) := by
  cases v <;> cases hv
  cases u <;> first | rfl | cases hu

end Unpacked

/-- The quotient of two signs is negative if they differ. -/
theorem div_beq_negative (s t : Sign) : (s / t == .negative) = ((s == .negative) ^^ (t == .negative)) := by
  cases s <;> cases t <;> rfl

/-- The rules of IEEE 754 for the quotient of two doubles. -/
structure IsQuotient (a b q : Float) : Prop where
  /-- There is no quotient without two numbers, of two zeros and of two infinities. -/
  isNaN_iff : q.isNaN = true ↔
    a.isNaN = true ∨ b.isNaN = true ∨ (IsZero a ∧ IsZero b) ∨ (a.isInf = true ∧ b.isInf = true)
  /-- The sign is the product of the signs. -/
  isNegative_eq : q.isNaN = false → isNegative q = (isNegative a ^^ isNegative b)
  /-- Any other number divided by zero is infinite. -/
  isInf_of_isZero : ¬ IsZero a → a.isNaN = false → IsZero b → q.isInf = true
  /-- An infinity divided by a finite number is infinite. -/
  isInf_of_isInf : a.isInf = true → b.isFinite = true → q.isInf = true
  /-- A finite number divided by an infinity is zero. -/
  isZero_of_isInf : a.isFinite = true → b.isInf = true → IsZero q
  /-- In any other case the bits below the sign are those of the double nearest to the exact quotient. -/
  exists_isNearest : a.isFinite = true → b.isFinite = true → ¬ IsZero b →
    ∃ magnitude, IsNearest magnitude |exactValue a / exactValue b| ∧
      q.toBits.toNat % 2 ^ 63 = magnitude.toBits.toNat

section Quotient

variable {a b : Float}

/-- A quotient of finite doubles is rounded to the nearest one, apart from its sign. -/
theorem exists_isNearest_div (ha : a.isFinite = true) (hb : b.isFinite = true) (hzero : ¬ IsZero b) :
    ∃ magnitude, IsNearest magnitude |exactValue a / exactValue b| ∧
      (a / b).toBits.toNat % 2 ^ 63 = magnitude.toBits.toNat := by
  obtain ⟨s, hs⟩ := unpack_of_isFinite ha
  obtain ⟨t, ht⟩ := unpack_of_isFinite hb
  have hdivisor : 0 < (Binary.ofBits b.toBits).significand := by
    by_contra hnone
    rw [dif_neg hnone] at ht
    exact hzero (isZero_unpack_iff.mp (by rw [ht]; rfl))
  rw [dif_pos hdivisor] at ht
  have hdiv : ∃ magnitude sign, IsNearest (.ofModel (.pack magnitude)) |exactValue a / exactValue b| ∧
      div .binary64 (Float.Model.unpack a.toModel) (Float.Model.unpack b.toModel) =
        withSign sign magnitude := by
    rw [abs_div, abs_exactValue, abs_exactValue, Binary.value, Binary.value, hs, ht]
    by_cases hdividend : 0 < (Binary.ofBits a.toBits).significand
    · rw [dif_pos hdividend]
      exact ⟨_, s / t, isNearest_div _ _ hdividend hdivisor, roundWithAccuracy_eq_withSign _ _ _ _⟩
    · rw [dif_neg hdividend]
      refine ⟨.zero .positive, s / t, ?_, rfl⟩
      rw [Nat.eq_zero_of_not_pos hdividend, Nat.cast_zero, zero_mul, zero_div]
      exact isNearest_zero le_rfl (by positivity)
  obtain ⟨magnitude, sign, hnearest, hquotient⟩ := hdiv
  refine ⟨_, hnearest, ?_⟩
  have hlt := isNegative_eq_false_iff.mp hnearest.isNegative_eq
  rw [toNat_toBits_ofModel] at hlt
  change (pack .binary64 (div .binary64 _ _)).toNat % 2 ^ 63 = (pack .binary64 magnitude).toNat
  rw [hquotient, toNat_pack_withSign, Nat.mod_eq_of_lt hlt]

/-- Division follows the rules of IEEE 754. -/
theorem isQuotient_div (a b : Float) : IsQuotient a b (a / b) := by
  have hdiv : a / b = .ofModel (.pack
      (div .binary64 (Float.Model.unpack a.toModel) (Float.Model.unpack b.toModel))) := rfl
  have hnan : (a / b).isNaN =
      isNaN (div .binary64 (Float.Model.unpack a.toModel) (Float.Model.unpack b.toModel)) := by
    rw [hdiv, isNaN_ofModel_pack]
  constructor
  · rw [hnan, isNaN_div, Bool.or_eq_true, Bool.or_eq_true, Bool.or_eq_true, Bool.and_eq_true,
      Bool.and_eq_true, isZero_unpack_iff, isZero_unpack_iff, or_assoc, or_assoc]
    rfl
  · intro hnumber
    rw [hdiv, isNegative_ofModel_pack, signOf_div (hnan.symm.trans hnumber), div_beq_negative,
      signOf_unpack, signOf_unpack]
  · intro ha hnumber hb
    have hnonzero := Bool.eq_false_iff.mpr (mt isZero_unpack_iff.mp ha)
    rw [hdiv, div_of_isZero hnonzero (isZero_unpack_iff.mpr hb) hnumber]
    exact isInf_ofModel_pack _
  · intro ha hb
    rw [hdiv, div_of_isInf ha hb]
    exact isInf_ofModel_pack _
  · intro ha hb
    rw [hdiv, div_of_isFinite ha hb]
    exact isZero_ofModel_pack _
  · exact exists_isNearest_div

end Quotient

end Tabletop
