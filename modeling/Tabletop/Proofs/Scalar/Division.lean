import Tabletop.Proofs.Number.Division
import Tabletop.Proofs.Scalar.RollCalculation

/-!
# Division of scalars

Division by zero is written out by hand, from comparisons that do not tell the zeros apart and hold of no
operand that is not a number, and from the sign bits of both operands. It agrees with the rules of IEEE 754
for all doubles, so a quotient of scalars is that of their doubles, and it never fails.
-/

namespace Tabletop

open Float.Model (UnpackedFloat Format)
open Float.Model.UnpackedFloat

/-- Both zeros are equal to zero, and nothing else is. -/
theorem beq_zero_iff {x : Float} : (x == 0.0) = true ↔ IsZero x := by
  rw [← isZero_unpack_iff]
  change UnpackedFloat.beq (Float.Model.unpack x.toModel) (.zero .positive) = true ↔ _
  cases Float.Model.unpack x.toModel with
  | notANumber => exact Iff.rfl
  | zero sign => exact iff_of_true rfl rfl
  | infinity sign => cases sign <;> exact iff_of_false (by decide) (by decide)
  | finite sign _ _ _ => cases sign <;> exact iff_of_false Bool.false_ne_true Bool.false_ne_true

/-- What is not a number has one unpacked form. -/
theorem eq_notANumber_of_isNaN {u : UnpackedFloat} (h : isNaN u = true) : u = .notANumber := by
  cases u <;> first | rfl | cases h

/-- There is no quotient of zero, or of what is not a number, by zero. -/
theorem div_eq_div_zero_of_isZero {a b : Float} (ha : IsZero a ∨ a.isNaN = true) (hb : IsZero b) :
    a / b = 0.0 / 0.0 := by
  have hnan : isNaN (div .binary64 (Float.Model.unpack a.toModel) (Float.Model.unpack b.toModel)) = true := by
    rw [← isNaN_ofModel_pack]
    refine (isQuotient_div a b).isNaN_iff.mpr ?_
    exact ha.elim (fun hzero => Or.inr (Or.inr (Or.inl ⟨hzero, hb⟩))) Or.inl
  change Float.ofModel (.pack (div .binary64 _ _)) = .ofModel (.pack .notANumber)
  rw [eq_notANumber_of_isNaN hnan]

/-- Any other number divided by zero is an infinity with the product of the signs. -/
theorem div_eq_of_isZero {a b : Float} (ha : ¬ IsZero a) (hnumber : a.isNaN = false) (hb : IsZero b) :
    a / b = if isNegative a == isNegative b then 1.0 / 0.0 else -1.0 / 0.0 := by
  have hnonzero := Bool.eq_false_iff.mpr (mt isZero_unpack_iff.mp ha)
  have hinfinity := div_of_isZero hnonzero (isZero_unpack_iff.mpr hb) hnumber
  change Float.ofModel (.pack (div .binary64 _ _)) = _
  rw [hinfinity, ← signOf_unpack, ← signOf_unpack]
  cases signOf (Float.Model.unpack a.toModel) <;> cases signOf (Float.Model.unpack b.toModel) <;> rfl

/-- The quotient that is written out for a zero is that of IEEE 754. -/
theorem quotient_eq_div (a b : Float) : quotient a b = a / b := by
  rw [quotient, quotientBy]
  split
  · rfl
  · rename_i hdivisor
    have hb : IsZero b := beq_zero_iff.mp (by simpa [bne] using hdivisor)
    split
    · rename_i hdividend
      rw [Bool.or_eq_true, beq_zero_iff] at hdividend
      exact (div_eq_div_zero_of_isZero hdividend hb).symm
    · rename_i hdividend
      rw [Bool.or_eq_true, beq_zero_iff, not_or, Bool.not_eq_true] at hdividend
      exact (div_eq_of_isZero hdividend.1 hdividend.2 hb).symm

variable {first second : Scalar} {a b : Float}

/-- Operands that reduce to doubles are joined by the operation on these. -/
theorem combine_of_toFloat (hfirst : first.toFloat = .ok a) (hsecond : second.toFloat = .ok b)
    (operation : Operation) : combine first second operation = .ok (operation.apply a b) := by
  rw [combine, hfirst, hsecond]
  rfl

/-- An infinity is not what is not a number. -/
theorem isNaN_eq_false_of_isInf {x : Float} (h : x.isInf = true) : x.isNaN = false := by
  change isInf (Float.Model.unpack x.toModel) = true at h
  change isNaN (Float.Model.unpack x.toModel) = false
  cases hunpack : Float.Model.unpack x.toModel <;> rw [hunpack] at h <;> first | rfl | cases h

/-- Division is total and follows IEEE 754. Operands that reduce to doubles have a quotient. It is no number
exactly if one of them is none, if both are zero, or if both are infinite. A number other than zero divided
by zero is an infinity whose sign is the product of the signs, and any other quotient is that of the
doubles. -/
theorem combine_divide (hfirst : first.toFloat = .ok a) (hsecond : second.toFloat = .ok b) :
    ∃ q, combine first second .divide = .ok q ∧
      (q.isNaN = true ↔
        a.isNaN = true ∨ b.isNaN = true ∨ (IsZero a ∧ IsZero b) ∨ (a.isInf = true ∧ b.isInf = true)) ∧
      (IsZero b → ¬ IsZero a → a.isNaN = false →
        q.isInf = true ∧ isNegative q = (isNegative a ^^ isNegative b)) ∧
      (¬ IsZero b → q = a / b) ∧ IsQuotient a b q := by
  have hquotient : quotient a b = a / b := quotient_eq_div a b
  have hrules : IsQuotient a b (quotient a b) := hquotient ▸ isQuotient_div a b
  refine ⟨quotient a b, combine_of_toFloat hfirst hsecond .divide, hrules.isNaN_iff, ?_,
    fun _ => hquotient, hrules⟩
  intro hb ha hnumber
  have hinf := hrules.isInf_of_isZero ha hnumber hb
  exact ⟨hinf, hrules.isNegative_eq (isNaN_eq_false_of_isInf hinf)⟩

/-- A total of five divided by the negative zero is the negative infinity, and the total of no dice divided
by zero is no number. -/
theorem combine_divide_zeros :
    (∃ q, combine (.roll (some [2, 3])) (.number (.float (-0.0))) .divide = .ok q ∧
      q.isInf = true ∧ isNegative q = true) ∧
    ∃ q, combine (.roll none) (.number (.int 0)) .divide = .ok q ∧ q.isNaN = true := by
  have hroll : Scalar.toFloat (.roll (some [2, 3])) = .ok (Float.ofInt 5) :=
    Numeral.toFloat_int (n := 5) (by decide +kernel)
  have hnegative : Scalar.toFloat (.number (.float (-0.0))) = .ok (-0.0) := rfl
  have hnone : Scalar.toFloat (.roll none) = .ok 0.0 := rfl
  have hzero : Scalar.toFloat (.number (.int 0)) = .ok 0.0 := Numeral.toFloat_int (n := 0) (by decide +kernel)
  constructor
  · obtain ⟨q, hq, -, hinf, -⟩ := combine_divide hroll hnegative
    exact ⟨q, hq, hinf (by decide) (by decide) (by decide)⟩
  · obtain ⟨q, hq, hnan, -⟩ := combine_divide hnone hzero
    exact ⟨q, hq, hnan.mpr (Or.inr (Or.inr (Or.inl ⟨Or.inl rfl, Or.inl rfl⟩)))⟩

end Tabletop
