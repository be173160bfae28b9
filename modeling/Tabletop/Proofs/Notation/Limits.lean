import Tabletop.Proofs.Notation.Tail

/-!
# The size of numbers

The numbers of a roll are limited to `maxNumber`, and a longer run of digits is refused. The number behind
the operator of a calculation is read by a reader of its own, which has no limit. So an operator with any
run of digits behind it is accepted, and a run that stands for half a step above the largest double or more
is read as an infinity. Within the limit it would never be one.
-/

namespace Tabletop

namespace Decimal

/-- A run of digits stands for less than the power of ten with as many zeros. -/
theorem value_lt_ten_pow {digits : Text} (h : ∀ c ∈ digits, c.isDigit = true) :
    value digits < 10 ^ digits.length := by
  induction digits with
  | nil => decide
  | cons c digits ih =>
    have hdigit : c.toNat - '0'.toNat ≤ 9 := by
      have hc := h c List.mem_cons_self
      rw [Char.isDigit, Bool.and_eq_true, decide_eq_true_eq, decide_eq_true_eq] at hc
      have hhigh : c.toNat ≤ '9'.toNat := hc.2
      exact Nat.sub_le_of_le_add hhigh
    have hothers := ih fun d hd => h d (List.mem_cons_of_mem c hd)
    rw [value_cons, List.length_cons, pow_succ]
    calc
      10 ^ digits.length * (c.toNat - '0'.toNat) + value digits
          < 10 ^ digits.length * 9 + 10 ^ digits.length :=
        Nat.add_lt_add_of_le_of_lt (Nat.mul_le_mul_left _ hdigit) hothers
      _ = 10 ^ digits.length * 10 := (Nat.mul_succ _ 9).symm

/-- Zeros behind a digit multiply it by a power of ten. -/
theorem value_cons_replicate_zero (c : Char) (count : Nat) :
    value (c :: List.replicate count '0') = 10 ^ count * (c.toNat - '0'.toNat) := by
  have hzeros : value (List.replicate count '0') = 0 := by
    induction count with
    | zero => rfl
    | succ count ih => rw [List.replicate_succ, value_cons, Nat.sub_self, Nat.mul_zero, ih]
  rw [value_cons, hzeros, List.length_replicate, Nat.add_zero]

end Decimal

/-! ## Infinite numbers -/

/-- Only from half a step above the largest double on is a number rounded to an infinity. -/
theorem IsNearest.isInf_iff {x : Float} {q : ℚ} (h : IsNearest x q) :
    x.isInf = true ↔ overflowMagnitude ≤ q := by
  refine ⟨fun hinf => ?_, h.isInf_of_le⟩
  by_contra hlt
  have hsign := isNegative_eq_false_iff.mp h.isNegative_eq
  have hbits := (isFinite_iff hsign).mp (h.isFinite_of_lt (not_le.mp hlt))
  rw [(Tabletop.isFinite_of_lt hbits).2] at hinf
  cases hinf

/-- A decimal number is less than the whole number after it. -/
theorem ScalarSpelling.decimal_lt (scalar : ScalarSpelling) :
    scalar.decimal < Decimal.value scalar.whole + 1 := by
  have hfraction := Decimal.value_lt_ten_pow scalar.isDigit_of_mem_fraction
  rw [decimal, add_lt_add_iff_left, div_lt_one (by positivity)]
  exact_mod_cast hfraction

/-- A number whose whole part is within the limit is not read as an infinity. -/
theorem ScalarSpelling.isInf_value_of_le {scalar : ScalarSpelling}
    (h : Decimal.value scalar.whole ≤ maxNumber) : scalar.value.isInf = false := by
  have hwhole : (Decimal.value scalar.whole : ℚ) + 1 ≤ overflowMagnitude := by
    have hlimit : maxNumber + 1 ≤ overflowMagnitude := by decide +kernel
    exact_mod_cast (Nat.succ_le_succ h).trans hlimit
  rw [Bool.eq_false_iff, ne_eq, scalar.isNearest_value.isInf_iff, not_le]
  exact scalar.decimal_lt.trans_le hwhole

/-! ## The number behind the operator -/

/-- The digits that come next, after optional blanks. -/
def Text.digitRun (text : Text) : Text := (skipBlanks text).takeWhile Char.isDigit

/-- The digits in front of a written decimal number are those before its point. -/
theorem ScalarSpelling.digitRun_append (scalar : ScalarSpelling) {rest : Text}
    (hrest : EndsScalar scalar.fraction rest) : Text.digitRun (scalar.text ++ rest) = scalar.whole := by
  rw [Text.digitRun, text, List.append_assoc, List.append_assoc, Text.skipBlanks,
    Text.dropWhile_run scalar.isBlank_of_mem (scalar.startsOutside_whole _),
    Text.takeWhile_run scalar.isDigit_of_mem_whole hrest.startsOutside_fractionText]

/-- A number is missing exactly if no digit comes next. -/
theorem readScalar_eq_none_iff {text : Text} : readScalar? text = none ↔ text.digitRun = [] := by
  simp only [readScalar?, Text.digitRun]
  split
  · rename_i hempty
    exact iff_of_true rfl (List.isEmpty_iff.mp hempty)
  · rename_i hdigits
    exact iff_of_false (Option.some_ne_none _) (mt List.isEmpty_iff.mpr hdigits)

namespace Calculation

variable {text rest more : Text} {roll : Roll} {operation : Operation}

/-- Behind an operator a calculation is refused exactly if no digit comes next, however many there are. -/
theorem exists_error_iff_of_operator (h : Roll.parse text = .ok ⟨roll, rest⟩)
    (hstart : Text.skipBlanks rest = operation.symbol :: more) :
    (∃ error, Calculation.parse text = .error error) ↔ more.digitRun = [] := by
  rw [← readScalar_eq_none_iff, Calculation.parse_of_operator h hstart]
  cases readScalar? more with
  | none => exact iff_of_true ⟨_, rfl⟩ rfl
  | some scalar =>
    refine iff_of_false (fun herror => ?_) (Option.some_ne_none scalar)
    obtain ⟨error, herror⟩ := herror
    cases herror

/-- If an operator follows the roll of a text with digits behind it that stand for a number beyond the
limit, then the text is refused. -/
def RefusesLargeNumber (text : Text) : Prop :=
  ∀ (roll : Roll) (rest : Text) (operation : Operation) (more : Text),
    Roll.parse text = .ok ⟨roll, rest⟩ → Text.skipBlanks rest = operation.symbol :: more →
      maxNumber < Decimal.value more.digitRun → ∃ error, Calculation.parse text = .error error

/-- Beyond the limit no text is refused. -/
theorem refusesLargeNumber_iff_le (h : Roll.parse text = .ok ⟨roll, rest⟩)
    (hstart : Text.skipBlanks rest = operation.symbol :: more) :
    RefusesLargeNumber text ↔ Decimal.value more.digitRun ≤ maxNumber := by
  constructor
  · intro hrefuses
    by_contra hlarge
    have herror := hrefuses roll rest operation more h hstart (not_le.mp hlarge)
    rw [(exists_error_iff_of_operator h hstart).mp herror] at hlarge
    exact hlarge (Nat.zero_le maxNumber)
  · intro hle roll' rest' operation' more' h' hstart' hlarge
    obtain ⟨-, rfl⟩ := Reading.mk.inj (Except.ok.inj (h.symm.trans h'))
    obtain ⟨-, rfl⟩ := List.cons.inj (hstart.symm.trans hstart')
    exact absurd hle (not_le.mpr hlarge)

/-- What is read behind an operator is the decimal number that is written there. -/
theorem exists_spelling_of_operator {tail : Tail} {behind : Text} (h : Roll.parse text = .ok ⟨roll, rest⟩)
    (hstart : Text.skipBlanks rest = operation.symbol :: more)
    (hparse : Calculation.parse text = .ok ⟨⟨roll, some tail⟩, behind⟩) :
    ∃ scalar : ScalarSpelling, more = scalar.text ++ behind ∧ scalar.whole = more.digitRun ∧
      tail = ⟨operation, scalar.value⟩ := by
  rw [Calculation.parse_of_operator h hstart] at hparse
  cases hread : readScalar? more with
  | none =>
    rw [hread] at hparse
    cases hparse
  | some reading =>
    rw [hread] at hparse
    cases hparse
    obtain ⟨scalar, htext, hvalue, hends⟩ := exists_spelling_of_readScalar hread
    refine ⟨scalar, htext, ?_, by rw [hvalue]⟩
    rw [htext, scalar.digitRun_append hends]

/-- The number behind an operator is not limited. A text with an operator behind its roll is refused only
if no digit follows, so if the digits that follow stand for a number beyond the limit it is accepted. The
number that is read is infinite exactly if the decimal number that is written is at least half a step above
the largest double, which it never is within the limit. -/
theorem refusesLargeNumber_iff (h : Roll.parse text = .ok ⟨roll, rest⟩)
    (hstart : Text.skipBlanks rest = operation.symbol :: more) :
    ((∃ error, Calculation.parse text = .error error) ↔ more.digitRun = []) ∧
    (RefusesLargeNumber text ↔ Decimal.value more.digitRun ≤ maxNumber) ∧
    ∀ tail behind, Calculation.parse text = .ok ⟨⟨roll, some tail⟩, behind⟩ →
      ∃ scalar : ScalarSpelling, more = scalar.text ++ behind ∧ scalar.whole = more.digitRun ∧
        tail = ⟨operation, scalar.value⟩ ∧ (tail.scalar.isInf = true ↔ overflowMagnitude ≤ scalar.decimal) ∧
        (Decimal.value scalar.whole ≤ maxNumber → tail.scalar.isInf = false) := by
  refine ⟨exists_error_iff_of_operator h hstart, refusesLargeNumber_iff_le h hstart, ?_⟩
  intro tail behind hparse
  obtain ⟨scalar, htext, hwhole, rfl⟩ := exists_spelling_of_operator h hstart hparse
  exact ⟨scalar, htext, hwhole, rfl, scalar.isNearest_value.isInf_iff, scalar.isInf_value_of_le⟩

/-- A text keeps to the limit with the largest number within it, and is refused without a number. -/
theorem refusesLargeNumber_iff_boundary :
    RefusesLargeNumber "1d6+18446744073709551615".toList ∧
      ∃ error, Calculation.parse "1d6+x".toList = .error error := by
  have hlargest : Roll.parse "1d6+18446744073709551615".toList =
      .ok ⟨⟨⟨1, 6⟩, []⟩, Operation.add.symbol :: "18446744073709551615".toList⟩ := by decide +kernel
  have hmissing : Roll.parse "1d6+x".toList = .ok ⟨⟨⟨1, 6⟩, []⟩, Operation.add.symbol :: ['x']⟩ := by decide +kernel
  obtain ⟨-, hrefuses, -⟩ := refusesLargeNumber_iff hlargest rfl
  obtain ⟨herror, -, -⟩ := refusesLargeNumber_iff hmissing rfl
  exact ⟨hrefuses.mpr (by decide +kernel), herror.mpr rfl⟩

/-- A one with zeros behind it is accepted, however many there are. -/
theorem parse_one_zeros (count : Nat) :
    ∃ scalar, Calculation.parse ("1d6+1".toList ++ List.replicate count '0') =
        .ok ⟨⟨⟨⟨1, 6⟩, []⟩, some ⟨.add, scalar⟩⟩, []⟩ ∧
      (scalar.isInf = true ↔ overflowMagnitude ≤ 10 ^ count) := by
  have hdigits : ∀ c ∈ '1' :: List.replicate count '0', c.isDigit = true := by
    intro c hc
    rcases List.mem_cons.mp hc with rfl | hzero
    · rfl
    · rw [List.eq_of_mem_replicate hzero]
      rfl
  let scalar : ScalarSpelling :=
    ⟨[], '1' :: List.replicate count '0', [], by simp, hdigits, List.cons_ne_nil _ _, by simp⟩
  let spelling : CalculationSpelling :=
    ⟨"1d6".toList, ⟨⟨1, 6⟩, []⟩, [], .add, scalar, by decide +kernel, by simp⟩
  have htext : "1d6+1".toList ++ List.replicate count '0' = spelling.text ++ [] := by
    simp [spelling, scalar, CalculationSpelling.text, ScalarSpelling.text, fractionText, Operation.symbol]
  have hdivides : DividesCalculation _ spelling [] := ⟨htext, endsScalar_nil _⟩
  have hdecimal : scalar.decimal = (10 ^ count : Nat) := by
    have hwhole : Decimal.value scalar.whole = 10 ^ count * 1 := Decimal.value_cons_replicate_zero '1' count
    have hfraction : Decimal.value scalar.fraction = 0 := rfl
    rw [ScalarSpelling.decimal, hwhole, hfraction, mul_one, Nat.cast_zero, zero_div, add_zero]
  refine ⟨scalar.value, hdivides.parse_eq, ?_⟩
  rw [scalar.isNearest_value.isInf_iff, hdecimal]
  exact Nat.cast_le

/-- The number after the largest one is accepted behind an operator, and a one with 309 zeros is read as an
infinity. -/
theorem accepts_large_number :
    ¬ RefusesLargeNumber "1d6+18446744073709551616".toList ∧
      ∃ scalar, Calculation.parse ("1d6+1".toList ++ List.replicate 309 '0') =
        .ok ⟨⟨⟨⟨1, 6⟩, []⟩, some ⟨.add, scalar⟩⟩, []⟩ ∧ scalar.isInf = true := by
  constructor
  · have hroll : Roll.parse "1d6+18446744073709551616".toList =
        .ok ⟨⟨⟨1, 6⟩, []⟩, Operation.add.symbol :: "18446744073709551616".toList⟩ := by decide +kernel
    rw [refusesLargeNumber_iff_le hroll rfl]
    decide +kernel
  · obtain ⟨scalar, hparse, hinf⟩ := parse_one_zeros 309
    exact ⟨scalar, hparse, hinf.mpr (by decide +kernel)⟩

end Calculation

end Tabletop
