import Mathlib.Algebra.Group.Nat.Defs
import Tabletop.Proofs.Notation.Spelling

/-!
# Reading written numbers

A run of digits is refused exactly when its value is too large. The reader first drops leading
zeros and looks at the number of digits, and neither changes the outcome. With this, reading a
number succeeds exactly on the texts that begin with a spelling of a number.
-/

namespace Tabletop

namespace Decimal

/-- The first digit counts as often as the digits behind it can be combined. -/
theorem value_cons (c : Char) (digits : Text) :
    value (c :: digits) = 10 ^ digits.length * (c.toNat - '0'.toNat) + value digits := by
  rw [value, Nat.ofDigitChars_cons, Nat.ofDigitChars_eq_ofDigitChars_zero, Nat.mul_zero,
    Nat.zero_add, value]

/-- The digits in front count as often as the digits behind them can be combined. -/
theorem value_append (digits more : Text) :
    value (digits ++ more) = 10 ^ more.length * value digits + value more := by
  rw [value, Nat.ofDigitChars_append, Nat.ofDigitChars_eq_ofDigitChars_zero, value, value]

/-- Leading zeros add nothing to a value. -/
theorem value_dropWhile_zero (digits : Text) : value (digits.dropWhile (· == '0')) = value digits := by
  induction digits with
  | nil => rfl
  | cons c digits ih =>
    by_cases hc : c = '0'
    · subst hc
      simp only [List.dropWhile_cons, beq_self_eq_true, ↓reduceIte, ih, value_cons, Nat.sub_self,
        Nat.mul_zero, Nat.zero_add]
    · simp [hc]

/-- The significant digits have the value of all digits. -/
theorem value_significant (digits : Text) : value (significant digits) = value digits := by
  rw [significant, ← value_dropWhile_zero digits]
  split
  · rename_i hzeros
    rw [hzeros]
    rfl
  · rfl

/-- A number whose first digit is not zero is at least a power of ten. -/
theorem pow_length_le_value {c : Char} (hdigit : c.isDigit = true) (hzero : c ≠ '0')
    (digits : Text) : 10 ^ digits.length ≤ value (c :: digits) := by
  have hpos : 0 < c.toNat - '0'.toNat := by
    have hne : c.toNat ≠ '0'.toNat := fun h => hzero (Char.toNat_inj.mp h)
    have hle : '0'.toNat ≤ c.toNat := by
      rw [Char.isDigit, Bool.and_eq_true, decide_eq_true_eq] at hdigit
      exact hdigit.1
    omega
  rw [value_cons]
  exact Nat.le_add_right_of_le (Nat.le_mul_of_pos_right _ hpos)

/-- Digits are significant only if the first of several is not zero. -/
theorem pow_length_significant_le {digits : Text} (hdigits : ∀ c ∈ digits, c.isDigit = true)
    {bound : Nat} (hbound : 0 < bound) (hlength : bound < (significant digits).length) :
    10 ^ bound ≤ value digits := by
  rw [← value_significant]
  rw [significant] at hlength ⊢
  split at hlength
  · rw [List.length_singleton] at hlength
    omega
  · rename_i hne
    cases hrest : digits.dropWhile (· == '0') with
    | nil => exact absurd hrest hne
    | cons c rest =>
      have hc : c ∈ digits := List.dropWhile_subset (· == '0') (by simp [hrest])
      have hzero : c ≠ '0' := by
        have hstart := Text.startsOutside_dropWhile (· == '0') digits
        rw [hrest] at hstart
        simpa using hstart c rfl
      rw [hrest, List.length_cons] at hlength
      calc
        10 ^ bound ≤ 10 ^ rest.length := Nat.pow_le_pow_right (by decide) (Nat.le_of_lt_succ hlength)
        _ ≤ value (c :: rest) := pow_length_le_value (hdigits c hc) hzero rest

end Decimal

/-- A run of digits that is too long is too large. -/
theorem maxNumber_lt_value_of_maxDigits_lt {digits : Text} (hdigits : ∀ c ∈ digits, c.isDigit = true)
    (hlength : maxDigits < (Decimal.significant digits).length) :
    maxNumber < Decimal.value digits := by
  have hpos : 0 < maxDigits := Nat.length_toDigits_pos
  have hlt : maxNumber < 10 ^ maxDigits :=
    (Nat.length_toDigits_le_iff (by decide) hpos).mp (Nat.le_refl maxDigits)
  exact Nat.lt_of_lt_of_le hlt (Decimal.pow_length_significant_le hdigits hpos hlength)

/-- Only runs of at most `maxDigits` significant digits are converted. -/
theorem boundedValue?_congr {convert other : Text → Nat}
    (h : ∀ digits, digits.length ≤ maxDigits → convert digits = other digits) (digits : Text) :
    boundedValue? convert digits = boundedValue? other digits := by
  simp only [boundedValue?]
  split
  · rfl
  · rename_i hlength
    rw [h _ (Nat.le_of_not_lt hlength)]

/-- A run of digits is refused for its value only. -/
theorem boundedValue?_eq {digits : Text} (hdigits : ∀ c ∈ digits, c.isDigit = true) :
    boundedValue? Decimal.value digits =
      if maxNumber < Decimal.value digits then none else some (Decimal.value digits) := by
  simp only [boundedValue?, Decimal.value_significant]
  split
  · rename_i hlength
    rw [if_pos (maxNumber_lt_value_of_maxDigits_lt hdigits hlength)]
  · rfl

/-- A run of digits that is not refused is read as its value. -/
theorem boundedValue?_eq_some_iff {digits : Text} (hdigits : ∀ c ∈ digits, c.isDigit = true)
    {n : Nat} : boundedValue? Decimal.value digits = some n ↔
      Decimal.value digits = n ∧ Decimal.value digits ≤ maxNumber := by
  rw [boundedValue?_eq hdigits]
  split
  · rename_i hlarge
    simp only [reduceCtorEq, false_iff, not_and]
    intro _ hsmall
    omega
  · rename_i hsmall
    rw [Option.some.injEq]
    exact (and_iff_left (Nat.le_of_not_lt hsmall)).symm

/-- The longest run of digits behind optional blanks is what is read, unless its value is too large. -/
theorem readNumber_run {blanks digits rest : Text} (hblanks : ∀ c ∈ blanks, Text.isBlank c = true)
    (hdigits : ∀ c ∈ digits, c.isDigit = true) (hne : digits ≠ [])
    (hrest : Text.StartsOutside Char.isDigit rest) :
    readNumber (blanks ++ (digits ++ rest)) =
      if maxNumber < Decimal.value digits then .error ⟨.numberTooLarge, digits ++ rest⟩
      else .ok ⟨Decimal.value digits, rest⟩ := by
  have hstart : Text.skipBlanks (blanks ++ (digits ++ rest)) = digits ++ rest := by
    refine Text.dropWhile_run hblanks ?_
    obtain ⟨c, digits, rfl⟩ := List.exists_cons_of_ne_nil hne
    exact Text.startsOutside_cons (Text.isBlank_eq_false_of_isDigit (hdigits c List.mem_cons_self)) _
  have hsome : digits.isEmpty = false := List.isEmpty_eq_false_iff.mpr hne
  simp only [readNumber, hstart, Text.takeWhile_run hdigits hrest, Text.dropWhile_run hdigits hrest,
    hsome, boundedValue?_eq hdigits, Bool.false_eq_true, ↓reduceIte]
  by_cases hlarge : maxNumber < Decimal.value digits
  · simp only [if_pos hlarge]
  · simp only [if_neg hlarge]

/-- A written number is read back, up to its last digit. -/
theorem readNumber_append (number : NumberSpelling) {rest : Text}
    (hrest : Text.StartsOutside Char.isDigit rest) :
    readNumber (number.text ++ rest) = .ok ⟨number.value, rest⟩ := by
  rw [NumberSpelling.text, List.append_assoc,
    readNumber_run number.isBlank_of_mem number.isDigit_of_mem number.digits_ne_nil hrest,
    if_neg (Nat.not_lt_of_le number.value_le), NumberSpelling.value]

/-- Whatever is read as a number is written in front of the remainder. -/
theorem exists_spelling_of_readNumber {text : Text} {reading : Reading Nat}
    (h : readNumber text = .ok reading) :
    ∃ number : NumberSpelling, text = number.text ++ reading.remainder ∧
      number.value = reading.value ∧ Text.StartsOutside Char.isDigit reading.remainder := by
  have hblanks := Text.mem_takeWhile Text.isBlank text
  have hdigits := Text.mem_takeWhile Char.isDigit (Text.skipBlanks text)
  simp only [readNumber] at h
  split at h
  · cases h
  · rename_i hne
    split at h
    · cases h
    · rename_i n hvalue
      cases h
      obtain ⟨hvalue, hle⟩ := (boundedValue?_eq_some_iff hdigits).mp hvalue
      rw [List.isEmpty_iff] at hne
      refine ⟨⟨_, _, hblanks, hdigits, hne, hle⟩, ?_, hvalue, Text.startsOutside_dropWhile _ _⟩
      rw [NumberSpelling.text, List.append_assoc, List.takeWhile_append_dropWhile,
        Text.takeWhile_append_skipBlanks]

/-! ## Digits at a position of a text -/

/-- All digits that stand at a position of a text, behind optional blanks. -/
structure DigitRun (text : Text) (position : Nat) where
  blanks : Text
  digits : Text
  rest : Text
  drop_eq : text.drop position = blanks ++ (digits ++ rest)
  isBlank_of_mem : ∀ c ∈ blanks, Text.isBlank c = true
  isDigit_of_mem : ∀ c ∈ digits, c.isDigit = true
  digits_ne_nil : digits ≠ []
  startsOutside : Text.StartsOutside Char.isDigit rest

namespace DigitRun

variable {text : Text} {position : Nat}

/-- The position of the first digit. -/
def start (run : DigitRun text position) : Nat := position + run.blanks.length

/-- The position behind the last digit. -/
def stop (run : DigitRun text position) : Nat := run.start + run.digits.length

/-- The digits begin at their first position. -/
theorem drop_start (run : DigitRun text position) : text.drop run.start = run.digits ++ run.rest := by
  rw [start, ← List.drop_drop, run.drop_eq, List.drop_left]

/-- The rest of the text begins behind the digits. -/
theorem drop_stop (run : DigitRun text position) : text.drop run.stop = run.rest := by
  rw [stop, ← List.drop_drop, run.drop_start, List.drop_left]

/-- The digits begin within the text. -/
theorem start_lt_length (run : DigitRun text position) : run.start < text.length := by
  by_contra hlength
  have hnil := run.drop_start
  rw [List.drop_eq_nil_of_le (Nat.le_of_not_lt hlength)] at hnil
  exact run.digits_ne_nil (List.append_eq_nil_iff.mp hnil.symm).1

/-- What stops at the digits stops at their first position. -/
theorem locate_digits (run : DigitRun text position) (fault : Fault) :
    Stop.locate text ⟨fault, run.digits ++ run.rest⟩ = ⟨fault, text, run.start⟩ := by
  have hstart := run.start_lt_length
  have hlength : text.length - (run.digits ++ run.rest).length = run.start := by
    rw [← run.drop_start, List.length_drop]
    omega
  rw [Stop.locate, hlength]

end DigitRun

/-- Numbers have 64 bits. -/
theorem maxNumber_eq : maxNumber = 2 ^ 64 - 1 := rfl

/-- The largest number has twenty digits. -/
theorem maxDigits_eq : maxDigits = 20 := by decide

/-- Whatever the number of digits that stand at a position, and of zeros in front, the number is read
exactly. Up to the largest number of 64 bits it has the value of the digits, and reading goes on behind
the last digit. Beyond that it is refused at the first digit, a leading zero or not. More than twenty
significant digits always stand for a number that is too large, and only texts of at most twenty
characters are converted: a conversion that is right for these alone gives the same. -/
theorem readNumber_exact {text : Text} {position : Nat} (run : DigitRun text position) :
    (Decimal.value run.digits ≤ 2 ^ 64 - 1 →
      readNumber (text.drop position) = .ok ⟨Decimal.value run.digits, text.drop run.stop⟩) ∧
    (2 ^ 64 - 1 < Decimal.value run.digits →
      (readNumber (text.drop position)).mapError (Stop.locate text) =
        .error ⟨.numberTooLarge, text, run.start⟩) ∧
    (20 < (Decimal.significant run.digits).length → 2 ^ 64 - 1 < Decimal.value run.digits) ∧
    ∀ convert : Text → Nat, (∀ few, few.length ≤ 20 → convert few = Decimal.value few) →
      boundedValue? convert run.digits =
        if 2 ^ 64 - 1 < Decimal.value run.digits then none else some (Decimal.value run.digits) := by
  have hread := readNumber_run run.isBlank_of_mem run.isDigit_of_mem run.digits_ne_nil run.startsOutside
  rw [← run.drop_eq, maxNumber_eq] at hread
  refine ⟨fun hsmall => ?_, fun hlarge => ?_, fun hlength => ?_, fun convert hconvert => ?_⟩
  · rw [hread, if_neg (Nat.not_lt_of_le hsmall), run.drop_stop]
  · rw [hread, if_pos hlarge]
    exact congrArg Except.error (run.locate_digits .numberTooLarge)
  · rw [← maxDigits_eq] at hlength
    exact maxNumber_lt_value_of_maxDigits_lt run.isDigit_of_mem hlength
  · rw [← maxDigits_eq] at hconvert
    exact (boundedValue?_congr hconvert run.digits).trans (boundedValue?_eq run.isDigit_of_mem)

/-- Behind an unread letter and a tab, two zeros before the largest number are read with it, and two zeros
before the next number are where it is refused. -/
theorem readNumber_exact_zeros :
    let largest := "k\t0018446744073709551615+2".toList
    let larger := "k\t0018446744073709551616+2".toList
    readNumber (largest.drop 1) = .ok ⟨18446744073709551615, largest.drop 24⟩ ∧
    (readNumber (larger.drop 1)).mapError (Stop.locate larger) = .error ⟨.numberTooLarge, larger, 2⟩ := by
  intro largest larger
  let run : DigitRun largest 1 := ⟨['\t'], "0018446744073709551615".toList, "+2".toList, rfl,
    by simp [Text.isBlank], List.all_eq_true.mp (by decide), by decide, Text.startsOutside_cons (by decide) _⟩
  let run' : DigitRun larger 1 := ⟨['\t'], "0018446744073709551616".toList, "+2".toList, rfl,
    by simp [Text.isBlank], List.all_eq_true.mp (by decide), by decide, Text.startsOutside_cons (by decide) _⟩
  exact ⟨(readNumber_exact run).1 (by decide), (readNumber_exact run').2.1 (by decide)⟩

end Tabletop
