import Tabletop.Text.Basic

/-!
# Decimal notation of whole numbers

Digits are the ten ASCII digits. Writing uses no leading zero, reading allows any number of them,
and reading back what was written gives the number again. Both go on to the last digit of a number,
however long: the limit of 4300 digits that some runtimes put on such conversions does not hold here.
-/

namespace Tabletop.Decimal

/-- The value of a run of digits in base ten. -/
def value (digits : Text) : Nat := Nat.ofDigitChars 10 digits 0

/-- Write a natural number in base ten. -/
def ofNat (n : Nat) : Text := Nat.toDigits 10 n

/-- Write an integer in base ten, with a minus sign in front of a negative one. -/
def ofInt : Int → Text
  | .ofNat n => ofNat n
  | .negSucc n => '-' :: ofNat (n + 1)

/-- Drop the leading zeros of a run of digits, keeping one digit of a run of zeros. -/
def significant (digits : Text) : Text :=
  match digits.dropWhile (· == '0') with
  | [] => ['0']
  | rest => rest

/-- Reading the written number gives it back. -/
theorem value_ofNat (n : Nat) : value (ofNat n) = n :=
  Nat.ofDigitChars_toDigits (by decide) (by decide)

/-- A written number holds digits only. -/
theorem isDigit_of_mem_ofNat {n : Nat} {c : Char} (h : c ∈ ofNat n) : c.isDigit = true :=
  Nat.isDigit_of_mem_toDigits (by decide) (by decide) h

end Tabletop.Decimal
