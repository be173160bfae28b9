import Tabletop.Number.Shortest

/-!
# Floating-point numbers as texts

A double is written with its shortest digits and always with a point or an exponent. Numbers with a
leading exponent from -4 to 15 are written out, the others with an exponent of at least two digits.
-/

namespace Tabletop

/-- A run of zeros, empty for a negative length. -/
def zeros (length : Int) : Text := List.replicate length.toNat '0'

/-- Drop the zeros at the end of a run of digits. -/
def dropTrailingZeros (digits : Text) : Text := Text.dropEnd (· == '0') digits

/-- Write digits with the decimal point after the first `point` places. -/
def writtenOut (digits : Text) (point : Int) : Text :=
  if point ≤ 0 then '0' :: '.' :: zeros (-point) ++ digits
  else if digits.length ≤ point then digits ++ zeros (point - digits.length) ++ ['.', '0']
  else digits.take point.toNat ++ '.' :: digits.drop point.toNat

/-- Write digits with a point after the first one, and the exponent of the first digit. -/
def withExponent (digits : Text) (exponent : Int) : Text :=
  let magnitude := Decimal.ofNat exponent.natAbs
  digits.take 1 ++ (if digits.length ≤ 1 then [] else '.' :: digits.drop 1) ++
    'e' :: (if exponent < 0 then '-' else '+') :: zeros (2 - magnitude.length) ++ magnitude

/-- Write a positive decimal number. -/
def Scientific.text (number : Scientific) : Text :=
  let digits := Decimal.ofNat number.digits
  let exponent := digits.length + number.exponent - 1
  if -4 ≤ exponent ∧ exponent < 16 then writtenOut (dropTrailingZeros digits) (exponent + 1)
  else withExponent (dropTrailingZeros digits) exponent

/-- Write a double. -/
def floatText (x : Float) : Text :=
  let bits := x.toBits
  let magnitude := Binary.ofBits bits
  let sign := if bits < 0x8000000000000000 then [] else ['-']
  if x.isNaN then ['n', 'a', 'n']
  else if x.isInf then sign ++ ['i', 'n', 'f']
  else if magnitude.significand = 0 then sign ++ ['0', '.', '0']
  else sign ++ magnitude.shortest.text

end Tabletop
