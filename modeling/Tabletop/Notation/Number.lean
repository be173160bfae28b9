import Tabletop.Notation.Error
import Tabletop.Text.Decimal

/-!
# Numbers in a notation

Reading goes from left to right over the rest of the text, and stops with a cause at the rest that
could not be read. A number is a run of digits after optional blanks, with any number of leading
zeros and a value of at most `maxNumber`.
-/

namespace Tabletop

/-- Why reading stopped, and the rest of the text from there on. -/
structure Stop where
  fault : Fault
  rest : Text
  deriving DecidableEq

/-- The error in the whole text that ends with the unread rest. -/
def Stop.locate (text : Text) (stop : Stop) : ParseError :=
  ⟨stop.fault, text, text.length - stop.rest.length⟩

/-- A value read from the start of a text, and the text after it. -/
structure Reading (α : Type) where
  value : α
  remainder : Text
  deriving DecidableEq

/-- The number of digits of the largest number. -/
def maxDigits : Nat := (Decimal.ofNat maxNumber).length

/-- The number written by a run of digits, unless it exceeds `maxNumber`. A run that is too long is
refused by its length, so that only runs of at most `maxDigits` digits are converted. -/
def boundedValue? (convert : Text → Nat) (digits : Text) : Option Nat :=
  let digits := Decimal.significant digits
  if maxDigits < digits.length then none
  else
    let number := convert digits
    if maxNumber < number then none else some number

/-- Read a number after optional blanks. A missing number is located in front of the blanks, a number
that is too large at its first digit. -/
def readNumber (text : Text) : Except Stop (Reading Nat) :=
  let start := Text.skipBlanks text
  let digits := start.takeWhile Char.isDigit
  if digits.isEmpty then .error ⟨.missingNumber, text⟩
  else
    match boundedValue? Decimal.value digits with
    | none => .error ⟨.numberTooLarge, start⟩
    | some number => .ok ⟨number, start.dropWhile Char.isDigit⟩

/-- Reading a number uses up part of the text. -/
theorem length_remainder_lt_of_readNumber {text : Text} {reading : Reading Nat}
    (h : readNumber text = .ok reading) : reading.remainder.length < text.length := by
  have hblanks := Text.length_skipBlanks_le text
  have hsplit := congrArg List.length
    (@List.takeWhile_append_dropWhile _ Char.isDigit (Text.skipBlanks text))
  simp only [List.length_append] at hsplit
  simp only [readNumber] at h
  split at h
  · simp at h
  · rename_i hdigits
    have hpos : 0 < ((Text.skipBlanks text).takeWhile Char.isDigit).length :=
      List.length_pos_iff.mpr (by simpa using hdigits)
    split at h
    · simp at h
    · cases h
      simp only
      omega

end Tabletop
