import Tabletop.Notation.Parse

/-!
# Reading a calculation

A calculation is a roll, optionally followed by one operator and one decimal number. Without an
operator after the roll it is just the roll, with the same remainder.
-/

namespace Tabletop

/-- An operator with the number on its right. -/
structure Tail where
  operation : Operation
  scalar : Float

/-- A roll, with what is to be done to its total. -/
structure Calculation where
  roll : Roll
  tail : Option Tail

/-- The double nearest to a decimal number, given its digits before and after the point. -/
def nearestFloat (whole fraction : Text) : Float :=
  Float.ofScientific (Decimal.value (whole ++ fraction)) true fraction.length

/-- Read a point and the digits after it. A point without a digit is left alone. -/
def readFraction : Text → Reading Text
  | '.' :: rest =>
    let digits := rest.takeWhile Char.isDigit
    if digits.isEmpty then ⟨[], '.' :: rest⟩ else ⟨digits, rest.dropWhile Char.isDigit⟩
  | text => ⟨[], text⟩

/-- Read a decimal number after optional blanks. -/
def readScalar? (text : Text) : Option (Reading Float) :=
  let start := Text.skipBlanks text
  let whole := start.takeWhile Char.isDigit
  if whole.isEmpty then none
  else
    let fraction := readFraction (start.dropWhile Char.isDigit)
    some ⟨nearestFloat whole fraction.value, fraction.remainder⟩

/-- Read an operator from the very start of a text. -/
def readOperation : Text → Except Stop (Reading Operation)
  | [] => .error ⟨.missingOperator, []⟩
  | c :: rest =>
    match Operation.ofSymbol? c with
    | some operation => .ok ⟨operation, rest⟩
    | none => .error ⟨.unknownOperator c, c :: rest⟩

/-- Read an operator and its number, if an operator comes next. -/
def readTail (text : Text) : Except Stop (Reading (Option Tail)) :=
  let start := Text.skipBlanks text
  if start.head?.any Operation.isSymbol then do
    let operation ← readOperation start
    match readScalar? operation.remainder with
    | none => throw ⟨.missingScalar operation.value, operation.remainder⟩
    | some scalar => return ⟨some ⟨operation.value, scalar.value⟩, scalar.remainder⟩
  else .ok ⟨none, text⟩

/-- Read an operator from the start of a text. -/
def Operation.parse (text : Text) : Except ParseError (Reading Operation) :=
  (readOperation text).mapError (Stop.locate text)

/-- Read a calculation from the start of a text, which must not be blank. -/
def Calculation.parse (text : Text) : Except ParseError (Reading Calculation) := do
  let roll ← Roll.parse text
  let tail ← (readTail roll.remainder).mapError (Stop.locate text)
  return ⟨⟨roll.value, tail.value⟩, tail.remainder⟩

/-- Read a text that is a calculation from end to end, white space aside. -/
def Calculation.parseWhole (text : Text) : Except ParseError Calculation := do
  let reading ← Calculation.parse text
  reading.whole text .textAfterCalculation

end Tabletop
