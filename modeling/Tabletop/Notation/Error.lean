import Tabletop.Notation.Operation

/-!
# Errors in a notation

A text that is no roll or calculation is refused for one of a few causes, at one position. The
wording follows from the cause, the text and the position.
-/

namespace Tabletop

/-- Why a text is not the notation that was asked for. -/
inductive Fault
  | blankText
  | missingNumber
  | numberTooLarge
  | missingSeparator
  | unknownModifier (letter : Char)
  | missingOperator
  | unknownOperator (symbol : Char)
  | missingScalar (operation : Operation)
  | textAfterRoll
  | textAfterCalculation
  deriving DecidableEq

/-- A cause, with the whole text and the number of characters in front of the place where it arose. -/
structure ParseError where
  fault : Fault
  text : Text
  position : Nat
  deriving DecidableEq

/-- The largest number that a notation may hold: numbers are unsigned 64-bit. -/
def maxNumber : Nat := UInt64.size - 1

/-- The text from the position of the error on, without white space around it. -/
def ParseError.unexpected (error : ParseError) : Text :=
  Text.trim (error.text.drop error.position)

/-- The wording of an error. -/
def ParseError.message (error : ParseError) : String :=
  let position := error.position
  let text := String.ofList error.text
  let unexpected := String.ofList error.unexpected
  match error.fault with
  | .blankText => "Dice notation cannot be empty"
  | .missingNumber => s!"Expected a number at position {position} in '{text}'"
  | .numberTooLarge => s!"Number at position {position} is out of range (max {maxNumber})"
  | .missingSeparator => s!"Expected 'd' after the dice count at position {position} in '{text}'"
  | .unknownModifier letter => s!"Unknown roll modifier '{letter}' in '{text}'"
  | .missingOperator => "Expected an operator, got end of input"
  | .unknownOperator symbol => s!"Invalid operation '{symbol}'. Expected one of +, -, *, or /"
  | .missingScalar operation =>
    let symbol := operation.symbol
    s!"Expected a number after '{symbol}' in '{text}'"
  | .textAfterRoll => s!"Unexpected text after roll: '{unexpected}'"
  | .textAfterCalculation => s!"Unexpected text after calculation: '{unexpected}'"

end Tabletop
