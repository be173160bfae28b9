import Tabletop.Datum
import Tabletop.Rolling.Rejection
import Tabletop.Notation.Error
import Tabletop.Settings.Error

/-!
# Failures

Every reason for which an operation gives no result, and the wording of each.
-/

namespace Tabletop

/-- Why an operation gives no result. -/
inductive Failure
  | parse (error : ParseError)
  | rejected (rejection : Rejection)
  | settings (error : SettingsError)
  /-- An operand is too large to have a nearest double. -/
  | overflow
  /-- The random source must not be asked again. -/
  | exhausted
  /-- No kind of modifier has this letter. -/
  | unknownLetter (letter : Text)
  /-- No operation has this operator. -/
  | unknownOperator (symbol : Text)
  /-- A modifier of no known kind is to be applied. -/
  | unhandledModifier (tag : Text)
  /-- A value that is neither a number nor a roll is to be used as an operand. -/
  | unhandledOperand (value : Datum)
  /-- An operation other than the four is to be carried out. -/
  | unhandledOperator (symbol : Text)
  /-- A modifier of no known kind is to be written. -/
  | unwritableModifier
  /-- There is no roll to work on. -/
  | missingRoll

/-- The wording of a failure. -/
def Failure.message : Failure → String
  | parse error => error.message
  | rejected rejection => rejection.message
  | settings _ => "Invalid settings"
  | overflow => "int too large to convert to float"
  | exhausted => "draw limit reached"
  | unknownLetter letter =>
    let quoted := String.ofList (Text.quoted letter)
    s!"{quoted} is not a valid RollModifierType"
  | unknownOperator symbol =>
    let quoted := String.ofList (Text.quoted symbol)
    s!"{quoted} is not a valid Operation"
  | unhandledModifier tag =>
    let quoted := String.ofList (Text.quoted tag)
    s!"Unhandled roll modifier: {quoted}"
  | unhandledOperand value =>
    let literal := String.ofList value.literal
    s!"Unhandled roll scalar: {literal}"
  | unhandledOperator symbol =>
    let quoted := String.ofList (Text.quoted symbol)
    s!"Unhandled operation: {quoted}"
  | unwritableModifier => "A modifier of no known kind cannot be written"
  | missingRoll => "There is no roll"

end Tabletop
