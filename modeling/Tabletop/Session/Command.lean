import Tabletop.Notation.Calculation
import Tabletop.Rolling.Draft
import Tabletop.Rolling.Summary
import Tabletop.Scalar.Operand
import Tabletop.Session.Basic

/-!
# Commands

What a session can be asked to do, and what it answers.
-/

namespace Tabletop

/-- Something a session can be asked to do. An outcome that is left out is the current one. -/
inductive Command
  | parseRoll (text : Text)
  | parseOperation (text : Text)
  | parseCalculation (text : Text)
  | nameKind (letter : Text)
  | nameOperation (symbol : Text)
  | write (draft : Draft)
  | compareRolls (first second : Text)
  | compareScalars (first second : Operand)
  | validate (target : Target) (settings : Option (Bindings Datum))
  | rollDice (dice : DiceTerm)
  | explode (outcome : Option Outcome) (threshold sides : Int)
  | remove (outcome : Option Outcome) (count : Int)
  | keep (outcome : Option Outcome) (count : Int)
  | keepLower (outcome : Option Outcome) (count : Int)
  | evaluate (target : Target) (settings : Option (Bindings Datum))
  | roll (text : Text)
  | summarize (outcome : Option Outcome) (successAt failureAt : Option Int)
  | reduce (operand : Operand)
  | combine (first second : Option Operand) (symbol : Text)
  | rollAndCalculate (text : Text)
  | buildSettings (keywords : Bindings Datum)
  | showSettings
  | clearSettings
  | configureMessages (settings : Option (Bindings Datum))
  | setVariable (name value : Text)
  | unsetVariable (name : Text)
  | writeFile (text : Option Text)

/-- What a command gives. -/
inductive Answer
  | done
  | valid
  | parsedRoll (reading : Reading Roll)
  | parsedOperation (reading : Reading Operation)
  | parsedCalculation (reading : Reading Calculation)
  | kind (kind : ModifierKind)
  | operation (operation : Operation)
  | written (roll dice : Text) (modifiers : List Text)
  | equalRolls (rolls readings : Bool)
  | equal (equal : Bool)
  | outcome (outcome : Outcome)
  | summary (summary : Summary)
  | float (value : Float)
  | settings (settings : Settings)
  | level (level : Level)

/-- The answer to a command, and the events that are shown. -/
structure Reply where
  answer : Except Failure Answer
  events : List Event

/-- The text of a draft with the texts of its parts, if all of them can be written. -/
def Draft.written (draft : Draft) : Except Failure Answer :=
  match draft.roll? with
  | none => .error .unwritableModifier
  | some roll => .ok (.written roll.text roll.dice.text (roll.modifiers.map Modifier.text))

/-- Read two texts as rolls and compare the rolls, without and with what is left of the texts. -/
def compareRolls (first second : Text) : Except ParseError Answer := do
  let a ← Roll.parse first
  let b ← Roll.parse second
  return .equalRolls (a.value == b.value) (a == b)

end Tabletop
