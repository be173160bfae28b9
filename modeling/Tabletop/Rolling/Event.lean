import Tabletop.Notation.Operation
import Tabletop.Number.FloatText
import Tabletop.Rolling.Rejection
import Tabletop.Rolling.Selection

/-!
# Events of a run

What a run reports as it goes along, each event with its level and its wording. Numbers in the wording are
written in full, whatever the number of their digits.
-/

namespace Tabletop

/-- Something that happened while dice were rolled. -/
inductive Event
  | rejected (roll : Roll) (rejection : Rejection)
  | rolled (dice : DiceTerm) (outcome : Outcome)
  | exploded (threshold : Int) (added : Nat)
  | applied (modifier : Modifier) (outcome : Outcome)
  | combined (roll : Roll) (operation : Operation) (scalar result : Float)

namespace Event

/-- A rejection is a warning, everything else is told for debugging only. -/
def level : Event → Level
  | rejected .. => .warning
  | rolled .. | exploded .. | applied .. | combined .. => .debug

/-- The wording of an event. -/
def message : Event → String
  | rejected roll rejection =>
    let reason := rejection.message
    s!"Rejected roll '{roll}': {reason}"
  | rolled dice outcome =>
    let text := String.ofList outcome.text
    s!"Rolled {dice}: {text}"
  | exploded threshold added => s!"Exploded on {threshold}+: added {added} dice"
  | applied modifier outcome =>
    let text := String.ofList outcome.text
    s!"After {modifier}: {text}"
  | combined roll operation scalar result =>
    let symbol := operation.symbol
    let operand := String.ofList (floatText scalar)
    let total := String.ofList (floatText result)
    s!"{roll} {symbol} {operand} = {total}"

end Event

end Tabletop
