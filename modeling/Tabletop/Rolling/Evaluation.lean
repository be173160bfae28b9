import Tabletop.Notation.Parse
import Tabletop.Rolling.Explosion

/-!
# Evaluating a roll

A roll is checked as a whole, then its dice are rolled, and then its modifiers are applied in order
for as long as dice remain.
-/

namespace Tabletop

variable {σ : Type} [RandomSource σ]

/-- Apply one modifier to the dice that remain, given the number of sides for further dice. -/
def Modifier.apply (modifier : Modifier) (sides : Int) (dice : List Int) : Play σ Outcome :=
  match modifier.kind with
  | .explode => do return some (← explode dice modifier.value sides)
  | .remove => return remove dice modifier.value
  | .keep => return some (keep dice modifier.value)
  | .keepLower => return some (keepLower dice modifier.value)

/-- Apply modifiers in order until no dice remain. -/
def applyModifiers (sides : Int) : List Modifier → Outcome → Play σ Outcome
  | [], outcome => return outcome
  | _ :: _, none => return none
  | modifier :: modifiers, some dice => do
    let outcome := settle (← modifier.apply sides dice)
    Play.report (.applied modifier outcome)
    applyModifiers sides modifiers outcome

/-- Roll the dice of a roll and apply its modifiers, unless the roll is refused. -/
def evaluate (settings : Settings) (roll : Roll) : Play σ Outcome := do
  match roll.rejection? settings with
  | some rejection => do
    Play.report (.rejected roll rejection)
    Play.fail (.rejected rejection)
  | none => do
    let outcome := settle (some (← rollDice roll.dice))
    Play.report (.rolled roll.dice outcome)
    applyModifiers roll.dice.sides roll.modifiers outcome

/-- Read a roll that fills the whole text and evaluate it. The settings are needed only once the text
has been read. -/
def rollText (settings : Except SettingsError Settings) (text : Text) : Play σ Outcome := do
  let roll ← Play.ofExcept ((Roll.parseWhole text).mapError .parse)
  let settings ← Play.ofExcept (settings.mapError .settings)
  evaluate settings roll

end Tabletop
