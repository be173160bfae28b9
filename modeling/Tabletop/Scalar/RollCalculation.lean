import Tabletop.Notation.Calculation
import Tabletop.Rolling.Evaluation
import Tabletop.Scalar.Basic

/-!
# Rolling a calculation

A calculation is read from a whole text, its roll is evaluated, and the total is joined with the
number after the operator. Without an operator the result is the total.
-/

namespace Tabletop

variable {σ : Type} [RandomSource σ]

/-- Evaluate the roll of a calculation and join its total with the number after the operator. -/
def Calculation.play (settings : Settings) (calculation : Calculation) : Play σ Float := do
  let outcome ← evaluate settings calculation.roll
  match calculation.tail with
  | none => Play.ofExcept (Scalar.roll outcome).toFloat
  | some tail => do
    let second := Scalar.number (.float tail.scalar)
    let result ← Play.ofExcept (combine (.roll outcome) second tail.operation)
    Play.report (.combined calculation.roll tail.operation tail.scalar result)
    return result

/-- Read a calculation that fills the whole text and play it. The settings are needed only once the
text has been read. -/
def rollAndCalculate (settings : Except SettingsError Settings) (text : Text) : Play σ Float := do
  let calculation ← Play.ofExcept ((Calculation.parseWhole text).mapError .parse)
  let settings ← Play.ofExcept (settings.mapError .settings)
  calculation.play settings

end Tabletop
