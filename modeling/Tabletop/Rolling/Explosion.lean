import Tabletop.Rolling.Play

/-!
# Rolling dice and exploding them

Dice are rolled in one batch. An explosion owes one chain of further dice for every die at or above
its threshold, and a chain ends with its first die below the threshold. Which chain a die belongs to
makes no difference, so the explosion draws until as many dice below the threshold have come up as
there are chains, and keeps all of them.
-/

namespace Tabletop

variable {σ : Type} [RandomSource σ]

/-- The range of a die with the given number of sides. -/
def dieRange (sides : Int) : Range := ⟨1, sides⟩

/-- Roll the dice of a term. A count below zero means no dice. -/
def rollDice (dice : DiceTerm) : Play σ (List Int) := do
  let values ← Play.drawBatch (dieRange dice.sides) (fun _ => true) dice.count.toNat
  return ascending values

/-- The number of dice at or above a threshold. -/
def reaching (threshold : Int) (dice : List Int) : Nat := dice.countP fun die => decide (threshold ≤ die)

/-- Roll a chain of further dice for every die at or above the threshold, and add them all. -/
def explode (dice : List Int) (threshold sides : Int) : Play σ (List Int) := do
  if isEndless threshold then Play.fail (.rejected (.endlessThreshold threshold))
  else
    let added ←
      Play.drawBatch (dieRange sides) (fun die => decide (die < threshold)) (reaching threshold dice)
    if added ≠ [] then Play.report (.exploded threshold added.length)
    return ascending (dice ++ added)

end Tabletop
