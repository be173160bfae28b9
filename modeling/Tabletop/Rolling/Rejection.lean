import Tabletop.Notation.Basic
import Tabletop.Settings.Basic

/-!
# Rolls that are refused

A roll is checked as a whole before any die is drawn: its dice need sides, it must respect the limits
of the settings, and no explosion may have a threshold that every die reaches.
-/

namespace Tabletop

/-- Why a roll or an explosion is refused. -/
inductive Rejection
  | noSides (dice : DiceTerm)
  | tooManyDice (count : Int) (limit : Nat)
  | tooManySides (sides : Int) (limit : Nat)
  | endlessModifier (modifier : Modifier)
  | endlessThreshold (threshold : Int)
  deriving DecidableEq

/-- The wording of a rejection. -/
def Rejection.message : Rejection → String
  | noSides dice => s!"Die must have at least 1 side, got {dice}"
  | tooManyDice count limit => s!"Too many dice: {count} (max {limit})"
  | tooManySides sides limit => s!"Too many sides: {sides} (max {limit})"
  | endlessModifier modifier => s!"Explode threshold must be greater than 1, got {modifier}"
  | endlessThreshold threshold => s!"Explode threshold must be greater than 1, got {threshold}"

/-- Does every die reach a threshold? -/
def isEndless (threshold : Int) : Bool := threshold ≤ 1

/-- An explosion that would never end. -/
def Modifier.isEndless (modifier : Modifier) : Bool :=
  modifier.kind == .explode && Tabletop.isEndless modifier.value

/-- The first reason to refuse a roll. -/
def Roll.rejection? (roll : Roll) (settings : Settings) : Option Rejection :=
  if roll.dice.sides < 1 then some (.noSides roll.dice)
  else if settings.maxDice < roll.dice.count then
    some (.tooManyDice roll.dice.count settings.maxDice)
  else if settings.maxSides < roll.dice.sides then
    some (.tooManySides roll.dice.sides settings.maxSides)
  else (roll.modifiers.find? Modifier.isEndless).map .endlessModifier

end Tabletop
