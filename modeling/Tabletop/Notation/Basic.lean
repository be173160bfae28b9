import Tabletop.Text.Decimal

/-!
# Dice notation

A roll is a dice term such as `4d6` followed by modifiers such as `k3`. This module holds these
parts and the one way in which each of them is written. Counts, sides and values are integers of
any sign: the notation can only write natural numbers, but rolls are also built directly, and
which of them can be rolled is decided later.
-/

namespace Tabletop

/-- What a modifier does to the dice rolled so far. -/
inductive ModifierKind
  /-- Roll further dice for every die at or above the value. -/
  | explode
  /-- Drop that many of the lowest dice. -/
  | remove
  /-- Keep that many of the highest dice. -/
  | keep
  /-- Keep that many of the lowest dice. -/
  | keepLower
  deriving DecidableEq

namespace ModifierKind

/-- The letter that stands for a kind of modifier. -/
def letter : ModifierKind → Char
  | explode => 'e'
  | remove => 'r'
  | keep => 'k'
  | keepLower => 'l'

/-- The kind of modifier that a letter of either case stands for. -/
def ofLetter? : Char → Option ModifierKind
  | 'e' | 'E' => some explode
  | 'r' | 'R' => some remove
  | 'k' | 'K' => some keep
  | 'l' | 'L' => some keepLower
  | _ => none

end ModifierKind

/-- A kind of modifier with its number. -/
structure Modifier where
  kind : ModifierKind
  value : Int
  deriving DecidableEq

/-- A number of equal dice. -/
structure DiceTerm where
  count : Int
  sides : Int
  deriving DecidableEq

/-- Dice with the modifiers applied to them, in order. -/
structure Roll where
  dice : DiceTerm
  modifiers : List Modifier
  deriving DecidableEq

/-- A modifier is written as its letter and its number. -/
def Modifier.text (modifier : Modifier) : Text :=
  modifier.kind.letter :: Decimal.ofInt modifier.value

/-- Dice are written as their count, the letter `d` and their number of sides. -/
def DiceTerm.text (dice : DiceTerm) : Text :=
  Decimal.ofInt dice.count ++ 'd' :: Decimal.ofInt dice.sides

/-- A roll is written as its dice and then each modifier after a space. -/
def Roll.text (roll : Roll) : Text :=
  roll.dice.text ++ roll.modifiers.flatMap fun modifier => ' ' :: modifier.text

instance : ToString Modifier := ⟨fun modifier => String.ofList modifier.text⟩
instance : ToString DiceTerm := ⟨fun dice => String.ofList dice.text⟩
instance : ToString Roll := ⟨fun roll => String.ofList roll.text⟩

end Tabletop
