import Tabletop.Text.Decimal

/-!
# Selections of dice

Removing or keeping dice takes them from one end of an outcome. A count that is not negative means so
many dice. A negative count means a place counted from the end of the outcome, in front of its first
die at the earliest.
-/

namespace Tabletop

/-- The dice of a roll in ascending order, or nothing when no dice remain. -/
abbrev Outcome := Option (List Int)

/-- A place in an outcome of the given length, counted from its end if negative. -/
def placeFrom (length : Nat) (place : Int) : Nat :=
  if place < 0 then (length + place).toNat else place.toNat

/-- Drop the lowest dice, leaving nothing if the count reaches the number of dice. -/
def remove (dice : List Int) (count : Int) : Outcome :=
  if dice.length ≤ count then none else some (dice.drop (placeFrom dice.length count))

/-- Keep the highest dice, all of them if there are no more than the count. -/
def keep (dice : List Int) (count : Int) : List Int :=
  if count < dice.length then dice.drop (dice.length - count).toNat else dice

/-- Keep the lowest dice, all of them if there are no more than the count. -/
def keepLower (dice : List Int) (count : Int) : List Int :=
  if count < dice.length then dice.take (placeFrom dice.length count) else dice

/-- An outcome without dice is nothing. -/
def settle : Outcome → Outcome
  | some [] => none
  | outcome => outcome

/-- Dice in ascending order. -/
def ascending (dice : List Int) : List Int := dice.mergeSort fun a b => decide (a ≤ b)

/-- The sum of dice. -/
def total (dice : List Int) : Int := dice.foldr (· + ·) 0

/-- An outcome is written as its dice in parentheses, with a comma after a single one. -/
def Outcome.text : Outcome → Text
  | none => ['N', 'o', 'n', 'e']
  | some [die] => '(' :: Decimal.ofInt die ++ [',', ')']
  | some dice => '(' :: Text.commaSeparated (dice.map Decimal.ofInt) ++ [')']

/-- Sorting neither adds nor loses dice. -/
theorem ascending_perm (dice : List Int) : (ascending dice).Perm dice := List.mergeSort_perm _ _

/-- Sorted dice ascend. -/
theorem ascending_pairwise (dice : List Int) : (ascending dice).Pairwise (· ≤ ·) := by
  have sorted : (ascending dice).Pairwise fun a b => decide (a ≤ b) = true :=
    List.pairwise_mergeSort (by simp; omega) (by simp; omega) dice
  exact sorted.imp of_decide_eq_true

end Tabletop
