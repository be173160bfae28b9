import Tabletop.Failure
import Tabletop.Number.Nearest
import Tabletop.Notation.Operation
import Tabletop.Rolling.Selection

/-!
# Scalars

A scalar is a number or an outcome, which counts as the sum of its dice. Scalars are reduced to
doubles before an operation joins them, and division by zero gives an infinity or no number.
-/

namespace Tabletop

/-- A whole number of any size, or a double. -/
inductive Numeral
  | int (value : Int)
  | float (value : Float)

/-- An operand of an operation. -/
inductive Scalar
  | number (value : Numeral)
  | roll (outcome : Outcome)

/-- The magnitude of a finite double is this natural number. -/
def Binary.isNat (x : Binary) (n : Nat) : Bool :=
  x.significand * Nat.pow 2 x.exponent.toNat == n * Nat.pow 2 (-x.exponent).toNat

/-- Is the sign bit of a double set? -/
def isNegative (x : Float) : Bool := 0x8000000000000000 ≤ x.toBits

/-- Is a double exactly this integer? -/
def floatIsInt (x : Float) (n : Int) : Bool :=
  !x.isNaN && !x.isInf && (Binary.ofBits x.toBits).isNat n.natAbs && (n == 0 || isNegative x == decide (n < 0))

namespace Numeral

/-- Numerals are equal by value, whatever their kind. What is not a number equals itself. -/
def equals : Numeral → Numeral → Bool
  | int a, int b => a == b
  | int a, float b => floatIsInt b a
  | float a, int b => floatIsInt a b
  | float a, float b => a == b || (a.isNaN && b.isNaN)

/-- The double nearest to a numeral. -/
def toFloat : Numeral → Except Failure Float
  | int n => (nearestDouble? n).elim (.error .overflow) .ok
  | float x => .ok x

end Numeral

namespace Scalar

/-- Numbers are equal by value, and outcomes if they hold the same dice in the same order. -/
def equals : Scalar → Scalar → Bool
  | number a, number b => a.equals b
  | roll a, roll b => a == b
  | _, _ => false

/-- The double that a scalar contributes: its number, or the sum of its dice. -/
def toFloat : Scalar → Except Failure Float
  | number value => value.toFloat
  | roll none => .ok 0.0
  | roll (some dice) => (Numeral.int (total dice)).toFloat

end Scalar

/-- Divide two doubles by a division that need not be defined for zero. A nonzero number divided by zero
is an infinity with the sign of the quotient, and zero divided by zero is not a number. -/
def quotientBy (divide : Float → Float → Float) (a b : Float) : Float :=
  if b != 0.0 then divide a b
  else if a == 0.0 || a.isNaN then 0.0 / 0.0
  else if isNegative a == isNegative b then 1.0 / 0.0
  else -1.0 / 0.0

/-- Divide two doubles. -/
def quotient (a b : Float) : Float := quotientBy (· / ·) a b

/-- Carry out an operation on two doubles. -/
def Operation.apply : Operation → Float → Float → Float
  | add, a, b => a + b
  | subtract, a, b => a - b
  | multiply, a, b => a * b
  | divide, a, b => quotient a b

/-- Reduce two scalars, the first one first, and join them by an operation. -/
def combine (first second : Scalar) (operation : Operation) : Except Failure Float := do
  let a ← first.toFloat
  let b ← second.toFloat
  return operation.apply a b

end Tabletop
