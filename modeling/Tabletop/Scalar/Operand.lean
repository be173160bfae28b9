import Tabletop.Notation.Named
import Tabletop.Scalar.Basic

/-!
# Operands and operators of any kind

Where operands and operators come from outside they need not be scalars and operations. Such things
are refused only when they are used: the operands first, in order, and then the operator.
-/

namespace Tabletop

/-- A scalar, or some other value in its place. -/
inductive Operand
  | scalar (scalar : Scalar)
  | other (value : Datum)

/-- The number that a value stands for: itself, or one for true and zero for false. -/
def Datum.numeral? : Datum → Option Numeral
  | .bool value => some (.int value.toInt)
  | .int value => some (.int value)
  | .float value => some (.float value)
  | _ => none

mutual

/-- Values are equal if their numbers are, or if they have the same shape and equal parts. -/
def Datum.equals (a b : Datum) : Bool :=
  match a, b with
  | .null, .null => true
  | .text a, .text b => a == b
  | .list a, .list b => Datum.allEqual a b
  | .record a, .record b => Datum.fieldsEqual a b
  | a, b => ((a.numeral?.bind fun x => b.numeral?.map x.equals)).getD false

/-- Lists of equal values. -/
def Datum.allEqual : List Datum → List Datum → Bool
  | [], [] => true
  | a :: as, b :: bs => a.equals b && Datum.allEqual as bs
  | _, _ => false

/-- Fields with the same names and equal values, in the same order. -/
def Datum.fieldsEqual : List (Text × Datum) → List (Text × Datum) → Bool
  | [], [] => true
  | (name, a) :: as, (other, b) :: bs => name == other && a.equals b && Datum.fieldsEqual as bs
  | _, _ => false

end

namespace Operand

/-- Operands are equal if both are equal scalars or both are equal values. -/
def equals : Operand → Operand → Bool
  | scalar a, scalar b => a.equals b
  | other a, other b => a.equals b
  | _, _ => false

/-- The double that an operand contributes, if it is a scalar. -/
def toFloat : Operand → Except Failure Float
  | scalar operand => operand.toFloat
  | other value => .error (.unhandledOperand value)

end Operand

/-- Join two operands by an operator. -/
def combineOperands (first second : Operand) (symbol : Text) : Except Failure Float := do
  let a ← first.toFloat
  let b ← second.toFloat
  match Operation.ofText? symbol with
  | some operation => return operation.apply a b
  | none => throw (.unhandledOperator symbol)

end Tabletop
