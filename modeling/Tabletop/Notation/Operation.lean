import Tabletop.Text.Basic

/-!
# Arithmetic operations

The four operations that join a roll and a number, each with its operator character.
-/

namespace Tabletop

/-- An operation on two numbers. -/
inductive Operation
  | add
  | subtract
  | multiply
  | divide
  deriving DecidableEq

namespace Operation

/-- The operator character of an operation. -/
def symbol : Operation → Char
  | add => '+'
  | subtract => '-'
  | multiply => '*'
  | divide => '/'

/-- The operation of an operator character. -/
def ofSymbol? : Char → Option Operation
  | '+' => some add
  | '-' => some subtract
  | '*' => some multiply
  | '/' => some divide
  | _ => none

/-- Is the character one of the four operators? -/
def isSymbol (c : Char) : Bool := (ofSymbol? c).isSome

end Operation

end Tabletop
