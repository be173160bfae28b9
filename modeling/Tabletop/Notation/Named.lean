import Tabletop.Failure
import Tabletop.Text.LowerCase

/-!
# Parts of the notation named from outside

Kinds of modifiers and operations that are asked for by any text. Kinds are named by their letter in
either case, operations by their operator.
-/

namespace Tabletop

/-- The kind of modifier whose letter is the lower case of the given text. -/
def ModifierKind.named (letter : Text) : Except Failure ModifierKind :=
  let lowered := Text.lower letter
  match lowered with
  | [c] => (ofLetter? c).elim (.error (.unknownLetter lowered)) .ok
  | _ => .error (.unknownLetter lowered)

/-- The operation of an operator text. -/
def Operation.ofText? : Text → Option Operation
  | [c] => ofSymbol? c
  | _ => none

/-- The operation of an operator text, or the reason why there is none. -/
def Operation.named (symbol : Text) : Except Failure Operation :=
  (ofText? symbol).elim (.error (.unknownOperator symbol)) .ok

end Tabletop
