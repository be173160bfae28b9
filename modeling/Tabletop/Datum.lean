import Tabletop.Number.FloatText
import Tabletop.Text.Quoted

/-!
# Values of any shape

Settings can be given as values of any shape, and so can things that should have been operands. A
value that is refused is shown as a literal.
-/

namespace Tabletop

/-- A value of any shape. -/
inductive Datum
  | null
  | bool (value : Bool)
  | int (value : Int)
  | float (value : Float)
  | text (value : Text)
  | list (items : List Datum)
  | record (fields : List (Text × Datum))

instance : Inhabited Datum := ⟨.null⟩

mutual

/-- A value shown as a literal. -/
def Datum.literal : Datum → Text
  | .null => ['N', 'o', 'n', 'e']
  | .bool true => ['T', 'r', 'u', 'e']
  | .bool false => ['F', 'a', 'l', 's', 'e']
  | .int value => Decimal.ofInt value
  | .float value => floatText value
  | .text value => Text.quoted value
  | .list items => '[' :: Text.commaSeparated (Datum.literals items) ++ [']']
  | .record fields => '\x7b' :: Text.commaSeparated (Datum.entries fields) ++ ['\x7d']

/-- Values shown as literals. -/
def Datum.literals : List Datum → List Text
  | [] => []
  | item :: items => item.literal :: Datum.literals items

/-- Fields shown as a quoted name and a literal. -/
def Datum.entries : List (Text × Datum) → List Text
  | [] => []
  | (name, value) :: fields => (Text.quoted name ++ ':' :: ' ' :: value.literal) :: Datum.entries fields

end

end Tabletop
