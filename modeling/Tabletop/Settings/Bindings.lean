import Tabletop.Text.Basic

/-!
# Bindings

Names bound to values in the order in which the names first came up. Binding a name again keeps its
place. Names that differ only in case are different names, but a lookup may go by a key of the name, such
as its lower case; then the last of the names with that key is the one that counts.
-/

namespace Tabletop

/-- Names and their values, in the order in which the names came up. -/
abbrev Bindings (α : Type) := List (Text × α)

namespace Bindings

variable {α : Type}

/-- Bind a name, in its old place if it is bound already. -/
def put (name : Text) (value : α) : Bindings α → Bindings α
  | [] => [(name, value)]
  | (other, old) :: rest =>
    if other == name then (name, value) :: rest else (other, old) :: put name value rest

/-- Drop the binding of a name. -/
def unbind (name : Text) (bindings : Bindings α) : Bindings α :=
  bindings.filter fun binding => binding.1 != name

/-- Names with the same key. -/
def sameName (key : Text → Text) (a b : Text) : Bool := key a == key b

/-- The value of the last name with the key of the given one. -/
def latest? (key : Text → Text) (name : Text) (bindings : Bindings α) : Option α :=
  (bindings.findRev? fun binding => sameName key binding.1 name).map Prod.snd

end Bindings

end Tabletop
