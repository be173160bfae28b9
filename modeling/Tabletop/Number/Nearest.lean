/-!
# The double nearest to an integer

An integer is converted to the nearest double, ties to even. An integer that would round beyond the
largest finite double has no nearest double.
-/

namespace Tabletop

/-- The least magnitude that rounds beyond the largest double: half a step above it. -/
def overflowMagnitude : Nat := Nat.pow 2 1024 - Nat.pow 2 970

/-- The double nearest to an integer, unless the integer is too large. -/
def nearestDouble? (n : Int) : Option Float :=
  if n.natAbs < overflowMagnitude then some (Float.ofInt n) else none

end Tabletop
