import Tabletop.Text.Decimal

/-!
# The shortest decimal of a double

A finite double stands for every real number that rounds to it. Among the decimals in that interval
the shortest one is chosen, and of equally short ones the one nearest to the double. The search goes
through the decimal grids from the leading digit downwards, and all comparisons are exact.
-/

namespace Tabletop

/-- The positive number `significand * 2 ^ exponent`. -/
structure Binary where
  significand : Nat
  exponent : Int
  /-- The next double below is half as far away as the next one above. -/
  narrowBelow : Bool

/-- The decimal number `digits * 10 ^ exponent`. -/
structure Scientific where
  digits : Nat
  exponent : Int

/-- The reals that round to a value, from `low / unit` to `high / unit` steps of a decimal grid. -/
structure Interval where
  low : Nat
  value : Nat
  high : Nat
  unit : Nat
  /-- Both ends belong to the interval. -/
  closed : Bool

/-- The magnitude of a finite double, from the bits of the double. -/
def Binary.ofBits (bits : UInt64) : Binary :=
  let fraction : Nat := bits.toNat % Nat.pow 2 52
  let power : Nat := bits.toNat / Nat.pow 2 52 % Nat.pow 2 11
  if power = 0 then ⟨fraction, -1074, false⟩
  else ⟨Nat.pow 2 52 + fraction, (power : Int) - 1075, fraction == 0 && 1 < power⟩

/-- All decimal digits of the number. -/
def Binary.exact (x : Binary) : Scientific :=
  if 0 ≤ x.exponent then ⟨x.significand * Nat.pow 2 x.exponent.toNat, 0⟩
  else ⟨x.significand * Nat.pow 5 (-x.exponent).toNat, x.exponent⟩

/-- The exponent of the leading decimal digit. -/
def Binary.leadingExponent (x : Binary) : Int :=
  let exact := x.exact
  (Decimal.ofNat exact.digits).length + exact.exponent - 1

/-- The interval of the number on the grid of the multiples of `10 ^ grid`. -/
def Binary.interval (x : Binary) (grid : Int) : Interval :=
  let power := x.exponent - 2
  let scale := Nat.pow 2 power.toNat * Nat.pow 10 (-grid).toNat
  { low := (4 * x.significand - if x.narrowBelow then 1 else 2) * scale
    value := 4 * x.significand * scale
    high := (4 * x.significand + 2) * scale
    unit := Nat.pow 2 (-power).toNat * Nat.pow 10 grid.toNat
    closed := x.significand % 2 == 0 }

/-- Does a point of the grid lie in the interval? -/
def Interval.holds (interval : Interval) (point : Nat) : Bool :=
  let place := point * interval.unit
  if interval.closed then interval.low ≤ place && place ≤ interval.high
  else interval.low < place && place < interval.high

/-- The point of the grid in the interval that is nearest to the value, the even one of two. -/
def Interval.nearest? (interval : Interval) : Option Nat :=
  let below := interval.value / interval.unit
  match interval.holds below, interval.holds (below + 1) with
  | false, false => none
  | true, false => some below
  | false, true => some (below + 1)
  | true, true =>
    match compare (2 * interval.value) ((2 * below + 1) * interval.unit) with
    | .lt => some below
    | .gt => some (below + 1)
    | .eq => some (if below % 2 = 0 then below else below + 1)

/-- The shortest decimal that rounds to the number. -/
def Binary.shortest (x : Binary) : Scientific :=
  let grids := (List.range 17).map fun (below : Nat) => x.leadingExponent - below
  let found := grids.findSome? fun grid => (x.interval grid).nearest?.map fun digits => ⟨digits, grid⟩
  found.getD x.exact

end Tabletop
