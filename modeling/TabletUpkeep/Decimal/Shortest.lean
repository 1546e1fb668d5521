/-! Shortest decimals. A binary number `value * 2 ^ exponent` comes with the interval of reals
that round to it; the answer is the coarsest decimal grid on which a neighbour of the number
lies in that interval, and of two such neighbours the nearer, the upper one when both are
equally near. Seventeen digits always suffice. All comparisons are between natural numbers: binary
and decimal numbers are multiplied by the denominators of both kinds of grid. -/
namespace TabletUpkeep.Decimal

/-- The reals that read back as one number, in units of `2 ^ exponent`. The ends belong to the
interval when `closed` says so. -/
structure Reading where
  low : Nat
  value : Nat
  high : Nat
  exponent : Int
  closed : Bool

/-- The interval of `mantissa * 2 ^ exponent`, in quarter units. A mantissa of `2 ^ 52` has its
lower neighbour at half the distance. -/
def Reading.ofBinary (mantissa : Nat) (exponent : Int) : Reading where
  low := 4 * mantissa - if mantissa = Nat.pow 2 52 then 1 else 2
  value := 4 * mantissa
  high := 4 * mantissa + 2
  exponent := exponent - 2
  closed := mantissa % 2 = 0

namespace Reading

def scaleBinary (r : Reading) (power : Int) (units : Nat) : Nat :=
  units * Nat.pow 2 r.exponent.toNat * Nat.pow 10 (-power).toNat

def scaleDecimal (r : Reading) (power : Int) (digits : Nat) : Nat :=
  digits * Nat.pow 10 power.toNat * Nat.pow 2 (-r.exponent).toNat

def holds (r : Reading) (power : Int) (digits : Nat) : Bool :=
  let point := r.scaleDecimal power digits
  let low := r.scaleBinary power r.low
  let high := r.scaleBinary power r.high
  if r.closed then low ≤ point && point ≤ high else low < point && point < high

def below (r : Reading) (power : Int) : Nat :=
  r.scaleBinary power r.value / r.scaleDecimal power 1

def nearest? (r : Reading) (power : Int) : Option Nat :=
  let down := r.below power
  let center := r.scaleBinary power r.value
  let upIsNearer := r.scaleDecimal power (down + 1) - center ≤ center - r.scaleDecimal power down
  match r.holds power down, r.holds power (down + 1) with
  | true, true => some (if upIsNearer then down + 1 else down)
  | true, false => some down
  | false, true => some (down + 1)
  | false, false => none

/-- The number of digits before the point, negative for leading zeros after it. -/
def magnitude (r : Reading) : Int :=
  (Nat.toDigits 10 (r.below (-400))).length - 400

def search (r : Reading) : Nat → Int → Nat × Int
  | 0, power => (r.below power, power)
  | fuel + 1, power =>
    match r.nearest? power with
    | some digits => (digits, power)
    | none => r.search fuel (power - 1)

def shortest (r : Reading) : Nat × Int := r.search 17 (r.magnitude - 1)

end Reading

end TabletUpkeep.Decimal
