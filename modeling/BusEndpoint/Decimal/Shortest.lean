import BusEndpoint.Text.Unsigned
/-!
The shortest decimal that reads back as a given binary number. A positive
number `m * 2 ^ q` owns the interval of reals that round to it; among the
decimals in this interval those with the fewest digits are taken, and of
these the one nearest to the number. Everything is exact arithmetic on
natural numbers.
-/

namespace BusEndpoint.Decimal

/-- The decimal `digits * 10 ^ exponent`. -/
structure Scaled where
  digits : Nat
  exponent : Int
deriving DecidableEq, Repr

/-- A positive binary number `mantissa * 2 ^ exponent` with the shape of its
neighbourhood: below a power of two the next smaller number is only half as
far away as the next larger one. -/
structure Binary where
  mantissa : Nat
  exponent : Int
  lowerGapHalved : Bool
deriving DecidableEq, Repr

/-- The greatest power `p` of ten with `10 ^ p ≤ num / den`, for positive
operands. -/
def decimalOrder (num den : Nat) : Int :=
  if den ≤ num then ((Text.decimal (num / den)).length : Int) - 1
  else
    let places := (Text.decimal (den / num)).length
    if den = num * Nat.pow 10 (places - 1) then -((places : Int) - 1) else -(places : Int)

/-- The interval that rounds to a number, in units chosen so that the ends
and every decimal of one grid are natural numbers: `center`, `low` and `high`
in these units, and the units in one step of the grid. -/
structure Grid where
  low : Nat
  center : Nat
  high : Nat
  step : Nat
  endsIncluded : Bool

/-- The grid of the multiples of `10 ^ power` around a number. -/
def Binary.grid (b : Binary) (power : Int) : Grid :=
  let q := b.exponent - 2
  let unit := Nat.pow 2 q.toNat * Nat.pow 10 (-power).toNat
  { low := (4 * b.mantissa - if b.lowerGapHalved then 1 else 2) * unit
    center := 4 * b.mantissa * unit
    high := (4 * b.mantissa + 2) * unit
    step := Nat.pow 10 power.toNat * Nat.pow 2 (-q).toNat
    endsIncluded := b.mantissa % 2 == 0 }

def Grid.contains (g : Grid) (multiple : Nat) : Bool :=
  let x := multiple * g.step
  if g.endsIncluded then g.low ≤ x && x ≤ g.high else g.low < x && x < g.high

/-- The multiple of the step nearest to the number among its two neighbours
that lie in the interval; of two equally near ones the even one. -/
def Grid.nearest? (g : Grid) : Option Nat :=
  let below := g.center / g.step
  let above := below + 1
  match g.contains below, g.contains above with
  | true, true =>
    let down := g.center - below * g.step
    let up := above * g.step - g.center
    if down < up then some below
    else if up < down then some above
    else if below % 2 = 0 then some below else some above
  | true, false => some below
  | false, true => some above
  | false, false => none

/-- Drop the zeros at the end of the digits. -/
def Scaled.trim (fuel : Nat) (d : Scaled) : Scaled :=
  match fuel with
  | 0 => d
  | fuel + 1 =>
    if d.digits ≠ 0 ∧ d.digits % 10 = 0 then
      Scaled.trim fuel ⟨d.digits / 10, d.exponent + 1⟩
    else d

/-- Try the grids from coarse to fine, beginning with the one on which the
number has one digit. Seventeen digits always suffice for a 64-bit number. -/
def Binary.firstHit (b : Binary) : Nat → Int → Option Scaled
  | 0, _ => none
  | tries + 1, power =>
    match (b.grid power).nearest? with
    | some digits => some ⟨digits, power⟩
    | none => b.firstHit tries (power - 1)

/-- The shortest decimal of a positive number. -/
def Binary.shortest (b : Binary) : Scaled :=
  let order := decimalOrder (b.mantissa * Nat.pow 2 b.exponent.toNat)
    (Nat.pow 2 (-b.exponent).toNat)
  match b.firstHit 18 order with
  | some d => d.trim 20
  | none => ⟨0, 0⟩

end BusEndpoint.Decimal
