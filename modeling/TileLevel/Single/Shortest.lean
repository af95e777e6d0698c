import TileLevel.Single.Basic

/-!
# The Shortest Decimal of a Number

A decimal reads back as a number when it lies among the reals that round to it. Of the decimals that
read back, the shortest is one on the coarsest decimal grid that has any, and of two on that grid
the nearer. Whether a real that lies exactly half way between two numbers rounds to one of them
depends on whether its last binary digit is even, so the ends of the interval belong to it just
then.

Everything is counted in units of `10^-149`, of which a unit of `2^-149` is a whole number, `5^149`.
-/

namespace TileLevel.Single

/-- A decimal `digits * 10^exponent`. -/
structure Decimal where
  digits : Nat
  exponent : Int
deriving DecidableEq, Repr

/-- Which of two decimals that are equally near is taken. -/
inductive TieRule where
  | up
  | toEven
deriving DecidableEq, Repr

/-! ## §1 The interval of a number -/

/-- The reals that round to a magnitude, in quarters of `10^-149`. -/
structure RoundingInterval where
  lower : Nat
  /-- The magnitude itself -/
  middle : Nat
  upper : Nat
  /-- Whether the two ends round to the magnitude as well -/
  closed : Bool
deriving DecidableEq, Repr

namespace RoundingInterval

def holds (i : RoundingInterval) (point : Nat) : Bool :=
  if i.closed then i.lower ≤ point && point ≤ i.upper else i.lower < point && point < i.upper

end RoundingInterval

namespace Magnitude

/-- Units of `10^-149` in a unit of `2^-149`. -/
def decimalUnits : Nat := Nat.pow 5 149

/-- Whether the magnitude is the first of a new spacing, so that its lower neighbour is only half as
    far away as its upper one. -/
def isNarrow (m : Magnitude) : Bool :=
  0 < spacing m.units && m.units == Nat.pow 2 (23 + spacing m.units)

/-- The reals that round to the magnitude: half way to the neighbours on both sides. -/
def interval (m : Magnitude) : RoundingInterval :=
  let step := Nat.pow 2 (spacing m.units)
  { lower := (4 * m.units - if m.isNarrow then step else 2 * step) * decimalUnits
    middle := 4 * m.units * decimalUnits
    upper := (4 * m.units + 2 * step) * decimalUnits
    closed := m.units / step % 2 == 0 }

end Magnitude

/-! ## §2 The search -/

namespace RoundingInterval

/-- The point of the grid of multiples of `10^grid` that is nearest to the magnitude among those
    that round to it, as a multiple. Only the two points around the magnitude can be. -/
def onGrid? (tie : TieRule) (i : RoundingInterval) (grid : Nat) : Option Nat :=
  let step := 4 * Nat.pow 10 grid
  let below := i.middle / step
  let rest := i.middle % step
  match i.holds (below * step), i.holds ((below + 1) * step) with
  | true, true =>
    if 2 * rest < step then some below
    else if step < 2 * rest then some (below + 1)
    else match tie with
      | .up => some (below + 1)
      | .toEven => if below % 2 = 0 then some below else some (below + 1)
  | true, false => some below
  | false, true => some (below + 1)
  | false, false => none

/-- The hit on the coarsest grid, from `10^grid` down to `10^0`, on which the magnitude itself lies.
    -/
def shortestFrom (tie : TieRule) (i : RoundingInterval) : (grid : Nat) → Decimal
  | 0 => { digits := i.middle / 4, exponent := -149 }
  | grid + 1 =>
    match i.onGrid? tie (grid + 1) with
    | some digits => { digits, exponent := (grid + 1 : Nat) - 149 }
    | none => i.shortestFrom tie grid

end RoundingInterval

/-- The shortest decimal that reads back as the magnitude. Since `10^grid` is at least `2^(3*grid)`,
    no coarser grid than the first one tried has a point between zero and the upper end. -/
def Magnitude.shortest (tie : TieRule) (m : Magnitude) : Decimal :=
  m.interval.shortestFrom tie (m.interval.upper.log2 / 3)

end TileLevel.Single
