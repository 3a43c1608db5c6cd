import HostLink.Double.Basic

/-!
# The shortest decimal that reads back

Among the decimals that round to a given binary64 number the text form uses one with the fewest
digits, and of those the nearest to the number.  The search walks the decimal grids with 1, 2, … 17
digits and tests on each grid the two neighbours of the number; the first grid with a hit wins.

`Double.shortest` always reads back as the number it came from: a hit is tested for exactly that,
and where no grid had one the exact decimal expansion is taken.
-/

namespace HostLink

/-- The decimal number `digits * 10 ^ exponent`. -/
structure Decimal where
  digits : Nat
  exponent : Int
deriving DecidableEq

namespace Decimal

/-- The sign-less decimal reads as `x`. -/
def readsAs (d : Decimal) (x : Double) : Bool :=
  Double.ofDecimal? x.negative d.digits d.exponent == some x

end Decimal

namespace Double

/-- The number of decimal digits before the point, negative when zeros follow the point first:
`p` with `10 ^ (p - 1) ≤ |x| < 10 ^ p` for a non-zero `x`. -/
def pointPosition (x : Double) : Int :=
  ((Nat.toDigits 10 (x.units * Nat.pow 10 330 / unitsPerOne)).length : Int) - 330

/-- The magnitude over `10 ^ exponent`, as a numerator and a denominator. -/
def overPowerOfTen (x : Double) (exponent : Int) : Nat × Nat :=
  if exponent < 0 then (x.units * Nat.pow 10 exponent.natAbs, unitsPerOne)
  else (x.units, unitsPerOne * Nat.pow 10 exponent.natAbs)

/-- The neighbour of `x` on the grid of multiples of `10 ^ exponent` that reads back as `x`: the
nearer one if both do, and the even one if both are equally near. -/
def onGrid? (x : Double) (exponent : Int) : Option Decimal :=
  let (num, den) := x.overPowerOfTen exponent
  let below : Decimal := ⟨num / den, exponent⟩
  let above : Decimal := ⟨num / den + 1, exponent⟩
  let twice := 2 * (num % den)
  match below.readsAs x, above.readsAs x with
  | true, true =>
    if twice < den then some below
    else if den < twice then some above
    else if below.digits % 2 = 0 then some below else some above
  | true, false => some below
  | false, true => some above
  | false, false => none

/-- The finite decimal expansion, exact for every binary64 number. -/
def expansion (x : Double) : Decimal := ⟨x.units * Nat.pow 5 1074, -1074⟩

/-- A decimal with the fewest digits that reads back as `x`. -/
def shortest (x : Double) : Decimal :=
  ((List.range 17).findSome? fun (n : Nat) => x.onGrid? (x.pointPosition - ((n : Int) + 1))).getD
    x.expansion

end Double
end HostLink
