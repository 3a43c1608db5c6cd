/-!
# Finite binary64 numbers

Every finite binary64 number is a whole multiple of `2 ^ -1074`, so its magnitude is kept as the
natural number `mantissa * 2 ^ scale` of such units.  The mantissa is below `2 ^ 53`, which is
9007199254740992, and below `2 ^ 52`, half of that, only where the scale is zero; so the
representation is unique up to the sign of zero.  Infinities and NaN are not values of this type.

Rounding compares whole numbers only: no machine float takes part.  So a decimal becomes the number
nearest to it, ties to even, which idealizes readers that compute with machine floats and may miss
it by a little on long decimals.
-/

namespace HostLink

/-- A finite binary64 number of magnitude `mantissa * 2 ^ scale` units of `2 ^ -1074`. -/
structure Double where
  negative : Bool
  mantissa : Nat
  scale : Nat
  mantissa_lt : mantissa < 9007199254740992
  scale_le : scale ≤ 2045
  normal : scale = 0 ∨ 4503599627370496 ≤ mantissa
deriving DecidableEq

namespace Double

/-- Zero with the given sign. -/
def zero (negative : Bool) : Double :=
  ⟨negative, 0, 0, by decide, by decide, .inl rfl⟩

/-- The magnitude in units of `2 ^ -1074`. -/
def units (x : Double) : Nat := x.mantissa * Nat.pow 2 x.scale

/-- One, written in units. -/
def unitsPerOne : Nat := Nat.pow 2 1074

/-- Whether the number is a zero of either sign. -/
def isZero (x : Double) : Bool := x.mantissa == 0

/-- Equality of values: the two zeros are equal, all else is compared field by field. -/
def sameValue (x y : Double) : Bool := (x.isZero && y.isZero) || x == y

/-! ## Rounding to nearest, ties to even -/

/-- The whole number nearest to `num / den`; a half goes to the even neighbour. -/
def nearestEven (num den : Nat) : Nat :=
  let quotient := num / den
  let twice := 2 * (num % den)
  if twice < den then quotient
  else if den < twice then quotient + 1
  else if quotient % 2 = 0 then quotient else quotient + 1

/-- The number with the given mantissa and scale, where a mantissa of `2 ^ 53` moves one bit into
the scale; nothing if the scale leaves its range. -/
def ofParts? (negative : Bool) (mantissa scale : Nat) : Option Double :=
  let carried := mantissa == 9007199254740992
  let m := if carried then 4503599627370496 else mantissa
  let k := if carried then scale + 1 else scale
  if h : m < 9007199254740992 ∧ k ≤ 2045 ∧ (k = 0 ∨ 4503599627370496 ≤ m) then
    some ⟨negative, m, k, h.1, h.2.1, h.2.2⟩
  else none

/-- The number nearest to `num / den` units, or nothing if that rounds past the largest one. -/
def ofUnits? (negative : Bool) (num den : Nat) : Option Double :=
  let scale := Nat.log2 (num / den) - 52
  ofParts? negative (nearestEven num (den * Nat.pow 2 scale)) scale

/-- The number nearest to `digits * 10 ^ exponent`, or nothing if that rounds past the largest one.
The first two tests settle exponents so large or so small that the power of ten need not be
computed: no non-zero whole number times `10 ^ 309` is in range, and a number below `2 ^ (b + 1)`
times `10 ^ -(b + 401)` is far below half a unit. -/
def ofDecimal? (negative : Bool) (digits : Nat) (exponent : Int) : Option Double :=
  if digits = 0 ∨ exponent < -((Nat.log2 digits : Int) + 401) then some (zero negative)
  else if 308 < exponent then none
  else if exponent < 0 then
    ofUnits? negative (digits * unitsPerOne) (Nat.pow 10 exponent.natAbs)
  else
    ofUnits? negative (digits * Nat.pow 10 exponent.natAbs * unitsPerOne) 1

end Double
end HostLink
