import Mathlib.Tactic.Ring
import HostLink.Double.Shortest

/-!
# Decimals that read back

Reading a decimal as a binary64 depends on nothing but its value: `Double.ofDecimal?_shift` moves
factors of ten between the digits and the exponent.  `Double.ofDecimal?` settles very large and very
small exponents without computing the power of ten, so the law is proved by way of the quotient that
it would compute (`Double.ofDecimal?_eq_ofUnits?`), for which those two tests must be shown to
change nothing.

The decimal that is chosen for the text of a float reads back as that float
(`Double.ofDecimal?_shortest`): a hit on a grid was tested for that, and the full expansion, to
which the search falls back, is exact.
-/

namespace HostLink
namespace Double

/-! ## Rounding a quotient -/

/-- Rounding a quotient depends on its value only. -/
theorem nearestEven_mul {factor : Nat} (hpos : 0 < factor) (num den : Nat) :
    nearestEven (factor * num) (factor * den) = nearestEven num den := by
  unfold nearestEven
  rw [Nat.mul_div_mul_left _ _ hpos, Nat.mul_mod_mul_left]
  have hhalf : 2 * (factor * (num % den)) < factor * den ↔ 2 * (num % den) < den := by
    rw [Nat.mul_left_comm]
    exact Nat.mul_lt_mul_left hpos
  have hmore : factor * den < 2 * (factor * (num % den)) ↔ den < 2 * (num % den) := by
    rw [Nat.mul_left_comm]
    exact Nat.mul_lt_mul_left hpos
  simp only [hhalf, hmore]

theorem ofUnits?_mul (negative : Bool) {factor : Nat} (hpos : 0 < factor) (num den : Nat) :
    ofUnits? negative (factor * num) (factor * den) = ofUnits? negative num den := by
  unfold ofUnits?
  rw [Nat.mul_div_mul_left _ _ hpos]
  dsimp only
  rw [Nat.mul_assoc, nearestEven_mul hpos]

/-- Equal quotients round alike. -/
theorem ofUnits?_congr (negative : Bool) {num den num' den' : Nat} (hden : 0 < den)
    (hden' : 0 < den') (h : num * den' = num' * den) :
    ofUnits? negative num den = ofUnits? negative num' den' := by
  rw [← ofUnits?_mul negative hden' num den, ← ofUnits?_mul negative hden num' den',
    Nat.mul_comm den' num, h, Nat.mul_comm num' den, Nat.mul_comm den' den]

/-- What is below half a unit rounds to zero. -/
theorem ofUnits?_of_lt_half (negative : Bool) {num den : Nat} (h : 2 * num < den) :
    ofUnits? negative num den = some (zero negative) := by
  have hlt : num < den := by omega
  have hnearest : nearestEven num den = 0 := by
    unfold nearestEven
    rw [Nat.div_eq_of_lt hlt, Nat.mod_eq_of_lt hlt]
    exact if_pos h
  unfold ofUnits?
  rw [Nat.div_eq_of_lt hlt]
  have hscale : Nat.log2 0 - 52 = 0 := by decide
  simp only [hscale]
  rw [show Nat.pow 2 0 = 1 from rfl, Nat.mul_one, hnearest]
  rfl

/-- What is past the largest number rounds to nothing. -/
theorem ofUnits?_of_large (negative : Bool) {num : Nat} (h : 2 ^ 2100 ≤ num) :
    ofUnits? negative num 1 = none := by
  have hne : num ≠ 0 := Nat.ne_of_gt (Nat.lt_of_lt_of_le (Nat.pow_pos (by decide)) h)
  have hlog : 2100 ≤ Nat.log2 num := by
    -- With the number in sight the power would be computed.
    generalize 2100 = bound at h ⊢
    exact (Nat.le_log2 hne).2 h
  unfold ofUnits? ofParts?
  rw [Nat.div_one]
  refine dif_neg ?_
  rintro ⟨-, hscale, -⟩
  revert hscale
  split <;> omega

/-! ## Reading a decimal -/

/-- A decimal whose exponent is below all that counts is below half a unit. -/
theorem lt_half_of_small {digits : Nat} {exponent : Int}
    (h : exponent < -((Nat.log2 digits : Int) + 401)) :
    2 * (digits * unitsPerOne) < 10 ^ exponent.natAbs := by
  have hexponent : Nat.log2 digits + 402 ≤ exponent.natAbs := by omega
  have hdigits : digits < 2 ^ (Nat.log2 digits + 1) := Nat.lt_log2_self
  have hunits : 0 < unitsPerOne := by decide +kernel
  have hfour : 4 * unitsPerOne ≤ 10 ^ 402 := by decide +kernel
  calc 2 * (digits * unitsPerOne)
      < 2 * (2 ^ (Nat.log2 digits + 1) * unitsPerOne) :=
        Nat.mul_lt_mul_of_pos_left (Nat.mul_lt_mul_of_pos_right hdigits hunits) (by decide)
    _ = 2 ^ Nat.log2 digits * (4 * unitsPerOne) := by
        rw [Nat.pow_succ]
        ring
    _ ≤ 10 ^ Nat.log2 digits * 10 ^ 402 :=
        Nat.mul_le_mul (Nat.pow_le_pow_left (by decide) _) hfour
    _ = 10 ^ (Nat.log2 digits + 402) := (pow_add 10 (Nat.log2 digits) 402).symm
    _ ≤ 10 ^ exponent.natAbs := Nat.pow_le_pow_right (by decide) hexponent

/-- A decimal whose exponent is above all that counts is past the largest number. -/
theorem large_of_large {digits : Nat} (hdigits : digits ≠ 0) {exponent : Nat} (h : 308 < exponent) :
    2 ^ 2100 ≤ digits * 10 ^ exponent * unitsPerOne := by
  calc 2 ^ 2100 ≤ 10 ^ 309 * unitsPerOne := by decide +kernel
    _ ≤ 10 ^ exponent * unitsPerOne :=
        Nat.mul_le_mul_right _ (Nat.pow_le_pow_right (by decide) h)
    _ ≤ digits * 10 ^ exponent * unitsPerOne :=
        Nat.mul_le_mul_right _ (Nat.le_mul_of_pos_left _ (Nat.pos_of_ne_zero hdigits))

/-- Reading a decimal rounds its value, for exponents of any size. -/
theorem ofDecimal?_eq_ofUnits? (negative : Bool) (digits : Nat) (exponent : Int) :
    ofDecimal? negative digits exponent =
      ofUnits? negative (digits * 10 ^ exponent.toNat * unitsPerOne) (10 ^ (-exponent).toNat) := by
  unfold ofDecimal?
  by_cases hsmall : digits = 0 ∨ exponent < -((Nat.log2 digits : Int) + 401)
  · rw [if_pos hsmall]
    refine (ofUnits?_of_lt_half negative ?_).symm
    rcases hsmall with rfl | hsmall
    · rw [Nat.zero_mul, Nat.zero_mul]
      exact Nat.pow_pos (by decide)
    · have hbelow := lt_half_of_small hsmall
      rw [show exponent.toNat = 0 by omega, show (-exponent).toNat = exponent.natAbs by omega,
        Nat.pow_zero, Nat.mul_one]
      exact hbelow
  · have hdigits : digits ≠ 0 := fun hzero => hsmall (.inl hzero)
    rw [if_neg hsmall]
    by_cases hlarge : 308 < exponent
    · rw [if_pos hlarge, show (-exponent).toNat = 0 by omega, Nat.pow_zero]
      exact (ofUnits?_of_large negative (large_of_large hdigits (by omega))).symm
    · rw [if_neg hlarge]
      by_cases hnegative : exponent < 0
      · rw [if_pos hnegative, show exponent.toNat = 0 by omega,
          show (-exponent).toNat = exponent.natAbs by omega, Nat.pow_zero, Nat.mul_one]
        rfl
      · rw [if_neg hnegative, show (-exponent).toNat = 0 by omega,
          show exponent.toNat = exponent.natAbs by omega, Nat.pow_zero]
        rfl

/-- Factors of ten may stand in the digits or in the exponent. -/
theorem ofDecimal?_shift (negative : Bool) (digits : Nat) (exponent : Int) (count : Nat) :
    ofDecimal? negative (digits * 10 ^ count) (exponent - count) =
      ofDecimal? negative digits exponent := by
  rw [ofDecimal?_eq_ofUnits?, ofDecimal?_eq_ofUnits?]
  refine ofUnits?_congr negative (Nat.pow_pos (by decide)) (Nat.pow_pos (by decide)) ?_
  have hexponents : count + (exponent - count).toNat + (-exponent).toNat =
      exponent.toNat + (-(exponent - count)).toNat := by omega
  have hpowers : 10 ^ count * 10 ^ (exponent - count).toNat * 10 ^ (-exponent).toNat =
      10 ^ exponent.toNat * 10 ^ (-(exponent - count)).toNat := by
    rw [← Nat.pow_add, ← Nat.pow_add, ← Nat.pow_add, hexponents]
  calc digits * 10 ^ count * 10 ^ (exponent - count).toNat * unitsPerOne * 10 ^ (-exponent).toNat
      = digits * unitsPerOne *
          (10 ^ count * 10 ^ (exponent - count).toNat * 10 ^ (-exponent).toNat) := by ring
    _ = digits * unitsPerOne * (10 ^ exponent.toNat * 10 ^ (-(exponent - count)).toNat) := by
        rw [hpowers]
    _ = digits * 10 ^ exponent.toNat * unitsPerOne * 10 ^ (-(exponent - count)).toNat := by ring

/-! ## The decimal of a float -/

/-- A mantissa of full width stands at bit 52. -/
theorem log2_mantissa {mantissa : Nat} (hlow : 4503599627370496 ≤ mantissa)
    (hhigh : mantissa < 9007199254740992) (scale : Nat) :
    Nat.log2 (mantissa * 2 ^ scale) = 52 + scale := by
  have hpos : 0 < mantissa := Nat.lt_of_lt_of_le (by decide) hlow
  have hne : mantissa * 2 ^ scale ≠ 0 :=
    Nat.ne_of_gt (Nat.mul_pos hpos (Nat.pow_pos (by decide)))
  rw [Nat.log2_eq_iff hne, Nat.pow_add, show 52 + scale + 1 = 53 + scale by omega, Nat.pow_add]
  constructor
  · exact Nat.mul_le_mul_right _ hlow
  · exact Nat.mul_lt_mul_of_pos_right hhigh (Nat.pow_pos (by decide))

/-- A whole number of grid steps is nearest to itself. -/
theorem nearestEven_of_dvd (mantissa : Nat) {den : Nat} (hpos : 0 < den) :
    nearestEven (mantissa * den) den = mantissa := by
  unfold nearestEven
  rw [Nat.mul_div_cancel _ hpos, Nat.mul_mod_left]
  exact if_pos hpos

/-- A float's own units round to it. -/
theorem ofUnits?_units (x : Double) : ofUnits? x.negative x.units 1 = some x := by
  obtain ⟨negative, mantissa, scale, hmantissa, hscale, hnormal⟩ := x
  have hlog : Nat.log2 (mantissa * 2 ^ scale) - 52 = scale := by
    rcases hnormal with rfl | hlow
    · rw [Nat.pow_zero, Nat.mul_one]
      by_cases hzero : mantissa = 0
      · rw [hzero]
        decide
      · have hlt := (Nat.log2_lt hzero (k := 53)).2 hmantissa
        omega
    · rw [log2_mantissa hlow hmantissa, Nat.add_sub_cancel_left]
  have hnearest : nearestEven (mantissa * 2 ^ scale) (2 ^ scale) = mantissa :=
    nearestEven_of_dvd mantissa (Nat.pow_pos (by decide))
  have hcarried : (mantissa == 9007199254740992) = false := by
    rw [beq_eq_false_iff_ne]
    exact Nat.ne_of_lt hmantissa
  unfold ofUnits? units
  simp only [Nat.pow_eq, Nat.div_one, Nat.one_mul, hlog, hnearest]
  unfold ofParts?
  simp only [hcarried, Bool.false_eq_true, if_false]
  exact dif_pos ⟨hmantissa, hscale, hnormal⟩

theorem ofDecimal?_expansion (x : Double) :
    ofDecimal? x.negative x.expansion.digits x.expansion.exponent = some x := by
  have hten : Nat.pow 5 1074 * unitsPerOne = 10 ^ 1074 := by decide +kernel
  have hdigits : x.expansion.digits * 10 ^ x.expansion.exponent.toNat =
      x.units * Nat.pow 5 1074 := Nat.mul_one _
  have hexponent : (-x.expansion.exponent).toNat = 1074 := rfl
  have hpos : 0 < 10 ^ (-x.expansion.exponent).toNat := Nat.pow_pos (by decide)
  rw [ofDecimal?_eq_ofUnits?, ← ofUnits?_units x]
  refine ofUnits?_congr x.negative hpos (by decide) ?_
  rw [hdigits, hexponent, Nat.mul_one, Nat.mul_assoc, hten]

theorem readsAs_of_onGrid? {x : Double} {exponent : Int} {d : Decimal}
    (h : x.onGrid? exponent = some d) : d.readsAs x = true := by
  unfold onGrid? at h
  dsimp only at h
  split at h
  · rename_i hbelow habove
    split at h
    · rwa [← Option.some.inj h]
    · split at h
      · rwa [← Option.some.inj h]
      · split at h
        · rwa [← Option.some.inj h]
        · rwa [← Option.some.inj h]
  · rename_i hbelow _
    rwa [← Option.some.inj h]
  · rename_i _ habove
    rwa [← Option.some.inj h]
  · cases h

/-- The decimal that a float is written with reads back as the float. -/
theorem ofDecimal?_shortest (x : Double) :
    ofDecimal? x.negative x.shortest.digits x.shortest.exponent = some x := by
  unfold shortest
  cases hfound : (List.range 17).findSome? fun (n : Nat) =>
      x.onGrid? (x.pointPosition - ((n : Int) + 1)) with
  | none => exact ofDecimal?_expansion x
  | some d =>
    obtain ⟨n, -, hgrid⟩ := List.exists_of_findSome?_eq_some hfound
    have hreads := readsAs_of_onGrid? hgrid
    unfold Decimal.readsAs at hreads
    exact eq_of_beq hreads

end Double
end HostLink
