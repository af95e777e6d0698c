import TileLevel.Single.Basic

/-!
# Rounding to Single Precision

A ratio of natural numbers goes to the nearest number of the format, and one that lies half way
between two goes to the one with the even last digit. A ratio that would round to `2^128` or more is
infinite.

## Main statements

- `Single.representable_roundUnits`: rounding gives magnitudes of the format
-/

namespace TileLevel.Single

/-- The natural number nearest to `num / den`, the even one of two that are equally near. -/
def nearestEven (num den : Nat) : Nat :=
  let floor := num / den
  let rest := num % den
  if 2 * rest < den ∨ (2 * rest = den ∧ floor % 2 = 0) then floor else floor + 1

/-- The magnitude nearest to `num / den`, both in units: a multiple of the spacing there. -/
def roundUnits (num den : Nat) : Nat :=
  let step := Nat.pow 2 (spacing (num / den))
  nearestEven num (den * step) * step

/-! ## §1 Rounding stays in the format -/

theorem nearestEven_le (num den : Nat) : nearestEven num den ≤ num / den + 1 := by
  unfold nearestEven
  dsimp only
  split <;> omega

theorem lt_two_pow_spacing (units : Nat) :
    units < Nat.pow 2 24 * Nat.pow 2 (spacing units) := by
  have h : units < Nat.pow 2 (units.log2 + 1) := Nat.lt_log2_self
  simp only [Nat.pow_eq] at h ⊢
  rw [← Nat.pow_add]
  refine Nat.lt_of_lt_of_le h (Nat.pow_le_pow_right (by omega) ?_)
  unfold spacing
  omega

/-- At most 24 binary digits times a power of two have no more than 24 significant ones. -/
theorem two_pow_spacing_dvd_mul {digits step : Nat} (h : digits ≤ Nat.pow 2 24) :
    Nat.pow 2 (spacing (digits * Nat.pow 2 step)) ∣ digits * Nat.pow 2 step := by
  simp only [Nat.pow_eq] at h ⊢
  rcases Nat.eq_zero_or_pos digits with rfl | hpos
  · simp [spacing]
  rcases Nat.lt_or_eq_of_le h with hlt | rfl
  · have hne := Nat.ne_of_gt (Nat.mul_pos hpos (Nat.two_pow_pos step))
    have hlog := (Nat.log2_lt hne).mpr
      (Nat.lt_of_lt_of_eq (Nat.mul_lt_mul_of_pos_right hlt (Nat.two_pow_pos step))
        (Nat.pow_add 2 24 step).symm)
    refine Nat.dvd_trans (Nat.pow_dvd_pow 2 ?_) (Nat.dvd_mul_left _ _)
    unfold spacing
    omega
  · rw [← Nat.pow_add]
    refine Nat.pow_dvd_pow 2 ?_
    unfold spacing
    rw [Nat.log2_two_pow]
    omega

/-- At the spacing around a ratio, no more than 24 binary digits are kept of it. -/
theorem nearestEven_spacing_le (num den : Nat) :
    nearestEven num (den * Nat.pow 2 (spacing (num / den))) ≤ Nat.pow 2 24 := by
  have hle := nearestEven_le num (den * Nat.pow 2 (spacing (num / den)))
  have hpos : 0 < Nat.pow 2 (spacing (num / den)) := Nat.two_pow_pos _
  have hlt : num / (den * Nat.pow 2 (spacing (num / den))) < Nat.pow 2 24 := by
    rw [← Nat.div_div_eq_div_mul, Nat.div_lt_iff_lt_mul hpos]
    exact lt_two_pow_spacing _
  exact Nat.le_trans hle hlt

/-- Rounding gives magnitudes of the format, unless the result is too large for it. -/
theorem representable_roundUnits {num den : Nat} (h : roundUnits num den < unitsLimit) :
    Representable (roundUnits num den) := by
  refine ⟨h, two_pow_spacing_dvd_mul ?_⟩
  exact nearestEven_spacing_le num den

/-! ## §2 Numbers from ratios -/

/-- The number nearest to `num / den`, both in units, with the given sign. -/
def ofUnitsRatio (negative : Bool) (num den : Nat) : Single :=
  if h : roundUnits num den < unitsLimit then
    .finite negative ⟨roundUnits num den, representable_roundUnits h⟩
  else .infinite negative

/-- The number nearest to a natural number. -/
def ofNat (n : Nat) : Single :=
  ofUnitsRatio false (n * unitsPerOne) 1

/-- The number nearest to `mantissa / 10^places`, with the given sign. -/
def ofDecimal (negative : Bool) (mantissa places : Nat) : Single :=
  ofUnitsRatio negative (mantissa * unitsPerOne) (Nat.pow 10 places)

end TileLevel.Single
