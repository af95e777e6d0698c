import Mathlib
import TileLevel.Proofs.Coordinates
import TileLevel.Single.Shortest

/-!
# Decimals that Read Back

The interval of a magnitude was described as the reals that round to it. Here that is proved of the
rounding itself: a ratio in the interval rounds to the magnitude, also at the two ends if they
belong to the interval, and also just below a power of two, where the numbers lie closer together
than the magnitude's own spacing. The search for the shortest decimal ends with a point of the
interval, so the decimal reads back.

## Main definitions

- `Magnitude.significand`: the binary digits of a magnitude
- `Magnitude.Near`: the interval of a magnitude, for ratios
- `Decimal.value`: the rational number of a decimal

## Main statements

- `Magnitude.Near.roundUnits_eq`: a ratio in the interval of a magnitude rounds to it
- `Magnitude.nearest_of_value_eq`: a decimal with the value of the shortest one reads back
-/

namespace TileLevel.Single

/-! ## §1 Rounding to a natural number -/

theorem nearestEven_add {whole rest den : ℕ} (hrest : rest < den) :
    nearestEven (whole * den + rest) den =
      if 2 * rest < den ∨ (2 * rest = den ∧ whole % 2 = 0) then whole else whole + 1 := by
  have hden : 0 < den := Nat.zero_lt_of_lt hrest
  have hdiv : (whole * den + rest) / den = whole := by
    rw [Nat.mul_comm, Nat.mul_add_div hden, Nat.div_eq_of_lt hrest, Nat.add_zero]
  have hmod : (whole * den + rest) % den = rest := by
    rw [Nat.mul_comm, Nat.mul_add_mod, Nat.mod_eq_of_lt hrest]
  simp only [nearestEven, hdiv, hmod]

/-- A ratio that is no further than a half from a natural number rounds to it, if it is nearer than
    that or the number is even. -/
theorem nearestEven_eq {num den whole : ℕ} (hden : 0 < den)
    (hlower : 2 * (whole * den) ≤ 2 * num + den) (hupper : 2 * num ≤ 2 * (whole * den) + den)
    (hinner : whole % 2 = 1 →
      2 * (whole * den) < 2 * num + den ∧ 2 * num < 2 * (whole * den) + den) :
    nearestEven num den = whole := by
  rcases Nat.lt_or_ge num (whole * den) with hlt | hle
  · -- below the natural number: what is rounded up is the number before it
    obtain ⟨below, rfl⟩ : ∃ below, whole = below + 1 := by
      apply Nat.exists_eq_add_one_of_ne_zero
      rintro rfl
      simp at hlt
    rw [Nat.succ_mul below den] at hlower hupper hinner hlt
    obtain ⟨rest, rfl⟩ := Nat.exists_eq_add_of_le (show below * den ≤ num by omega)
    rw [nearestEven_add (by omega)]
    apply if_neg
    omega
  · obtain ⟨rest, rfl⟩ := Nat.exists_eq_add_of_le hle
    rw [nearestEven_add (by omega)]
    apply if_pos
    omega

/-! ## §2 Spacings and significands -/

theorem spacing_eq_zero {units : ℕ} (h : units < 2 ^ 24) : spacing units = 0 := by
  rcases Nat.eq_zero_or_pos units with rfl | hpos
  · rfl
  · have hlog := (Nat.log2_lt hpos.ne').mpr h
    unfold spacing
    omega

/-- Where the spacing is not the least one, 24 binary digits lie above it. -/
theorem le_of_spacing_pos {units : ℕ} (h : 0 < spacing units) :
    2 ^ 23 * 2 ^ spacing units ≤ units := by
  have hne : units ≠ 0 := by
    rintro rfl
    simp [spacing] at h
  have hexponent : 23 + spacing units = units.log2 := by
    unfold spacing at h ⊢
    omega
  rw [← Nat.pow_add, hexponent]
  exact Nat.log2_self_le hne

/-- The spacing between two powers of two. -/
theorem spacing_eq {units exponent : ℕ} (hlower : 2 ^ 23 * 2 ^ exponent ≤ units)
    (hupper : units < 2 ^ 24 * 2 ^ exponent) : spacing units = exponent := by
  rw [← Nat.pow_add] at hlower hupper
  have hne : units ≠ 0 := (Nat.lt_of_lt_of_le (Nat.two_pow_pos _) hlower).ne'
  have hle := (Nat.le_log2 hne).mpr hlower
  have hlt := (Nat.log2_lt hne).mpr hupper
  unfold spacing
  omega

namespace Magnitude

variable {m : Magnitude}

/-- The distance of the magnitude to the next one, in units. -/
def step (m : Magnitude) : ℕ :=
  2 ^ spacing m.units

/-- The binary digits of the magnitude, as a number. -/
def significand (m : Magnitude) : ℕ :=
  m.units / m.step

theorem step_pos (m : Magnitude) : 0 < m.step :=
  Nat.two_pow_pos _

theorem units_eq (m : Magnitude) : m.units = m.significand * m.step :=
  (Nat.div_mul_cancel m.representable.2).symm

theorem significand_lt (m : Magnitude) : m.significand < 2 ^ 24 := by
  rw [significand, Nat.div_lt_iff_lt_mul m.step_pos]
  exact lt_two_pow_spacing m.units

/-- There are 24 binary digits, unless the spacing is the least one. -/
theorem le_significand (h : 0 < spacing m.units) : 2 ^ 23 ≤ m.significand := by
  rw [significand, step, Nat.le_div_iff_mul_le (Nat.two_pow_pos _)]
  exact le_of_spacing_pos h

theorem isNarrow_iff : m.isNarrow ↔ 0 < spacing m.units ∧ m.significand = 2 ^ 23 := by
  have hunits : m.units = 2 ^ 23 * m.step ↔ m.significand = 2 ^ 23 := by
    rw [m.units_eq, Nat.mul_left_inj m.step_pos.ne']
  simp only [isNarrow, Bool.and_eq_true, decide_eq_true_eq, beq_iff_eq, Nat.pow_eq, Nat.pow_add]
  exact and_congr_right fun _ => hunits

/-! ## §3 Ratios near a magnitude -/

/-- How far below the magnitude its interval reaches, in quarters of a unit. -/
def lowerGap (m : Magnitude) : ℕ :=
  if m.isNarrow then m.step else 2 * m.step

/-- A ratio in the interval of a magnitude, all multiplied out: half a step to both sides, a quarter
    of one below a power of two, and the ends only if the significand is even. -/
structure Near (m : Magnitude) (num den : ℕ) : Prop where
  den_pos : 0 < den
  lower : 4 * (m.significand * (den * m.step)) ≤ 4 * num + 2 * (den * m.step)
  lower_narrow : m.isNarrow → 4 * (m.significand * (den * m.step)) ≤ 4 * num + den * m.step
  upper : 4 * num ≤ 4 * (m.significand * (den * m.step)) + 2 * (den * m.step)
  inner : m.significand % 2 = 1 →
    4 * (m.significand * (den * m.step)) < 4 * num + 2 * (den * m.step)
      ∧ 4 * num < 4 * (m.significand * (den * m.step)) + 2 * (den * m.step)

namespace Near

variable {num den : ℕ}

/-- Where the spacing is that of the magnitude, the ratio rounds to it. -/
theorem nearestEven_step (h : m.Near num den) : nearestEven num (den * m.step) = m.significand := by
  obtain ⟨hden, hlower, -, hupper, hinner⟩ := h
  apply nearestEven_eq (Nat.mul_pos hden m.step_pos)
  · omega
  · omega
  · omega

/-- Just below a power of two the steps are half as long, and the ratio rounds to it too. -/
theorem nearestEven_half {half : ℕ} (h : m.Near num den) (hnarrow : m.isNarrow)
    (hhalf : m.step = 2 * half) (hbelow : num < m.significand * (den * m.step)) :
    nearestEven num (den * half) = 2 ^ 24 := by
  have hlower := h.lower_narrow hnarrow
  have hpos : 0 < half := by
    have := m.step_pos
    omega
  obtain ⟨-, hsignificand⟩ := isNarrow_iff.mp hnarrow
  have hstep : den * m.step = 2 * (den * half) := by rw [hhalf, Nat.mul_left_comm]
  rw [hsignificand, hstep] at hlower hbelow
  apply nearestEven_eq (Nat.mul_pos h.den_pos hpos)
  · omega
  · omega
  · omega

theorem div_lt (h : m.Near num den) : num / den < 2 ^ 24 * m.step := by
  have hupper := h.upper
  have hnext := Nat.mul_le_mul_right (den * m.step) (Nat.succ_le_of_lt m.significand_lt)
  have hpos := Nat.mul_pos h.den_pos m.step_pos
  rw [Nat.div_lt_iff_lt_mul h.den_pos, Nat.mul_assoc, Nat.mul_comm m.step]
  rw [Nat.succ_mul] at hnext
  omega

theorem le_div (h : m.Near num den) (hspacing : 0 < spacing m.units) (hwide : ¬ m.isNarrow) :
    2 ^ 23 * m.step ≤ num / den := by
  have hlower := h.lower
  have hne : m.significand ≠ 2 ^ 23 := fun heq => hwide (isNarrow_iff.mpr ⟨hspacing, heq⟩)
  have hnext := Nat.mul_le_mul_right (den * m.step)
    (Nat.succ_le_of_lt (Nat.lt_of_le_of_ne (le_significand hspacing) hne.symm))
  rw [Nat.le_div_iff_mul_le h.den_pos, Nat.mul_assoc, Nat.mul_comm m.step]
  rw [Nat.succ_mul] at hnext
  omega

theorem half_le_div {half : ℕ} (h : m.Near num den) (hnarrow : m.isNarrow)
    (hhalf : m.step = 2 * half) : 2 ^ 23 * half ≤ num / den := by
  have hlower := h.lower_narrow hnarrow
  obtain ⟨-, hsignificand⟩ := isNarrow_iff.mp hnarrow
  have hstep : den * m.step = 2 * (den * half) := by rw [hhalf, Nat.mul_left_comm]
  rw [hsignificand, hstep] at hlower
  rw [Nat.le_div_iff_mul_le h.den_pos, Nat.mul_assoc, Nat.mul_comm half]
  omega

end Near

/-- **A ratio near a magnitude rounds to it.** -/
theorem Near.roundUnits_eq {num den : ℕ} (h : m.Near num den) : roundUnits num den = m.units := by
  have hround (hsame : spacing (num / den) = spacing m.units) :
      roundUnits num den = m.units := by
    simp only [roundUnits, Nat.pow_eq, hsame]
    show nearestEven num (den * m.step) * m.step = m.units
    rw [h.nearestEven_step, ← m.units_eq]
  rcases Nat.eq_zero_or_pos (spacing m.units) with hzero | hpos
  · -- the least spacing goes down to zero
    apply hround
    rw [hzero]
    apply spacing_eq_zero
    simpa [step, hzero] using h.div_lt
  · by_cases habove : 2 ^ 23 * m.step ≤ num / den
    · apply hround
      exact spacing_eq habove h.div_lt
    · -- below the power of two that the spacing begins with, so the magnitude is that power
      have hnarrow : m.isNarrow := by
        by_contra hwide
        exact habove (h.le_div hpos hwide)
      obtain ⟨exponent, hexponent⟩ := Nat.exists_eq_add_one_of_ne_zero hpos.ne'
      have hhalf : m.step = 2 * 2 ^ exponent := by rw [step, hexponent, Nat.pow_succ']
      obtain ⟨-, hsignificand⟩ := isNarrow_iff.mp hnarrow
      have hbelow : num < m.significand * (den * m.step) := by
        rw [Nat.not_le, Nat.div_lt_iff_lt_mul h.den_pos] at habove
        rw [hsignificand]
        linarith
      have hspacing : spacing (num / den) = exponent := by
        apply spacing_eq (h.half_le_div hnarrow hhalf)
        omega
      simp only [roundUnits, Nat.pow_eq, hspacing]
      rw [h.nearestEven_half hnarrow hhalf hbelow, m.units_eq, hsignificand, hhalf]
      ring

end Magnitude

/-! ## §4 Points of an interval -/

namespace RoundingInterval

theorem bounds_of_holds {i : RoundingInterval} {point : ℕ} (h : i.holds point) :
    i.lower ≤ point ∧ point ≤ i.upper
      ∧ (i.closed = false → i.lower < point ∧ point < i.upper) := by
  unfold holds at h
  split at h
  · simp_all
  · simp_all
    omega

end RoundingInterval

namespace Magnitude

variable {m : Magnitude}

theorem interval_lower (m : Magnitude) :
    m.interval.lower = (4 * m.units - m.lowerGap) * decimalUnits := rfl

theorem interval_upper (m : Magnitude) :
    m.interval.upper = (4 * m.units + 2 * m.step) * decimalUnits := rfl

theorem interval_closed (m : Magnitude) : m.interval.closed = (m.significand % 2 == 0) := rfl

theorem decimalUnits_pos : 0 < decimalUnits :=
  Nat.pow_pos (by omega)

/-- A ratio that is a point of the interval is near the magnitude. -/
theorem near_of_holds {num den point : ℕ} (hden : 0 < den)
    (hpoint : num * (4 * decimalUnits) = point * den) (h : m.interval.holds point) :
    m.Near num den := by
  have hscaled : point * den = 4 * num * decimalUnits := by
    rw [← hpoint]
    ring
  -- both sides in quarters of a unit, instead of decimal parts of them
  have hle (quarters : ℕ) : quarters * decimalUnits ≤ point ↔ quarters * den ≤ 4 * num := by
    rw [← Nat.mul_le_mul_right_iff hden, hscaled, Nat.mul_right_comm,
      Nat.mul_le_mul_right_iff decimalUnits_pos]
  have hge (quarters : ℕ) : point ≤ quarters * decimalUnits ↔ 4 * num ≤ quarters * den := by
    rw [← Nat.mul_le_mul_right_iff hden, hscaled, Nat.mul_right_comm quarters,
      Nat.mul_le_mul_right_iff decimalUnits_pos]
  have hupperEnd : (4 * m.units + 2 * m.step) * den
      = 4 * (m.significand * (den * m.step)) + 2 * (den * m.step) := by
    rw [m.units_eq]
    ring
  have hlowerEnd : (4 * m.units - m.lowerGap) * den
      = 4 * (m.significand * (den * m.step))
        - if m.isNarrow then den * m.step else 2 * (den * m.step) := by
    rw [Nat.sub_mul, m.units_eq, lowerGap]
    split <;> congr 1 <;> ring
  obtain ⟨hlower, hupper, hinner⟩ := RoundingInterval.bounds_of_holds h
  rw [interval_lower, hle, hlowerEnd] at hlower
  rw [interval_upper, hge, hupperEnd] at hupper
  rw [interval_lower, interval_upper, interval_closed, ← Nat.not_le, ← Nat.not_le, hle, hge,
    hlowerEnd, hupperEnd] at hinner
  refine ⟨hden, ?lower, ?narrow, hupper, ?inner⟩
  case lower => split at hlower <;> omega
  case narrow =>
    intro hnarrow
    rw [if_pos hnarrow] at hlower
    omega
  case inner =>
    intro hodd
    have hwide : ¬ m.isNarrow := by
      rw [isNarrow_iff]
      rintro ⟨-, hpower⟩
      omega
    rw [if_neg hwide] at hinner
    have := hinner (by simp [hodd])
    omega

end Magnitude

/-! ## §5 Decimals -/

namespace Decimal

/-- The rational number of a decimal. -/
def value (decimal : Decimal) : ℚ :=
  decimal.digits * 10 ^ decimal.exponent

/-- The number nearest to a decimal, with the given sign. -/
def nearest (negative : Bool) (decimal : Decimal) : Single :=
  ofDecimal negative (decimal.digits * 10 ^ decimal.exponent.toNat) (-decimal.exponent).toNat

/-- The rational number as a quotient of two natural ones. -/
theorem value_eq_div (decimal : Decimal) :
    decimal.value =
      (decimal.digits * 10 ^ decimal.exponent.toNat : ℕ)
        / (10 ^ (-decimal.exponent).toNat : ℕ) := by
  obtain ⟨digits, exponent⟩ := decimal
  simp only [value]
  rcases Int.le_total 0 exponent with h | h
  · obtain ⟨k, rfl⟩ := Int.eq_ofNat_of_zero_le h
    simp
  · obtain ⟨k, hk⟩ := Int.eq_ofNat_of_zero_le (Int.neg_nonneg_of_nonpos h)
    obtain rfl : exponent = -k := by omega
    simp [div_eq_mul_inv]

/-- **A decimal in the interval of a magnitude reads back as the magnitude.** -/
theorem nearest_of_holds {m : Magnitude} {decimal : Decimal} {point : ℕ}
    (hpoint : decimal.value * (4 * 10 ^ 149) = point) (h : m.interval.holds point)
    (negative : Bool) : decimal.nearest negative = .finite negative m := by
  have hden : 0 < 10 ^ (-decimal.exponent).toNat := Nat.pow_pos (by omega)
  have hratio : decimal.digits * 10 ^ decimal.exponent.toNat * unitsPerOne
      * (4 * Magnitude.decimalUnits) = point * 10 ^ (-decimal.exponent).toNat := by
    rw [value_eq_div, div_mul_eq_mul_div, div_eq_iff (by positivity)] at hpoint
    have hparts : unitsPerOne * Magnitude.decimalUnits = 10 ^ 149 := (Nat.mul_pow 2 5 149).symm
    calc decimal.digits * 10 ^ decimal.exponent.toNat * unitsPerOne * (4 * Magnitude.decimalUnits)
        = decimal.digits * 10 ^ decimal.exponent.toNat
          * (4 * (unitsPerOne * Magnitude.decimalUnits)) := by ring
      _ = decimal.digits * 10 ^ decimal.exponent.toNat * (4 * 10 ^ 149) := by rw [hparts]
      _ = point * 10 ^ (-decimal.exponent).toNat := by exact_mod_cast hpoint
  exact ofUnitsRatio_eq_finite (Magnitude.near_of_holds hden hratio h).roundUnits_eq negative

end Decimal

namespace RoundingInterval

variable {i : RoundingInterval} {tie : TieRule}

theorem holds_of_onGrid? {grid digits : ℕ} (h : i.onGrid? tie grid = some digits) :
    i.holds (digits * (4 * 10 ^ grid)) := by
  simp only [onGrid?, Nat.pow_eq] at h
  split at h
  case h_1 hbelow habove =>
    -- both neighbours are in the interval, so whichever is taken is
    cases tie <;> simp only at h <;> split_ifs at h <;> cases h <;> assumption
  case h_2 hbelow _ =>
    cases h
    exact hbelow
  case h_3 _ habove =>
    cases h
    exact habove
  case h_4 => cases h

/-- The search ends with a point of the interval. -/
theorem holds_shortestFrom (hmiddle : i.holds i.middle) (hfour : 4 ∣ i.middle) (grid : ℕ) :
    ∃ point : ℕ, (i.shortestFrom tie grid).value * (4 * 10 ^ 149) = point ∧ i.holds point := by
  induction grid with
  | zero =>
    refine ⟨i.middle, ?_, hmiddle⟩
    obtain ⟨quarter, hquarter⟩ := hfour
    have hpower : (10 : ℚ) ^ (-149 : ℤ) * 10 ^ 149 = 1 := by
      rw [zpow_neg]
      exact inv_mul_cancel₀ (by positivity)
    rw [shortestFrom, Decimal.value, hquarter, Nat.mul_div_cancel_left quarter (by omega)]
    push_cast
    linear_combination (4 * (quarter : ℚ)) * hpower
  | succ grid ih =>
    simp only [shortestFrom]
    split
    case h_1 digits hdigits =>
      refine ⟨_, ?_, holds_of_onGrid? hdigits⟩
      have hpower : (10 : ℚ) ^ (((grid + 1 : ℕ) : ℤ) - 149) * 10 ^ 149 = 10 ^ (grid + 1) := by
        rw [zpow_sub₀ (by norm_num), zpow_natCast]
        exact div_mul_cancel₀ _ (by positivity)
      rw [Decimal.value]
      push_cast at hpower ⊢
      linear_combination (4 * (digits : ℚ)) * hpower
    case h_2 => exact ih

end RoundingInterval

/-! ## §6 The shortest decimal -/

namespace Magnitude

variable {m : Magnitude} {tie : TieRule}

theorem interval_middle (m : Magnitude) : m.interval.middle = 4 * m.units * decimalUnits := rfl

theorem lowerGap_pos (m : Magnitude) : 0 < m.lowerGap := by
  have hstep := m.step_pos
  unfold lowerGap
  split <;> omega

theorem lowerGap_lt (h : m.units ≠ 0) : m.lowerGap < 4 * m.units := by
  have hpos : 0 < m.significand := by
    rw [Nat.pos_iff_ne_zero]
    intro hzero
    apply h
    rw [m.units_eq, hzero, Nat.zero_mul]
  have hstep : m.step ≤ m.units := by
    rw [m.units_eq]
    exact Nat.le_mul_of_pos_left _ hpos
  have := m.step_pos
  unfold lowerGap
  split <;> omega

/-- A magnitude lies in its interval, and not at an end of it. -/
theorem holds_middle (m : Magnitude) : m.interval.holds m.interval.middle := by
  have hpos := decimalUnits_pos
  have hstep := m.step_pos
  have hupper : m.interval.middle < m.interval.upper := by
    rw [interval_middle, interval_upper]
    apply Nat.mul_lt_mul_of_pos_right _ hpos
    omega
  unfold RoundingInterval.holds
  split
  case isTrue =>
    have hlower : m.interval.lower ≤ m.interval.middle := by
      rw [interval_middle, interval_lower]
      apply Nat.mul_le_mul_right
      omega
    simp [hlower, hupper.le]
  case isFalse hopen =>
    -- the significand is odd, so the magnitude is not zero
    have hne : m.units ≠ 0 := by
      intro hzero
      rw [interval_closed, significand, hzero] at hopen
      simp at hopen
    have hlower : m.interval.lower < m.interval.middle := by
      rw [interval_middle, interval_lower]
      apply Nat.mul_lt_mul_of_pos_right _ hpos
      have := m.lowerGap_pos
      omega
    simp [hlower, hupper]

/-- Zero lies in no interval but its own. -/
theorem not_holds_zero (h : m.units ≠ 0) : ¬ m.interval.holds 0 := by
  intro hholds
  have hlower := (RoundingInterval.bounds_of_holds hholds).1
  have hgap := lowerGap_lt h
  rw [interval_lower, Nat.le_zero, Nat.mul_eq_zero] at hlower
  have := decimalUnits_pos
  omega

theorem exists_point_shortest (m : Magnitude) (tie : TieRule) :
    ∃ point : ℕ, (m.shortest tie).value * (4 * 10 ^ 149) = point ∧ m.interval.holds point := by
  apply RoundingInterval.holds_shortestFrom m.holds_middle
  exact ⟨m.units * decimalUnits, by rw [interval_middle, Nat.mul_assoc]⟩

/-- **The shortest decimal reads back**, however its value is written. -/
theorem nearest_of_value_eq {decimal : Decimal} (h : decimal.value = (m.shortest tie).value)
    (negative : Bool) : decimal.nearest negative = .finite negative m := by
  obtain ⟨point, hpoint, hholds⟩ := m.exists_point_shortest tie
  rw [← h] at hpoint
  exact Decimal.nearest_of_holds hpoint hholds negative

/-- Only zero is written with the digit zero alone. -/
theorem digits_shortest_pos (h : m.units ≠ 0) : 0 < (m.shortest tie).digits := by
  rw [Nat.pos_iff_ne_zero]
  intro hzero
  obtain ⟨point, hpoint, hholds⟩ := m.exists_point_shortest tie
  have hpoint : point = 0 := by
    rw [Decimal.value, hzero] at hpoint
    exact_mod_cast (by simpa using hpoint.symm : (point : ℚ) = 0)
  rw [hpoint] at hholds
  exact not_holds_zero h hholds

theorem nearest_of_value_eq_zero {decimal : Decimal} (hvalue : decimal.value = 0) (h : m.units = 0)
    (negative : Bool) : decimal.nearest negative = .finite negative m := by
  have hmiddle : m.interval.middle = 0 := by rw [interval_middle, h, Nat.mul_zero, Nat.zero_mul]
  have hholds := m.holds_middle
  rw [hmiddle] at hholds
  exact Decimal.nearest_of_holds (by simp [hvalue]) hholds negative

end Magnitude

end TileLevel.Single
