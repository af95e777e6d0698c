import Mathlib
import TileLevel.Proofs.Nearest
import TileLevel.Proofs.Values

/-!
# Rounding Finds the Nearest Number

Rounding was described by a division: the quotient by the spacing, and one more if the rest is large.
Here it is proved to be what its name says. No number of the format is nearer to the ratio than the
one that it is rounded to, and if another is as near, the last binary digit of the rounded one is
zero. Between two numbers that both end in zero there is always a third, so at most one number is
the nearest in this sense, and to be the nearest is all that it takes to keep the order.

## Main definitions

- `Single.Preferred`: the better of two approximations of a rational number
- `Single.IsNearest`: the number that a rational number is rounded to

## Main statements

- `Single.preferred_roundUnits`: rounding is preferred to every other magnitude
- `Single.IsNearest.unique`: there is no other nearest number
- `Single.IsNearest.mono`: nearest numbers are in the order of what they approximate
- `Single.isNearest_ofNat`: natural numbers are rounded to the nearest number
-/

namespace TileLevel.Single

/-! ## §1 Approximations -/

/-- Of two approximations of a rational number the first is preferred to the second: it is nearer,
    or it is as near and even. -/
def Preferred (q v w : ℚ) (even : Prop) : Prop :=
  |v - q| < |w - q| ∨ (|v - q| = |w - q| ∧ even)

namespace Preferred

variable {q v w : ℚ} {even even' : Prop}

theorem le (h : Preferred q v w even) : |v - q| ≤ |w - q| := by
  rcases h with hlt | ⟨heq, -⟩
  · exact hlt.le
  · exact heq.le

theorem mono (h : Preferred q v w even) (himp : even → even') : Preferred q v w even' :=
  h.imp_right (And.imp_right himp)

/-- Approximations can be measured in another unit. -/
theorem mul {scale : ℚ} (hscale : 0 < scale) (h : Preferred q v w even) :
    Preferred (q * scale) (v * scale) (w * scale) even := by
  have hdistance (u : ℚ) : |u * scale - q * scale| = |u - q| * scale := by
    rw [← sub_mul, abs_mul, abs_of_pos hscale]
  unfold Preferred
  rwa [hdistance, hdistance, mul_lt_mul_iff_left₀ hscale, mul_left_inj' hscale.ne']

/-- Two approximations that are preferred to each other are equally near, and both are even. -/
theorem tie (h : Preferred q v w even) (h' : Preferred q w v even') :
    |v - q| = |w - q| ∧ even ∧ even' := by
  rcases h with hlt | ⟨heq, heven⟩
  · exact absurd h'.le hlt.not_ge
  · rcases h' with hlt' | ⟨-, heven'⟩
    · exact absurd heq.le hlt'.not_ge
    · exact ⟨heq, heven, heven'⟩

end Preferred

/-- What lies between two equally near approximations is nearer. -/
theorem abs_sub_lt_of_between {q v w u : ℚ} (htie : |v - q| = |w - q|)
    (hbetween : v < u ∧ u < w ∨ w < u ∧ u < v) : |u - q| < |v - q| := by
  rcases abs_eq_abs.mp htie with hsame | hopposite
  · exfalso
    rcases hbetween with ⟨hv, hw⟩ | ⟨hw, hv⟩ <;> linarith
  · -- the two are as far below as above
    rcases hbetween with ⟨hv, hw⟩ | ⟨hw, hv⟩
    · have hbelow : v - q < 0 := by linarith
      rw [abs_of_neg hbelow, abs_lt]
      constructor <;> linarith
    · have habove : 0 < v - q := by linarith
      rw [abs_of_pos habove, abs_lt]
      constructor <;> linarith

/-- Which of two approximations is nearer depends on which side of their middle is meant. -/
theorem abs_sub_le_abs_sub_iff {q v w : ℚ} :
    |v - q| ≤ |w - q| ↔ (v - w) * (v + w - 2 * q) ≤ 0 := by
  have hsquares : (v - q) ^ 2 - (w - q) ^ 2 = (v - w) * (v + w - 2 * q) := by ring
  rw [← sq_le_sq, ← hsquares, sub_nonpos]

/-! ## §2 Nearest natural numbers -/

theorem le_nearestEven (num den : ℕ) : num / den ≤ nearestEven num den := by
  unfold nearestEven
  dsimp only
  split <;> omega

/-- Rounding to a natural number moves a ratio by a half at most, and by less than that if the
    number is odd. -/
theorem nearestEven_bounds (num : ℕ) {den : ℕ} (hden : 0 < den) :
    2 * (nearestEven num den * den) ≤ 2 * num + den
      ∧ 2 * num ≤ 2 * (nearestEven num den * den) + den
      ∧ (nearestEven num den % 2 = 1 → 2 * (nearestEven num den * den) < 2 * num + den
        ∧ 2 * num < 2 * (nearestEven num den * den) + den) := by
  have hrest := Nat.mod_lt num hden
  have hparts : num / den * den + num % den = num := Nat.div_add_mod' num den
  have hround : nearestEven (num / den * den + num % den) den = _ := nearestEven_add hrest
  rw [hparts] at hround
  by_cases hdown : 2 * (num % den) < den ∨ (2 * (num % den) = den ∧ num / den % 2 = 0)
  · rw [hround, if_pos hdown]
    omega
  · rw [hround, if_neg hdown, Nat.succ_mul (num / den)]
    omega

theorem abs_nearestEven_sub (num : ℕ) {den : ℕ} (hden : 0 < den) :
    |(nearestEven num den : ℚ) - num / den| ≤ 1 / 2
      ∧ (nearestEven num den % 2 = 1 → |(nearestEven num den : ℚ) - num / den| < 1 / 2) := by
  have hpos : (0 : ℚ) < 2 * den := by positivity
  have hdistance : |(nearestEven num den : ℚ) - num / den|
      = |(2 * (nearestEven num den * den) - 2 * num : ℚ)| / (2 * den) := by
    rw [← abs_of_pos hpos, ← abs_div]
    congr 1
    field_simp
  have hhalf : (1 : ℚ) / 2 = den / (2 * den) := by field_simp
  obtain ⟨hlower, hupper, hodd⟩ := nearestEven_bounds num hden
  rw [hdistance, hhalf, div_le_div_iff_of_pos_right hpos, div_lt_div_iff_of_pos_right hpos,
    abs_sub_le_iff, abs_sub_lt_iff, sub_le_iff_le_add', sub_le_iff_le_add', sub_lt_iff_lt_add',
    sub_lt_iff_lt_add']
  refine ⟨⟨?below, ?above⟩, fun hlast => ⟨?strictlyBelow, ?strictlyAbove⟩⟩
  case below => exact_mod_cast hlower
  case above => exact_mod_cast hupper
  case strictlyBelow => exact_mod_cast (hodd hlast).1
  case strictlyAbove => exact_mod_cast (hodd hlast).2

/-- Rounding to a natural number is preferred to every other natural number. -/
theorem preferred_nearestEven {num den whole : ℕ} (hden : 0 < den)
    (hne : whole ≠ nearestEven num den) :
    Preferred (num / den) (nearestEven num den) whole (nearestEven num den % 2 = 0) := by
  obtain ⟨hhalf, hodd⟩ := abs_nearestEven_sub num hden
  -- two natural numbers are one apart at least, so the other one is a half away or more
  have hapart : (1 : ℚ) ≤ |(whole : ℚ) - nearestEven num den| := by
    have hint : (1 : ℤ) ≤ |(whole : ℤ) - nearestEven num den| :=
      Int.one_le_abs (sub_ne_zero.mpr (by exact_mod_cast hne))
    exact_mod_cast hint
  have htriangle := abs_sub_le (whole : ℚ) (num / den) (nearestEven num den)
  rw [abs_sub_comm (num / den : ℚ)] at htriangle
  rcases Nat.mod_two_eq_zero_or_one (nearestEven num den) with heven | hlast
  · have hle : |(nearestEven num den : ℚ) - num / den| ≤ |(whole : ℚ) - num / den| := by linarith
    exact hle.lt_or_eq.imp_right fun heq => ⟨heq, heven⟩
  · have hlt := hodd hlast
    left
    linarith

/-! ## §3 Nearest magnitudes -/

section Grid

variable {num den : ℕ}

/-- Rounding to a multiple of a step is preferred to every other multiple. -/
theorem preferred_multiple {step whole : ℕ} (hden : 0 < den) (hstep : 0 < step)
    (hne : whole ≠ nearestEven num (den * step)) :
    Preferred (num / den) ((nearestEven num (den * step) * step : ℕ) : ℚ) ((whole * step : ℕ) : ℚ)
      (nearestEven num (den * step) % 2 = 0) := by
  have hpos : (0 : ℚ) < step := by exact_mod_cast hstep
  have hscaled := (preferred_nearestEven (Nat.mul_pos hden hstep) hne).mul hpos
  have hratio : (num : ℚ) / (den * step : ℕ) * step = num / den := by
    push_cast
    field_simp
  rw [hratio] at hscaled
  exact_mod_cast hscaled

theorem abs_multiple_sub_le {step : ℕ} (hden : 0 < den) (hstep : 0 < step) (num whole : ℕ) :
    |((nearestEven num (den * step) * step : ℕ) : ℚ) - num / den|
      ≤ |((whole * step : ℕ) : ℚ) - num / den| := by
  by_cases hne : whole = nearestEven num (den * step)
  · rw [hne]
  · exact (preferred_multiple hden hstep hne).le

/-- The spacing around a number that is given by its binary digits. -/
theorem spacing_mul {digits exponent : ℕ} (hlt : digits < 2 ^ 24)
    (hnormal : exponent = 0 ∨ 2 ^ 23 ≤ digits) : spacing (digits * 2 ^ exponent) = exponent := by
  rcases hnormal with rfl | hle
  · apply spacing_eq_zero
    rwa [pow_zero, Nat.mul_one]
  · apply spacing_eq
    · exact Nat.mul_le_mul_right _ hle
    · exact Nat.mul_lt_mul_of_pos_right hlt (Nat.two_pow_pos exponent)

/-- Even digits are those of an even significand, also where there is one digit too many: that is
    just so for a power of two, which is the first number with the next spacing. -/
theorem significand_mul_even {digits exponent : ℕ} (hle : digits ≤ 2 ^ 24)
    (hnormal : exponent = 0 ∨ 2 ^ 23 ≤ digits) (heven : digits % 2 = 0) :
    digits * 2 ^ exponent / 2 ^ spacing (digits * 2 ^ exponent) % 2 = 0 := by
  rcases hle.lt_or_eq with hlt | rfl
  · rwa [spacing_mul hlt hnormal, Nat.mul_div_cancel _ (Nat.two_pow_pos exponent)]
  · have hcarry : 2 ^ 24 * 2 ^ exponent = 2 ^ 23 * 2 ^ (exponent + 1) := by ring
    rw [hcarry, spacing_mul (by norm_num) (.inr le_rfl), Nat.mul_div_cancel _ (Nat.two_pow_pos _)]
    rfl

/-- A ratio is rounded to 24 binary digits, unless the spacing is the least one. -/
theorem normal_nearestEven (num den : ℕ) :
    spacing (num / den) = 0 ∨ 2 ^ 23 ≤ nearestEven num (den * 2 ^ spacing (num / den)) := by
  rcases Nat.eq_zero_or_pos (spacing (num / den)) with hzero | hpos
  · exact .inl hzero
  · right
    calc 2 ^ 23 ≤ num / den / 2 ^ spacing (num / den) :=
        (Nat.le_div_iff_mul_le (Nat.two_pow_pos _)).mpr (le_of_spacing_pos hpos)
      _ = num / (den * 2 ^ spacing (num / den)) := Nat.div_div_eq_div_mul ..
      _ ≤ nearestEven num (den * 2 ^ spacing (num / den)) := le_nearestEven ..

/-- A number with a finer spacing is below the power of two at which the coarser one begins. -/
theorem lt_of_spacing_lt {units other : ℕ} (h : spacing units < spacing other) :
    units < 2 ^ 23 * 2 ^ spacing other :=
  calc units < 2 ^ 24 * 2 ^ spacing units := lt_two_pow_spacing units
    _ = 2 ^ 23 * 2 ^ (spacing units + 1) := by ring
    _ ≤ 2 ^ 23 * 2 ^ spacing other := Nat.mul_le_mul_left _ (Nat.pow_le_pow_right (by omega) h)

/-- Numbers with a finer spacing than the ratio are further away than what it is rounded to, since
    the power of two between them and the ratio is a multiple of the spacing. -/
theorem abs_roundUnits_sub_lt_of_finer {units : ℕ} (hden : 0 < den)
    (hfine : spacing units < spacing (num / den)) :
    |(roundUnits num den : ℚ) - num / den| < |(units : ℚ) - num / den| := by
  have hbelow : (units : ℚ) < (2 ^ 23 * 2 ^ spacing (num / den) : ℕ) := by
    exact_mod_cast lt_of_spacing_lt hfine
  have hbegin : 2 ^ 23 * 2 ^ spacing (num / den) ≤ num / den := le_of_spacing_pos (by omega)
  have hratio : ((2 ^ 23 * 2 ^ spacing (num / den) : ℕ) : ℚ) ≤ num / den :=
    le_trans (by exact_mod_cast hbegin) Nat.cast_div_le
  calc |(roundUnits num den : ℚ) - num / den|
      ≤ |((2 ^ 23 * 2 ^ spacing (num / den) : ℕ) : ℚ) - num / den| :=
        abs_multiple_sub_le hden (Nat.two_pow_pos _) num (2 ^ 23)
    _ = num / den - (2 ^ 23 * 2 ^ spacing (num / den) : ℕ) := by
        rw [abs_of_nonpos (sub_nonpos.mpr hratio), neg_sub]
    _ < num / den - units := sub_lt_sub_left hbelow _
    _ = |(units : ℚ) - num / den| := by
        rw [abs_of_neg (sub_neg.mpr (hbelow.trans_le hratio)), neg_sub]

/-- **Rounding is preferred to every other magnitude of the format.** -/
theorem preferred_roundUnits {units : ℕ} (hden : 0 < den) (hunits : 2 ^ spacing units ∣ units)
    (hne : units ≠ roundUnits num den) :
    Preferred (num / den) (roundUnits num den) units
      (roundUnits num den / 2 ^ spacing (roundUnits num den) % 2 = 0) := by
  rcases Nat.lt_or_ge (spacing units) (spacing (num / den)) with hfine | hcoarse
  · left
    exact abs_roundUnits_sub_lt_of_finer hden hfine
  · -- the other magnitude is a multiple of the spacing of the ratio
    obtain ⟨whole, rfl⟩ : 2 ^ spacing (num / den) ∣ units :=
      (Nat.pow_dvd_pow 2 hcoarse).trans hunits
    have hround : roundUnits num den
        = nearestEven num (den * 2 ^ spacing (num / den)) * 2 ^ spacing (num / den) := rfl
    have hother : whole ≠ nearestEven num (den * 2 ^ spacing (num / den)) := by
      rintro rfl
      exact hne (Nat.mul_comm ..)
    rw [hround, Nat.mul_comm _ whole]
    apply (preferred_multiple hden (Nat.two_pow_pos _) hother).mono
    exact significand_mul_even (nearestEven_spacing_le num den) (normal_nearestEven num den)

end Grid

/-! ## §4 Nearest numbers -/

/-- The last of the binary digits is zero. -/
def EndsEven : Single → Prop
  | .finite _ m => m.significand % 2 = 0
  | _ => False

def isNegative : Single → Bool
  | .finite negative _ => negative
  | .infinite negative => negative
  | .nan => false

/-- The number that a rational number is rounded to: preferred to all others, and with the sign of
    the rational number, where zero counts as positive. -/
structure IsNearest (x : Single) (q : ℚ) : Prop where
  sign : x.isNegative = decide (q < 0)
  preferred : ∃ v, x.value? = some v
    ∧ ∀ (y : Single) (w : ℚ), y.value? = some w → w ≠ v → Preferred q v w x.EndsEven

/-- Above a number that ends in zero, and below the next such number, there is another number. -/
theorem Magnitude.exists_between {m n : Magnitude} (hm : m.significand % 2 = 0)
    (hn : n.significand % 2 = 0) (h : m.units < n.units) :
    ∃ k : Magnitude, m.units < k.units ∧ k.units < n.units := by
  -- the next magnitude ends in one
  have hnext : m.units + m.step = (m.significand + 1) * m.step := by
    rw [Nat.succ_mul, ← m.units_eq]
  have hdigits : m.significand + 1 < 2 ^ 24 := by
    have := m.significand_lt
    omega
  have hle : m.units + m.step ≤ n.units := by
    obtain ⟨whole, hwhole⟩ : m.step ∣ n.units :=
      (Nat.pow_dvd_pow 2 (spacing_mono h.le)).trans n.representable.2
    rw [m.units_eq, hwhole, Nat.mul_comm m.step, Nat.mul_lt_mul_right m.step_pos] at h
    rw [hnext, hwhole, Nat.mul_comm m.step]
    exact Nat.mul_le_mul_right m.step h
  have hne : m.units + m.step ≠ n.units := by
    intro heq
    have hnormal : spacing m.units = 0 ∨ 2 ^ 23 ≤ m.significand + 1 := by
      rcases Nat.eq_zero_or_pos (spacing m.units) with hzero | hpos
      · exact .inl hzero
      · exact .inr ((le_significand hpos).trans (Nat.le_succ _))
    have hodd : n.significand = m.significand + 1 := by
      rw [significand, step, ← heq, hnext, step, spacing_mul hdigits hnormal,
        Nat.mul_div_cancel _ (Nat.two_pow_pos _)]
    omega
  refine ⟨⟨m.units + m.step, hle.trans_lt n.representable.1, ?_⟩,
    Nat.lt_add_of_pos_right m.step_pos, hle.lt_of_ne hne⟩
  rw [hnext]
  exact two_pow_spacing_dvd_mul hdigits.le

/-- With one sign, values are in the order of the magnitudes, or the other way round. -/
theorem value_lt_of_units_lt {negative : Bool} {m n : Magnitude} {v w : ℚ}
    (hv : value? (.finite negative m) = some v) (hw : value? (.finite negative n) = some w)
    (h : m.units < n.units) : if negative then w < v else v < w := by
  obtain rfl := Option.some.inj hv
  obtain rfl := Option.some.inj hw
  have hlt : (m.units : ℚ) / unitsPerOne < n.units / unitsPerOne :=
    div_lt_div_of_pos_right (by exact_mod_cast h) unitsPerOne_pos
  cases negative <;> simpa using hlt

/-- A number that is not below zero has the value of a magnitude. -/
theorem exists_units_of_nonneg {x : Single} {v : ℚ} (hv : x.value? = some v) (h : 0 ≤ v) :
    ∃ m : Magnitude, v = m.units / unitsPerOne := by
  cases x with
  | finite negative m =>
    obtain rfl := Option.some.inj hv
    refine ⟨m, ?_⟩
    have hmagnitude : (0 : ℚ) ≤ m.units / unitsPerOne := by positivity
    cases negative
    · simp
    · -- the negative zero
      simp only [if_true, neg_one_mul] at h ⊢
      linarith
  | infinite negative => cases hv
  | nan => cases hv

namespace IsNearest

variable {x y : Single} {q p : ℚ}

theorem exists_eq_finite (h : x.IsNearest q) :
    ∃ m, x = .finite (decide (q < 0)) m := by
  obtain ⟨hsign, v, hvalue, -⟩ := h
  cases x with
  | finite negative m =>
    subst hsign
    exact ⟨m, rfl⟩
  | infinite negative => cases hvalue
  | nan => cases hvalue

/-- No number is nearer. -/
theorem abs_sub_le (h : x.IsNearest q) {v w : ℚ} (hx : x.value? = some v)
    (hy : y.value? = some w) : |v - q| ≤ |w - q| := by
  obtain ⟨-, v', hv, hpreferred⟩ := h
  obtain rfl : v' = v := Option.some.inj (hv.symm.trans hx)
  by_cases hne : w = v'
  · rw [hne]
  · exact (hpreferred y w hy hne).le

private theorem not_units_lt {negative : Bool} {m n : Magnitude}
    (hm : (Single.finite negative m).IsNearest q) (hn : (Single.finite negative n).IsNearest q) :
    ¬ m.units < n.units := by
  intro hlt
  obtain ⟨-, v, hv, hpreferred⟩ := id hm
  obtain ⟨-, w, hw, hpreferred'⟩ := hn
  have hne : w ≠ v := by
    have horder := value_lt_of_units_lt hv hw hlt
    cases negative
    · exact horder.ne'
    · exact horder.ne
  -- each is preferred to the other, so both end in zero, and there is a number between them
  obtain ⟨htie, heven, heven'⟩ := (hpreferred _ w hw hne).tie (hpreferred' _ v hv hne.symm)
  obtain ⟨k, hlower, hupper⟩ := Magnitude.exists_between heven heven' hlt
  obtain ⟨u, hu⟩ : ∃ u, value? (.finite negative k) = some u := ⟨_, rfl⟩
  have hbetween : v < u ∧ u < w ∨ w < u ∧ u < v := by
    have hfirst := value_lt_of_units_lt hv hu hlower
    have hsecond := value_lt_of_units_lt hu hw hupper
    cases negative
    · exact .inl ⟨hfirst, hsecond⟩
    · exact .inr ⟨hsecond, hfirst⟩
  exact (abs_sub_lt_of_between htie hbetween).not_ge (hm.abs_sub_le hv hu)

/-- **There is no other nearest number.** -/
theorem unique (hx : x.IsNearest q) (hy : y.IsNearest q) : x = y := by
  obtain ⟨m, rfl⟩ := hx.exists_eq_finite
  obtain ⟨n, rfl⟩ := hy.exists_eq_finite
  have hunits : m.units = n.units :=
    Nat.le_antisymm (Nat.not_lt.mp (not_units_lt hy hx)) (Nat.not_lt.mp (not_units_lt hx hy))
  cases m
  cases n
  subst hunits
  rfl

/-- **Nearest numbers are in the order of what they approximate.** -/
theorem mono (hx : x.IsNearest q) (hy : y.IsNearest p) (hle : q ≤ p) {v w : ℚ}
    (hv : x.value? = some v) (hw : y.value? = some w) : v ≤ w := by
  by_contra hlt
  rw [not_le] at hlt
  -- `q` is on the side of `v`, above the middle, and `p` on that of `w`, so both are the middle
  have hq := abs_sub_le_abs_sub_iff.mp (hx.abs_sub_le hv hw)
  have hp := abs_sub_le_abs_sub_iff.mp (hy.abs_sub_le hw hv)
  obtain rfl : q = p := by
    apply le_antisymm hle
    nlinarith
  obtain rfl := hx.unique hy
  obtain rfl : v = w := Option.some.inj (hv.symm.trans hw)
  exact lt_irrefl v hlt

end IsNearest

/-! ## §5 Rounded natural numbers -/

/-- Indices are far below the limit of the format. -/
theorem roundUnits_ofNat_lt {n : ℕ} (h : n < UInt64.size) :
    roundUnits (n * unitsPerOne) 1 < unitsLimit := by
  have hspacing : spacing (n * unitsPerOne / 1) ≤ 190 := by
    rw [Nat.div_one]
    calc spacing (n * unitsPerOne) ≤ spacing (2 ^ 64 * unitsPerOne) :=
        spacing_mono (Nat.mul_le_mul_right _ h.le)
      _ = 190 := by decide +kernel
  calc roundUnits (n * unitsPerOne) 1
      ≤ 2 ^ 24 * 2 ^ spacing (n * unitsPerOne / 1) :=
        Nat.mul_le_mul_right _ (nearestEven_spacing_le ..)
    _ ≤ 2 ^ 24 * 2 ^ 190 := Nat.mul_le_mul_left _ (Nat.pow_le_pow_right (by omega) hspacing)
    _ < unitsLimit := by decide +kernel

/-- Rounding a natural number is preferred to every other magnitude, measured in ones. -/
theorem preferred_ofNat {n units : ℕ} (hunits : 2 ^ spacing units ∣ units)
    (hne : units ≠ roundUnits (n * unitsPerOne) 1) :
    Preferred n (roundUnits (n * unitsPerOne) 1 / unitsPerOne) (units / unitsPerOne)
      (roundUnits (n * unitsPerOne) 1 / 2 ^ spacing (roundUnits (n * unitsPerOne) 1) % 2 = 0) := by
  have hscaled := (preferred_roundUnits Nat.one_pos hunits hne).mul (inv_pos.mpr unitsPerOne_pos)
  have hratio : ((n * unitsPerOne : ℕ) : ℚ) / (1 : ℕ) * (unitsPerOne : ℚ)⁻¹ = n := by
    have hpos := unitsPerOne_pos
    push_cast
    field_simp
  rwa [hratio] at hscaled

/-- **Natural numbers are rounded to the nearest number.** -/
theorem isNearest_ofNat {n : ℕ} (h : n < UInt64.size) : (ofNat n).IsNearest n := by
  have hlimit := roundUnits_ofNat_lt h
  have hfinite : ofNat n = .finite false ⟨_, representable_roundUnits hlimit⟩ := dif_pos hlimit
  rw [hfinite]
  refine ⟨?sign, roundUnits (n * unitsPerOne) 1 / unitsPerOne, ?value, ?preferred⟩
  case sign => exact (decide_eq_false (Nat.cast_nonneg n).not_gt).symm
  case value => simp [value?]
  case preferred =>
    intro y w hw hne
    rcases le_or_gt 0 w with hnonneg | hbelow
    · obtain ⟨m, rfl⟩ := exists_units_of_nonneg hw hnonneg
      apply preferred_ofNat m.representable.2
      intro hunits
      exact hne (by rw [hunits])
    · -- a number below zero is further away than zero, which is a number of the format too
      left
      have hzero : |(roundUnits (n * unitsPerOne) 1 / unitsPerOne : ℚ) - n| ≤ |0 - (n : ℚ)| := by
        by_cases hround : 0 = roundUnits (n * unitsPerOne) 1
        · rw [← hround, Nat.cast_zero, zero_div]
        · simpa using (preferred_ofNat (Nat.dvd_zero _) hround).le
      have hn : (0 : ℚ) ≤ n := Nat.cast_nonneg n
      rw [zero_sub, abs_neg, abs_of_nonneg hn] at hzero
      rw [abs_of_neg (show w - n < 0 by linarith)]
      linarith

end TileLevel.Single
