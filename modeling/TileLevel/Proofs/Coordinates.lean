import Mathlib
import TileLevel.Canvas

/-!
# Coordinates of Cells

A natural number with at most 24 binary digits is a number of the format, and so is its negative.
Up to `2^24` the position of a cell therefore names the cell: column and row can be read back from
it on every board that has the cell.

## Main statements

- `Single.wholeNumber?_ofNat`: numbers up to `2^24` are exact
- `Canvas.cellOf_floor`: the position of a cell is that cell
-/

namespace TileLevel

namespace Single

/-! ## §1 Exact numbers -/

theorem spacing_mono {a b : Nat} (h : a ≤ b) : spacing a ≤ spacing b := by
  unfold spacing
  rw [Nat.log2_eq_log_two, Nat.log2_eq_log_two]
  exact Nat.sub_le_sub_right (Nat.log_mono_right h) 23

theorem nearestEven_of_dvd {num den : Nat} (hden : 0 < den) (h : den ∣ num) :
    nearestEven num den = num / den := by
  simp only [nearestEven, Nat.mod_eq_zero_of_dvd h]
  rw [if_pos (.inl (by omega))]

/-- A magnitude that is a multiple of its spacing is not rounded. -/
theorem roundUnits_eq_self {units : Nat} (h : Nat.pow 2 (spacing units) ∣ units) :
    roundUnits units 1 = units := by
  have hpos : 0 < Nat.pow 2 (spacing units) := Nat.two_pow_pos _
  simp only [roundUnits, Nat.div_one, Nat.one_mul]
  -- a whole quotient is not rounded
  rw [nearestEven_of_dvd hpos h, Nat.div_mul_cancel h]

/-- A ratio that is rounded to a magnitude of the format gives a finite number. -/
theorem ofUnitsRatio_eq_finite {num den : Nat} {m : Magnitude} (h : roundUnits num den = m.units)
    (negative : Bool) : ofUnitsRatio negative num den = .finite negative m := by
  have hfinite : roundUnits num den < unitsLimit := by
    rw [h]
    exact m.representable.1
  rw [ofUnitsRatio, dif_pos hfinite]
  congr

/-- **Numbers up to `2^24` are exact.** -/
theorem wholeNumber?_ofNat {n : Nat} (h : n ≤ 2 ^ 24) : (ofNat n).wholeNumber? = some n := by
  have hpos : 0 < unitsPerOne := Nat.two_pow_pos 149
  have hlt : n * unitsPerOne < unitsLimit :=
    Nat.mul_lt_mul_of_pos_right (Nat.lt_of_le_of_lt h (by decide)) hpos
  have hdvd : Nat.pow 2 (spacing (n * unitsPerOne)) ∣ n * unitsPerOne := two_pow_spacing_dvd_mul h
  -- not too large for the format, and not rounded
  obtain ⟨m, hunits⟩ : ∃ m : Magnitude, m.units = n * unitsPerOne := ⟨⟨_, hlt, hdvd⟩, rfl⟩
  have hexact : ofNat n = .finite false m := by
    apply ofUnitsRatio_eq_finite
    rw [roundUnits_eq_self hdvd, hunits]
  rw [hexact]
  simp only [wholeNumber?, hunits]
  rw [if_pos ⟨Nat.dvd_mul_left unitsPerOne n, .inl trivial⟩, Nat.mul_div_cancel n hpos]

@[simp]
theorem neg_neg (x : Single) : x.neg.neg = x := by
  cases x <;> simp [neg]

end Single

/-! ## §2 Positions of cells -/

namespace Canvas

variable {canvas : Canvas} {position : Position} {column row : Nat}

/-- A position is a cell if its coordinates are the column and, negated, the row. -/
theorem cellOf_eq_ok_iff :
    canvas.cellOf position = .ok (column, row)
      ↔ position.x.wholeNumber? = some column ∧ position.z.neg.wholeNumber? = some row
        ∧ column < canvas.width ∧ row < canvas.height := by
  unfold cellOf
  split
  case h_1 x z hx hz =>
    rw [hx, hz]
    split
    · simp only [Except.ok.injEq, Prod.mk.injEq, Option.some.injEq]
      constructor
      · rintro ⟨rfl, rfl⟩
        exact ⟨rfl, rfl, by assumption⟩
      · rintro ⟨hcolumn, hrow, -⟩
        exact ⟨hcolumn, hrow⟩
    case isFalse hout =>
      simp only [reduceCtorEq, Option.some.injEq, false_iff]
      rintro ⟨rfl, rfl, hin⟩
      exact hout hin
  case h_2 hnone =>
    simp only [reduceCtorEq, false_iff]
    rintro ⟨hcolumn, hrow, -⟩
    exact hnone column row hcolumn hrow

/-- The row of a cell can be read back from its position. -/
theorem wholeNumber?_neg_floor_z (column : Nat) {row : Nat} (h : row ≤ 2 ^ 24) :
    (Position.floor column row).z.neg.wholeNumber? = some row := by
  unfold Position.floor
  dsimp only
  split
  case isTrue hzero =>
    -- the negation of the positive zero of row 0 still means zero
    subst hzero
    decide +kernel
  case isFalse =>
    rw [Single.neg_neg]
    exact Single.wholeNumber?_ofNat h

/-- **The position of a cell is that cell**, on every board that has it. -/
theorem cellOf_floor (hcolumn : column < canvas.width) (hrow : row < canvas.height)
    (hexact : column ≤ 2 ^ 24 ∧ row ≤ 2 ^ 24) :
    canvas.cellOf (.floor column row) = .ok (column, row) := by
  obtain ⟨hcolumnExact, hrowExact⟩ := hexact
  rw [cellOf_eq_ok_iff]
  refine ⟨?x, ?z, hcolumn, hrow⟩
  case x => exact Single.wholeNumber?_ofNat hcolumnExact
  case z => exact wholeNumber?_neg_floor_z column hrowExact

/-- Only the size of a board decides which positions are cells. -/
theorem cellOf_congr {a b : Canvas} (hwidth : a.width = b.width) (hheight : a.height = b.height) :
    a.cellOf = b.cellOf := by
  funext position
  simp only [cellOf, hwidth, hheight]

end Canvas

end TileLevel
