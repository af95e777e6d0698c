import Mathlib
import TileLevel.Proofs.Coordinates

/-!
# The Rational Number of a Coordinate

A finite number of the format is a rational number, and the other numbers are none. Whether a
position is a cell of a board is a statement about the rational numbers of its coordinates alone:
neither rounding nor the sign of zero enters into it.

## Main definitions

- `Single.value?`: the rational number, if there is one
- `Position.IsAt`: the position of a column and row

## Main statements

- `Single.wholeNumber?_eq_some_iff`: the natural numbers among the values
- `Canvas.cellOf_eq_ok_iff_isAt`: which positions are cells
-/

namespace TileLevel

namespace Single

/-! ## §1 Values -/

/-- The rational number that a finite number is; both zeros are the number zero. -/
def value? : Single → Option ℚ
  | .finite negative m => some ((if negative then -1 else 1) * (m.units / unitsPerOne))
  | _ => none

theorem value?_neg (x : Single) : x.neg.value? = x.value?.map (-·) := by
  cases x with
  | finite negative m => cases negative <;> simp [neg, value?]
  | infinite negative => rfl
  | nan => rfl

theorem unitsPerOne_pos : 0 < (unitsPerOne : ℚ) := by
  exact_mod_cast (Nat.two_pow_pos 149 : 0 < unitsPerOne)

private theorem units_div_eq_iff {units n : ℕ} :
    (units : ℚ) / unitsPerOne = n ↔ units = n * unitsPerOne := by
  rw [div_eq_iff unitsPerOne_pos.ne']
  norm_cast

/-- A magnitude with a sign is a natural number if it is a multiple of one, and zero if the sign is
    negative. -/
private theorem signed_units_eq_iff {negative : Bool} {units n : ℕ} :
    (if negative then -1 else 1) * ((units : ℚ) / unitsPerOne) = n
      ↔ units = n * unitsPerOne ∧ (negative = false ∨ n = 0) := by
  cases negative with
  | false => simp [units_div_eq_iff]
  | true =>
    simp only [if_true, neg_one_mul, Bool.true_eq_false, false_or]
    constructor
    · intro h
      -- both sides have a sign of their own, so both are zero
      have hunits : (0 : ℚ) ≤ units / unitsPerOne := by positivity
      have hn : (0 : ℚ) ≤ n := by positivity
      have hzero : (n : ℚ) = 0 := by linarith
      have hvalue : (units : ℚ) / unitsPerOne = n := by linarith
      exact ⟨units_div_eq_iff.mp hvalue, by exact_mod_cast hzero⟩
    · rintro ⟨rfl, rfl⟩
      simp

/-- **The natural number that is meant** is the value, if the value is a natural number. -/
theorem wholeNumber?_eq_some_iff {x : Single} {n : ℕ} :
    x.wholeNumber? = some n ↔ x.value? = some (n : ℚ) := by
  cases x with
  | infinite negative => simp [wholeNumber?, value?]
  | nan => simp [wholeNumber?, value?]
  | finite negative m =>
    have hpos : 0 < unitsPerOne := Nat.two_pow_pos 149
    simp only [wholeNumber?, value?, Option.some.injEq, signed_units_eq_iff]
    constructor
    · intro h
      split at h
      case isTrue hwhole =>
        obtain ⟨⟨k, hk⟩, hsign⟩ := hwhole
        rw [hk, Nat.mul_div_cancel_left k hpos, Option.some.injEq] at h
        subst h
        refine ⟨by rw [hk, Nat.mul_comm], hsign.imp_right fun hzero => ?_⟩
        -- no units at all are no ones either
        rw [hk] at hzero
        exact (Nat.mul_eq_zero.mp hzero).resolve_left hpos.ne'
      case isFalse => cases h
    · rintro ⟨hunits, hsign⟩
      rw [hunits, if_pos ⟨Nat.dvd_mul_left .., hsign.imp_right fun hzero => by rw [hzero, zero_mul]⟩,
        Nat.mul_div_cancel n hpos]

end Single

/-! ## §2 Cells -/

/-- The position of a column and row: `x` is the column, and `z` is minus the row. -/
def Position.IsAt (column row : ℕ) (position : Position) : Prop :=
  position.x.value? = some (column : ℚ) ∧ position.z.value? = some (-(row : ℚ))

instance (column row : ℕ) : DecidablePred (Position.IsAt column row) := fun _ =>
  inferInstanceAs (Decidable (_ ∧ _))

/-- A position is that of one column and row at most. -/
theorem Position.IsAt.unique {position : Position} {column row column' row' : ℕ}
    (h : position.IsAt column row) (h' : position.IsAt column' row') :
    column = column' ∧ row = row' := by
  have hx : (column : ℚ) = column' := Option.some.inj (h.1.symm.trans h'.1)
  have hz : -(row : ℚ) = -row' := Option.some.inj (h.2.symm.trans h'.2)
  exact ⟨by exact_mod_cast hx, by exact_mod_cast neg_injective hz⟩

/-- The column and row of a position are the natural numbers that its coordinates mean. -/
theorem Position.isAt_iff {position : Position} {column row : ℕ} :
    position.IsAt column row
      ↔ position.x.wholeNumber? = some column ∧ position.z.neg.wholeNumber? = some row := by
  have hrow : position.z.neg.value? = some (row : ℚ) ↔ position.z.value? = some (-(row : ℚ)) := by
    rw [Single.value?_neg, Option.map_eq_some_iff]
    constructor
    · rintro ⟨z, hz, hneg⟩
      rw [hz, ← hneg, neg_neg]
    · intro hz
      exact ⟨_, hz, neg_neg _⟩
  rw [Single.wholeNumber?_eq_some_iff, Single.wholeNumber?_eq_some_iff, hrow, Position.IsAt]

namespace Canvas

variable {canvas : Canvas} {position : Position} {column row : ℕ}

/-- **Which positions are cells**: those of the columns and rows of the board. -/
theorem cellOf_eq_ok_iff_isAt :
    canvas.cellOf position = .ok (column, row)
      ↔ position.IsAt column row ∧ column < canvas.width ∧ row < canvas.height := by
  rw [cellOf_eq_ok_iff, Position.isAt_iff, and_assoc]

end Canvas

end TileLevel
