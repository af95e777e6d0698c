import Mathlib
import TileLevel.Proofs.Agreement
import TileLevel.Proofs.Approximation
import TileLevel.Proofs.CellTests

/-!
# Positions of Cells

A cell lies at the number nearest to its column and at the negated number nearest to its row. The
negation is a difference from zero, which is never the negative zero, so the first row lies at the
positive one. Cells further to the right or further down never lie further to the left or up. Up to
`2^24` they also lie apart, so that the cell of a position is found again; the first column after
that lies where the one before it does.

## Main definitions

- `Single.AtMost`: the order of the format
- `Single.sub`: the difference of two numbers

## Main statements

- `Single.zero_sub_ofNat`: what a natural number taken from zero is
- `Position.atMost_floor_x`, `Position.atMost_floor_z`: positions are in the order of the cells
- `Position.floor_agrees_iff`: different cells lie apart
- `Position.floor_finds_cell`: where cells lie
-/

namespace TileLevel

namespace Single

/-! ## §1 The order -/

/-- The order of the format: that of the values, between the two infinities. Both zeros are alike,
    and `nan` is not in it. -/
inductive AtMost : Single → Single → Prop
  | finite {a b : Single} {v w : ℚ} (ha : a.value? = some v) (hb : b.value? = some w)
    (h : v ≤ w) : AtMost a b
  | lowest {b : Single} (h : b ≠ .nan) : AtMost (.infinite true) b
  | highest {a : Single} (h : a ≠ .nan) : AtMost a (.infinite false)

theorem IsNearest.atMost {x y : Single} {q p : ℚ} (hx : x.IsNearest q) (hy : y.IsNearest p)
    (h : q ≤ p) : x.AtMost y := by
  obtain ⟨v, hv, -⟩ := hx.preferred
  obtain ⟨w, hw, -⟩ := hy.preferred
  exact .finite hv hw (hx.mono hy h hv hw)

/-! ## §2 Differences -/

/-- A magnitude with a sign, in units. -/
def signedUnits (negative : Bool) (m : Magnitude) : ℤ :=
  if negative then -m.units else m.units

theorem signedUnits_not (negative : Bool) (m : Magnitude) :
    signedUnits (!negative) m = -signedUnits negative m := by
  cases negative <;> simp [signedUnits]

theorem natAbs_signedUnits (negative : Bool) (m : Magnitude) :
    (signedUnits negative m).natAbs = m.units := by
  cases negative <;> simp [signedUnits]

theorem signedUnits_eq_zero_iff {negative : Bool} {m : Magnitude} :
    signedUnits negative m = 0 ↔ m.units = 0 := by
  rw [← Int.natAbs_eq_zero, natAbs_signedUnits]

theorem signedUnits_neg_iff {negative : Bool} {m : Magnitude} (h : m.units ≠ 0) :
    signedUnits negative m < 0 ↔ negative := by
  cases negative
  · simp [signedUnits]
  · simp [signedUnits, Nat.pos_of_ne_zero h]

/-- The difference of two numbers: the exact one, rounded. An exact zero is the positive zero, unless
    the positive zero is taken from the negative one. -/
def sub : Single → Single → Single
  | .finite a m, .finite b n =>
    let difference := signedUnits a m - signedUnits b n
    if difference = 0 then
      if a && !b then zero.neg else zero
    else ofUnitsRatio (difference < 0) difference.natAbs 1
  | .infinite a, .infinite b => if a = b then .nan else .infinite a
  | .infinite a, .finite .. => .infinite a
  | .finite .., .infinite b => .infinite (!b)
  | .nan, _ => .nan
  | _, .nan => .nan

/-- A number taken from zero changes its sign, and both zeros become the positive one. -/
theorem zero_sub_finite (negative : Bool) (m : Magnitude) :
    zero.sub (.finite negative m) = if m.units = 0 then zero else .finite (!negative) m := by
  obtain ⟨least, hleast, hzero⟩ : ∃ n : Magnitude, n.units = 0 ∧ zero = .finite false n :=
    ⟨_, rfl, rfl⟩
  have hdifference : signedUnits false least - signedUnits negative m
      = signedUnits (!negative) m := by
    rw [signedUnits_eq_zero_iff.mpr hleast, zero_sub, signedUnits_not]
  rw [hzero, sub]
  simp only [hdifference, signedUnits_eq_zero_iff, natAbs_signedUnits, ← hzero]
  split
  case isTrue => simp
  case isFalse hne =>
    -- the exact difference is a number of the format, so it is not rounded
    rw [ofUnitsRatio_eq_finite (roundUnits_eq_self m.representable.2)]
    simp [signedUnits_neg_iff hne]

theorem value?_ofNat {n : ℕ} (h : n ≤ 2 ^ 24) : (ofNat n).value? = some (n : ℚ) :=
  wholeNumber?_eq_some_iff.mp (wholeNumber?_ofNat h)

/-- No natural number but zero is rounded to zero, since one is a number of the format. -/
theorem IsNearest.one_le {x : Single} {n : ℕ} (h : x.IsNearest n) (hn : n ≠ 0) {v : ℚ}
    (hv : x.value? = some v) : 1 ≤ v := by
  have hone : (ofNat 1).IsNearest (1 : ℕ) := isNearest_ofNat (by decide)
  have hvalue : (ofNat 1).value? = some ((1 : ℕ) : ℚ) := value?_ofNat (by norm_num)
  have hle : ((1 : ℕ) : ℚ) ≤ n := by exact_mod_cast Nat.one_le_iff_ne_zero.mpr hn
  exact_mod_cast hone.mono h hle hvalue hv

/-- **A natural number taken from zero** is its negative, and nothing taken from it the positive
    zero. -/
theorem zero_sub_ofNat {n : ℕ} (h : n < UInt64.size) :
    zero.sub (ofNat n) = if n = 0 then zero else (ofNat n).neg := by
  have hnearest := isNearest_ofNat h
  obtain ⟨m, hm⟩ := hnearest.exists_eq_finite
  have hvalue : (ofNat n).value? = some ((m.units : ℚ) / unitsPerOne) := by
    have hsign : ¬ (n : ℚ) < 0 := (Nat.cast_nonneg n).not_gt
    rw [hm, value?, decide_eq_false hsign, if_neg Bool.false_ne_true, one_mul]
  have hzero : m.units = 0 ↔ n = 0 := by
    constructor
    · intro hunits
      by_contra hn
      have hle := hnearest.one_le hn hvalue
      rw [hunits, Nat.cast_zero, zero_div] at hle
      exact absurd hle (by norm_num)
    · rintro rfl
      rw [value?_ofNat (Nat.zero_le _), Option.some.injEq, Nat.cast_zero, eq_comm, div_eq_zero_iff,
        or_iff_left unitsPerOne_pos.ne'] at hvalue
      exact_mod_cast hvalue
  rw [hm, zero_sub_finite]
  simp only [hzero, neg]

theorem SameNumber.value?_eq {a b : Single} (h : a.SameNumber b) : a.value? = b.value? := by
  cases h with
  | finite ha hb => rw [ha, hb]
  | infinite negative => rfl

end Single

namespace Position

variable {p q : Position} {column row column' row' : ℕ}

/-! ## §3 Positions in order -/

/-- The sign of zero aside, `z` is the negated row. -/
theorem value?_floor_z (column row : ℕ) :
    (floor column row).z.value? = (Single.ofNat row).neg.value? := by
  unfold floor
  dsimp only
  split
  case isTrue hzero =>
    have hofNat : Single.zero = Single.ofNat 0 := by decide +kernel
    rw [hzero, Single.value?_neg, hofNat, Single.value?_ofNat (Nat.zero_le _), Option.map_some,
      Nat.cast_zero, neg_zero]
  case isFalse => rfl

/-- A column further to the right does not lie further to the left. -/
theorem atMost_floor_x (h : column ≤ column') (hindex : column' < UInt64.size) (row row' : ℕ) :
    (floor column row).x.AtMost (floor column' row').x := by
  apply (Single.isNearest_ofNat (h.trans_lt hindex)).atMost (Single.isNearest_ofNat hindex)
  exact_mod_cast h

/-- A row further down does not lie further up. -/
theorem atMost_floor_z (h : row ≤ row') (hindex : row' < UInt64.size) (column column' : ℕ) :
    (floor column' row').z.AtMost (floor column row).z := by
  have hupper := Single.isNearest_ofNat (h.trans_lt hindex)
  have hlower := Single.isNearest_ofNat hindex
  obtain ⟨v, hv, -⟩ := hupper.preferred
  obtain ⟨w, hw, -⟩ := hlower.preferred
  have hle : v ≤ w := hupper.mono hlower (by exact_mod_cast h) hv hw
  refine .finite ?_ ?_ (neg_le_neg hle)
  · rw [value?_floor_z, Single.value?_neg, hw, Option.map_some]
  · rw [value?_floor_z, Single.value?_neg, hv, Option.map_some]

/-! ## §4 Exact positions -/

theorem isAt_floor (hcolumn : column ≤ 2 ^ 24) (hrow : row ≤ 2 ^ 24) :
    (floor column row).IsAt column row := by
  rw [isAt_iff]
  exact ⟨Single.wholeNumber?_ofNat hcolumn, Canvas.wholeNumber?_neg_floor_z column hrow⟩

theorem SamePlace.isAt (h : p.SamePlace q) (hat : p.IsAt column row) : q.IsAt column row := by
  obtain ⟨hx, hz⟩ := hat
  exact ⟨h.x.value?_eq.symm.trans hx, h.z.value?_eq.symm.trans hz⟩

/-- **Different cells lie apart**, also for a comparison that does not tell the zeros apart. -/
theorem floor_agrees_iff (hcolumn : column ≤ 2 ^ 24) (hrow : row ≤ 2 ^ 24)
    (hcolumn' : column' ≤ 2 ^ 24) (hrow' : row' ≤ 2 ^ 24) :
    (floor column row).agrees (floor column' row') ↔ column = column' ∧ row = row' := by
  rw [agrees_iff]
  constructor
  · intro hsame
    exact (hsame.isAt (isAt_floor hcolumn hrow)).unique (isAt_floor hcolumn' hrow')
  · rintro ⟨rfl, rfl⟩
    exact samePlace_self_iff.mpr (nanFree_floor column row)

/-- The tests of the number format find the cell of an exact position. -/
theorem cellByTests_floor {canvas : Canvas} (hcolumn : column < canvas.width)
    (hrow : row < canvas.height) (hexact : column ≤ 2 ^ 24 ∧ row ≤ 2 ^ 24)
    (hwidth : canvas.width < UInt64.size) (hheight : canvas.height < UInt64.size) :
    canvas.cellByTests (floor column row) = .ok (column, row) := by
  rw [Canvas.cellByTests_eq (Nat.le_pred_of_lt hwidth) (Nat.le_pred_of_lt hheight),
    Canvas.cellOf_floor hcolumn hrow hexact]
  rfl

/-- **Where cells lie.** For every column and row that are indices, `x` is the number nearest to the
    column, `y` is zero, and `z` is the negated number nearest to the row, but the positive zero for
    row zero, as that number taken from zero is. A column further to the right does not lie further
    to the left, and a row further down not further up. Up to `2^24` the position is exactly that of
    the column and row, no two cells lie at one place, and on every board that has the cell, the cell
    of the position is this cell. -/
theorem floor_finds_cell (hcolumn : column < UInt64.size) (hrow : row < UInt64.size) :
    let position := floor column row
    position.x.IsNearest column
      ∧ position.y = .zero
      ∧ (∃ nearest : Single, nearest.IsNearest row
        ∧ position.z = (if row = 0 then .zero else nearest.neg)
        ∧ position.z = Single.zero.sub nearest)
      ∧ (∀ column' < UInt64.size, ∀ row' < UInt64.size,
        (column ≤ column' → position.x.AtMost (floor column' row').x)
          ∧ (row ≤ row' → (floor column' row').z.AtMost position.z))
      ∧ (column ≤ 2 ^ 24 → row ≤ 2 ^ 24 →
        position.IsAt column row
          ∧ (∀ column' ≤ 2 ^ 24, ∀ row' ≤ 2 ^ 24,
            position.agrees (floor column' row') ↔ column = column' ∧ row = row')
          ∧ ∀ canvas : Canvas, column < canvas.width → row < canvas.height →
            canvas.cellOf position = .ok (column, row)
              ∧ (canvas.width < UInt64.size → canvas.height < UInt64.size →
                canvas.cellByTests position = .ok (column, row))) := by
  intro position
  refine ⟨Single.isNearest_ofNat hcolumn, rfl, ?z, ?order, ?exact⟩
  case z => exact ⟨.ofNat row, Single.isNearest_ofNat hrow, rfl, (Single.zero_sub_ofNat hrow).symm⟩
  case order =>
    intro column' hcolumn' row' hrow'
    exact ⟨fun hle => atMost_floor_x hle hcolumn' row row',
      fun hle => atMost_floor_z hle hrow' column column'⟩
  case exact =>
    intro hcolumnExact hrowExact
    refine ⟨isAt_floor hcolumnExact hrowExact, ?apart, ?found⟩
    case apart =>
      intro column' hcolumn' row' hrow'
      exact floor_agrees_iff hcolumnExact hrowExact hcolumn' hrow'
    case found =>
      intro canvas hwidth hheight
      have hexact : column ≤ 2 ^ 24 ∧ row ≤ 2 ^ 24 := ⟨hcolumnExact, hrowExact⟩
      exact ⟨Canvas.cellOf_floor hwidth hheight hexact, cellByTests_floor hwidth hheight hexact⟩

/-- A column and a row half way between two numbers, of which the column goes down and the row up to
    the even one. So the first column after `2^24` lies where `2^24` itself lies, which is exact. -/
theorem floor_finds_cell_halfway :
    let far := floor (2 ^ 24 + 1) (2 ^ 24 + 3)
    let corner := floor (2 ^ 24) 0
    let canvas : Canvas :=
      { width := 2 ^ 24 + 1, height := 1, cells := #[], spawn := none, spawnOffBoard := false }
    2 ^ 24 + 1 < UInt64.size ∧ 2 ^ 24 + 3 < UInt64.size
      ∧ far.x.IsNearest ((2 ^ 24 + 1 : ℕ) : ℚ)
      ∧ far.x = .ofNat (2 ^ 24)
      ∧ far.z = (Single.ofNat (2 ^ 24 + 4)).neg
      ∧ corner.x.AtMost far.x ∧ far.z.AtMost corner.z
      ∧ corner.z = .zero
      ∧ floor (2 ^ 24 + 1) 0 = corner
      ∧ corner.IsAt (2 ^ 24) 0
      ∧ ¬ corner.agrees (floor (2 ^ 24 - 1) 0)
      ∧ canvas.cellOf corner = .ok (2 ^ 24, 0)
      ∧ canvas.cellByTests corner = .ok (2 ^ 24, 0) := by
  intro far corner canvas
  have hcolumn : 2 ^ 24 + 1 < UInt64.size := by decide
  have hrow : 2 ^ 24 + 3 < UInt64.size := by decide
  have hedge : 2 ^ 24 < UInt64.size := by decide
  have htop : 0 < UInt64.size := by decide
  obtain ⟨hnearest, -⟩ := floor_finds_cell hcolumn hrow
  obtain ⟨-, -, ⟨nearest, -, hz, -⟩, horder, hexact⟩ := floor_finds_cell hedge htop
  obtain ⟨hx, hrows⟩ := horder (2 ^ 24 + 1) hcolumn (2 ^ 24 + 3) hrow
  obtain ⟨hat, hapart, hfound⟩ := hexact le_rfl (Nat.zero_le _)
  obtain ⟨hcell, htests⟩ := hfound canvas (Nat.lt_succ_self _) Nat.one_pos
  refine ⟨hcolumn, hrow, hnearest, by decide +kernel, by decide +kernel, hx (Nat.le_succ _),
    hrows (Nat.zero_le _), hz, by decide +kernel, hat, ?apart, hcell, htests hcolumn (by decide)⟩
  case apart =>
    rw [hapart (2 ^ 24 - 1) (Nat.sub_le ..) 0 (Nat.zero_le _)]
    decide

end Position

end TileLevel
