import Mathlib
import TileLevel.Proofs.LastWriter

/-!
# How a Cell Is Recognised

A position is a cell of a board if its column and row pass a few tests of the number format: they
have no fractional part, are not below zero, and, cut to an index, lie inside the board. The tests
see a number through its own comparisons and conversions, where infinities and `nan` have no
fractional part to speak of, both zeros are zero, and a number that is too great for an index is cut
to the greatest one. Together they come to a statement about rational numbers alone, and say which
of two reasons a refusal gives.

## Main definitions

- `Single.fract`, `Single.isBelowZero`, `Single.toIndex`: the tests
- `Canvas.cellByTests`: the cell at a position, or the refusal, by the tests

## Main statements

- `Canvas.cellByTests_eq`: the tests find the cell of a position
- `Canvas.cellOf_cases`: what a position can be, by its rational numbers
- `Canvas.put_follows_position`: what floor and starts at any position do
-/

namespace TileLevel

namespace Single

/-! ## §1 Tests of a number -/

/-- What is left of a magnitude above a multiple of one is a magnitude: it needs no finer spacing,
    and ones are multiples of any spacing below them. -/
theorem representable_mod {units : ℕ} (h : Representable units) :
    Representable (units % unitsPerOne) := by
  obtain ⟨hlimit, hdvd⟩ := h
  -- below one the spacing is that of one or finer, and at most that of the number itself
  have hrest : units % unitsPerOne ≤ unitsPerOne :=
    (Nat.mod_lt units (Nat.two_pow_pos 149)).le
  have hone : spacing unitsPerOne ≤ 149 := by
    rw [spacing, unitsPerOne, Nat.pow_eq, Nat.log2_two_pow]
    decide
  have hdvdOne : Nat.pow 2 (spacing (units % unitsPerOne)) ∣ unitsPerOne :=
    Nat.pow_dvd_pow 2 ((spacing_mono hrest).trans hone)
  have hdvdUnits : Nat.pow 2 (spacing (units % unitsPerOne)) ∣ units :=
    (Nat.pow_dvd_pow 2 (spacing_mono (Nat.mod_le ..))).trans hdvd
  exact ⟨(Nat.mod_le ..).trans_lt hlimit, (Nat.dvd_mod_iff hdvdOne).mpr hdvdUnits⟩

/-- The part of a number after the point, with the sign of the number. Of an infinite number it is
    the difference of two infinite ones, which is none. -/
def fract : Single → Single
  | .finite negative m =>
    .finite (negative && m.units % unitsPerOne != 0)
      ⟨m.units % unitsPerOne, representable_mod m.representable⟩
  | .infinite _ => .nan
  | .nan => .nan

/-- Less than zero. Negative zero is not, and neither is `nan`. -/
def isBelowZero : Single → Bool
  | .finite negative m => negative && m.units != 0
  | .infinite negative => negative
  | .nan => false

/-- The number as an index: without the part after the point, and the nearest index if there is none
    so small or so great. -/
def toIndex : Single → ℕ
  | .finite negative m =>
    if negative then 0 else min (m.units / unitsPerOne) OffBoard.greatestIndex
  | .infinite negative => if negative then 0 else OffBoard.greatestIndex
  | .nan => 0

/-- **A natural number passes both tests**, and no other number does. -/
theorem isSome_wholeNumber?_iff (x : Single) :
    x.wholeNumber?.isSome ↔ x.fract.agrees zero ∧ x.isBelowZero = false := by
  cases x with
  | finite negative m =>
    -- a magnitude without a part after the point, which is zero if the sign is negative
    have hfract : (fract (.finite negative m)).agrees zero ↔ m.units % unitsPerOne = 0 := by
      simp only [fract, agrees, zero, Bool.and_eq_true, Bool.or_eq_true, beq_iff_eq]
      exact ⟨fun h => h.1, fun h => ⟨h, .inr h⟩⟩
    rw [hfract, wholeNumber?, Option.isSome_ite, Nat.dvd_iff_mod_eq_zero]
    cases negative <;> simp [isBelowZero]
  | infinite negative => simp [wholeNumber?, fract, agrees]
  | nan => simp [wholeNumber?, fract, agrees]

/-- The index of a natural number is the number, as long as there is such an index. -/
theorem toIndex_of_wholeNumber? {x : Single} {n : ℕ} (h : x.wholeNumber? = some n) :
    x.toIndex = min n OffBoard.greatestIndex := by
  cases x with
  | finite negative m =>
    simp only [wholeNumber?, Option.ite_none_right_eq_some, Option.some.injEq] at h
    obtain ⟨⟨-, hsign⟩, rfl⟩ := h
    rcases hsign with rfl | hzero
    · rfl
    · simp [toIndex, hzero]
  | infinite negative => cases h
  | nan => cases h

end Single

/-! ## §2 Cells by tests -/

namespace Canvas

variable {canvas : Canvas} {position : Position} {column row : ℕ}

/-- The cell at a position, found by tests of its two numbers: neither has a part after the point
    nor is below zero, and as indices they are inside the board. -/
def cellByTests (canvas : Canvas) (position : Position) : Except SinkError (ℕ × ℕ) :=
  let x := position.x
  let z := position.z.neg
  if ¬ (x.fract.agrees .zero ∧ z.fract.agrees .zero) ∨ x.isBelowZero ∨ z.isBelowZero then
    .error (.outOfBounds ("(" ++ position.x.display ++ ", " ++ position.y.display ++ ", "
      ++ position.z.display ++ ") is not a board cell"))
  else if canvas.width ≤ x.toIndex ∨ canvas.height ≤ z.toIndex then
    .error (.outOfBounds ("cell (" ++ toString x.toIndex ++ ", " ++ toString z.toIndex
      ++ ") outside " ++ toString canvas.width ++ "x" ++ toString canvas.height ++ " board"))
  else .ok (x.toIndex, z.toIndex)

/-- A position fails the tests of its numbers if one of them is not a natural number. -/
theorem fails_iff {x z : Single} :
    (¬ (x.fract.agrees .zero ∧ z.fract.agrees .zero) ∨ x.isBelowZero ∨ z.isBelowZero)
      ↔ ¬ (x.wholeNumber?.isSome ∧ z.wholeNumber?.isSome) := by
  rw [Single.isSome_wholeNumber?_iff, Single.isSome_wholeNumber?_iff, Bool.eq_false_iff,
    Bool.eq_false_iff]
  tauto

/-- **The tests find the cell of a position**, on every board whose size is an index. A number that
    is cut to the greatest index is not taken for it. -/
theorem cellByTests_eq (hwidth : canvas.width ≤ OffBoard.greatestIndex)
    (hheight : canvas.height ≤ OffBoard.greatestIndex) (position : Position) :
    canvas.cellByTests position
      = (canvas.cellOf position).mapError fun reason => .outOfBounds reason.message := by
  unfold cellByTests cellOf
  simp only [fails_iff]
  cases hcolumn : position.x.wholeNumber? with
  | none =>
    rw [if_pos (by simp)]
    rfl
  | some column =>
    cases hrow : position.z.neg.wholeNumber? with
    | none =>
      rw [if_pos (by simp)]
      rfl
    | some row =>
      -- both are natural numbers, so the size of the board decides
      rw [if_neg (by simp), Single.toIndex_of_wholeNumber? hcolumn,
        Single.toIndex_of_wholeNumber? hrow]
      by_cases hon : column < canvas.width ∧ row < canvas.height
      · have hindexColumn : min column OffBoard.greatestIndex = column := by omega
        have hindexRow : min row OffBoard.greatestIndex = row := by omega
        simp only [if_pos hon, hindexColumn, hindexRow]
        rw [if_neg (by omega)]
        rfl
      · simp only [if_neg hon]
        rw [if_pos (by omega)]
        rfl

/-! ## §3 What a position can be -/

/-- The two reasons for which a position is no cell read differently. -/
theorem message_notACell_ne (position : Position) (column row width height : ℕ) :
    (OffBoard.notACell position).message ≠ (OffBoard.outside column row width height).message := by
  intro h
  -- one begins with a bracket, the other with a letter
  have hhead := congrArg (·.toList.head?) h
  simp [OffBoard.message] at hhead

/-- **What a position can be**: a cell of the board, a cell beyond it, or none at all. -/
theorem cellOf_cases (canvas : Canvas) (position : Position) :
    (∃ column < canvas.width, ∃ row < canvas.height, position.IsAt column row
        ∧ canvas.cellOf position = .ok (column, row))
      ∨ (∃ column row, position.IsAt column row ∧ ¬ (column < canvas.width ∧ row < canvas.height)
        ∧ canvas.cellOf position = .error (.outside column row canvas.width canvas.height))
      ∨ ((∀ column row, ¬ position.IsAt column row)
        ∧ canvas.cellOf position = .error (.notACell position)) := by
  simp only [Position.isAt_iff]
  unfold cellOf
  split
  case h_1 column row hcolumn hrow =>
    split
    case isTrue hon => exact .inl ⟨column, hon.1, row, hon.2, ⟨hcolumn, hrow⟩, rfl⟩
    case isFalse hoff => exact .inr (.inl ⟨column, row, ⟨hcolumn, hrow⟩, hoff, rfl⟩)
  case h_2 hnone => exact .inr (.inr ⟨fun column row hat => hnone column row hat.1 hat.2, rfl⟩)

/-! ## §4 What commands do -/

/-- **What floor at a position does**: it is put on the cell, or refused with one of two reasons and
    no trace. -/
theorem put_floor_cases (canvas : Canvas) {kind : Kind} (hkind : kind ≠ .playerSpawn)
    (position : Position) :
    (∃ column < canvas.width, ∃ row < canvas.height, position.IsAt column row
        ∧ canvas.put { kind, position } = (none, canvas.setCell column row kind))
      ∨ (∃ column row, position.IsAt column row ∧ ¬ (column < canvas.width ∧ row < canvas.height)
        ∧ canvas.put { kind, position } = (some (.outOfBounds
          (OffBoard.outside column row canvas.width canvas.height).message), canvas))
      ∨ ((∀ column row, ¬ position.IsAt column row)
        ∧ canvas.put { kind, position }
          = (some (.outOfBounds (OffBoard.notACell position).message), canvas)) := by
  unfold put
  rw [if_neg hkind]
  rcases cellOf_cases canvas position with
    ⟨column, hcolumn, row, hrow, hat, hcell⟩ | ⟨column, row, hat, hoff, hcell⟩ | ⟨hnone, hcell⟩
  · exact .inl ⟨column, hcolumn, row, hrow, hat, by rw [hcell]⟩
  · exact .inr (.inl ⟨column, row, hat, hoff, by rw [hcell]⟩)
  · exact .inr (.inr ⟨hnone, by rw [hcell]⟩)

/-- Floor is taken just at the cells of the board. -/
theorem put_floor_eq_none_iff {kind : Kind} (hkind : kind ≠ .playerSpawn) (position : Position) :
    (canvas.put { kind, position }).1 = none
      ↔ ∃ column < canvas.width, ∃ row < canvas.height, position.IsAt column row := by
  rw [put_fst_eq_none_iff, takes_iff]
  exact or_iff_right hkind

/-- Floor at a cell is written there and nowhere else. -/
theorem put_floor_of_isAt (h : canvas.WellFormed) {kind : Kind} (hkind : kind ≠ .playerSpawn)
    (hcolumn : column < canvas.width) (hrow : row < canvas.height)
    (hat : position.IsAt column row) :
    (canvas.put { kind, position }).2.start = canvas.start
      ∧ ∀ column' row', (canvas.put { kind, position }).2.cell column' row' =
        if column = column' ∧ row = row' then some kind else canvas.cell column' row' := by
  have hput : canvas.put { kind, position } = (none, canvas.setCell column row kind) := by
    unfold put
    rw [if_neg hkind, cellOf_eq_ok_iff_isAt.mpr ⟨hat, hcolumn, hrow⟩]
  rw [hput]
  exact ⟨start_setCell kind, fun _ _ => cell_setCell h kind hcolumn hrow⟩

/-- Floor is refused as no cell just where no column and row are. -/
theorem put_floor_eq_notACell_iff {kind : Kind} (hkind : kind ≠ .playerSpawn)
    (position : Position) :
    (canvas.put { kind, position }).1 = some (.outOfBounds (OffBoard.notACell position).message)
      ↔ ∀ column row, ¬ position.IsAt column row := by
  rcases put_floor_cases canvas hkind position with
    ⟨column, -, row, -, hat, hput⟩ | ⟨column, row, hat, -, hput⟩ | ⟨hnone, hput⟩
  · refine iff_of_false ?_ fun hnone => hnone column row hat
    simp [hput]
  · refine iff_of_false ?_ fun hnone => hnone column row hat
    -- refused, but with the words for a cell beyond the board
    rw [hput]
    intro heq
    exact message_notACell_ne _ _ _ _ _ (SinkError.outOfBounds.inj (Option.some.inj heq)).symm
  · exact iff_of_true (by rw [hput]) hnone

/-- Floor beyond the board is refused with its column and row. -/
theorem put_floor_outside {kind : Kind} (hkind : kind ≠ .playerSpawn)
    (hat : position.IsAt column row) (hoff : ¬ (column < canvas.width ∧ row < canvas.height)) :
    (canvas.put { kind, position }).1 = some (.outOfBounds
      (OffBoard.outside column row canvas.width canvas.height).message) := by
  rcases put_floor_cases canvas hkind position with
    ⟨column', hcolumn, row', hrow, hat', -⟩ | ⟨column', row', hat', -, hput⟩ | ⟨hnone, -⟩
  · obtain ⟨rfl, rfl⟩ := hat.unique hat'
    exact absurd ⟨hcolumn, hrow⟩ hoff
  · obtain ⟨rfl, rfl⟩ := hat.unique hat'
    rw [hput]
  · exact absurd hat (hnone column row)

/-- **Commands follow their positions.** On every board and for every position, whatever its height:
    floor is taken just if the position is that of a column and row of the board, and is then written
    to this cell and to no other; it is refused as no cell just if the column or the row is not a
    natural number, and as outside the board in all other cases, and then changes nothing. A start is
    where the position is under the same condition, or else off the board. And on every board whose
    size is an index, the cell and the refusal are those that the tests of the number format find. -/
theorem put_follows_position (width height : ℕ) (commands : List Command) (position : Position) :
    let canvas := (blank width height).putAll commands
    (∀ kind, kind ≠ .playerSpawn →
        let answer := canvas.put { kind, position }
        (answer.1 = none ↔ ∃ column < width, ∃ row < height, position.IsAt column row)
          ∧ (∀ column < width, ∀ row < height, position.IsAt column row →
            answer.2.start = canvas.start
              ∧ ∀ column' row', answer.2.cell column' row' =
                if column = column' ∧ row = row' then some kind else canvas.cell column' row')
          ∧ (answer.1 = some (.outOfBounds (OffBoard.notACell position).message)
            ↔ ∀ column row, ¬ position.IsAt column row)
          ∧ (∀ column row, position.IsAt column row → ¬ (column < width ∧ row < height) →
            answer.1 = some (.outOfBounds (OffBoard.outside column row width height).message))
          ∧ (answer.1 ≠ none → answer.2 = canvas))
      ∧ (let answer := canvas.put { kind := .playerSpawn, position }
        answer.1 = none ∧ StartsAt width height position answer.2.start
          ∧ ∀ column row, answer.2.cell column row = canvas.cell column row)
      ∧ (width < UInt64.size → height < UInt64.size → canvas.cellByTests position =
        (canvas.cellOf position).mapError fun reason => .outOfBounds reason.message) := by
  intro canvas
  have hcanvas : canvas.WellFormed := (wellFormed_blank width height).putAll commands
  have hwidth : canvas.width = width := width_putAll ..
  have hheight : canvas.height = height := height_putAll ..
  rw [← hwidth, ← hheight]
  refine ⟨fun kind hkind => ⟨put_floor_eq_none_iff hkind position, ?written,
    put_floor_eq_notACell_iff hkind position, ?outside, put_snd_of_refused⟩, ?start, ?tests⟩
  case written => exact fun _ hcolumn _ hrow hat => put_floor_of_isAt hcanvas hkind hcolumn hrow hat
  case outside => exact fun _ _ hat hoff => put_floor_outside hkind hat hoff
  case start =>
    rw [put_of_spawn rfl]
    refine ⟨rfl, ?_, fun _ _ => cell_putSpawn position⟩
    rw [start_putSpawn]
    exact startsAt_startAt canvas position
  case tests =>
    intro hindexWidth hindexHeight
    exact cellByTests_eq (Nat.le_pred_of_lt hindexWidth) (Nat.le_pred_of_lt hindexHeight) position

/-- Floor at the negative zero, at no number, and so far away that its column has no index, and a
    start between two cells. No position has a height that is a number. -/
theorem put_follows_position_edges :
    let place (x z : Single) : Position := { x, y := .nan, z }
    let canvas := (blank 2 1).putAll []
    let floor (position : Position) := canvas.put { kind := .floorValid, position }
    let far : Single := .ofDecimal false (10 ^ 30) 0
    Kind.floorValid ≠ .playerSpawn
      ∧ (floor (place (.ofNat 1) Single.zero.neg)).1 = none
      ∧ (floor (place (.ofNat 1) Single.zero.neg)).2.cell 1 0 = some .floorValid
      ∧ (floor (place .nan .zero)).1 = some (.outOfBounds "(NaN, NaN, 0) is not a board cell")
      ∧ (floor (place far .zero)).1
        = some (.outOfBounds "cell (18446744073709551615, 0) outside 2x1 board")
      ∧ canvas.cellByTests (place far .zero)
        = .error (.outOfBounds "cell (18446744073709551615, 0) outside 2x1 board")
      ∧ (canvas.put { kind := .playerSpawn, position := place .half .zero }).2.start
        = (none, true) := by
  intro place canvas floor far
  have hkind : Kind.floorValid ≠ .playerSpawn := by decide
  have hcell : (place (.ofNat 1) Single.zero.neg).IsAt 1 0 := by decide +kernel
  have hfar : (place far .zero).IsAt 1000000015047466219876688855040 0 := by decide +kernel
  have hnone : ∀ column row, ¬ (place .nan .zero).IsAt column row := fun _ _ hat => by cases hat.1
  have hhalf : ∀ column < 2, ∀ row < 1, ¬ (place .half .zero).IsAt column row := by decide +kernel
  have hput (position : Position) := (put_follows_position 2 1 [] position).1 _ hkind
  obtain ⟨htaken, hwritten, -⟩ := hput (place (.ofNat 1) Single.zero.neg)
  obtain ⟨-, -, -, houtside, -⟩ := hput (place far .zero)
  have hrefused := houtside _ _ hfar (by decide)
  obtain ⟨-, ⟨-, hstart, -⟩, -⟩ := put_follows_position 2 1 [] (place .half .zero)
  obtain ⟨-, -, htests⟩ := put_follows_position 2 1 [] (place far .zero)
  refine ⟨hkind, htaken.mpr ⟨1, by decide, 0, by decide, hcell⟩,
    (hwritten 1 (by decide) 0 (by decide) hcell).2 1 0,
    ((hput (place .nan .zero)).2.2.1.mpr hnone).trans (by decide +kernel),
    hrefused.trans (by decide +kernel), ?_, hstart.off_board hhalf⟩
  exact (htests (by decide) (by decide)).trans (by decide +kernel)

end Canvas

end TileLevel
