import Mathlib
import TileLevel.Preview

/-!
# Scrolling Stays on the Board

A scroll step goes as far as it is told to, but not beyond the ends of the board. Offsets are kept in
16 bits and a cell is two columns wide, so this is so just as long as a board has no more than
`2^16` rows and `2^15` columns: on a greater one the last row or column has an offset that is kept
as another one. Steps are told in words of 32 bits, so only those runs are looked at whose numbers
fit into words throughout; such a run is the same whether it is counted in words or without bounds.

## Main definitions

- `Preview.AtEachStep`: a property of every step of a run
- `Preview.Counted`: the steps whose numbers fit into words
- `Preview.wordScrollBy`, `Preview.wordScrollAll`: steps and runs that are counted in words
- `Preview.LandsNearest`: the steps that end on the board, as near as can be to where they are told
  to go
- `Preview.OnBoard`: the views whose top left corner is a cell

## Main statements

- `Preview.landsNearest_of_le`: a step lands as near as can be if all offsets can be kept
- `Preview.wordScrollBy_eq`, `Preview.wordScrollAll_eq`: counting in words is exact while they fit
- `Preview.OnBoard.scrollBy`, `Preview.OnBoard.scrollAll`: a step and a run stay on the board
- `Preview.scrolling_clamps_iff_offsets_fit`: the boards on which every run lands as near as can be
-/

namespace TileLevel

/-- How far a step scrolls, in cells. -/
structure ScrollStep where
  rows : ℤ
  columns : ℤ
deriving DecidableEq, Repr

namespace Preview

variable {preview : Preview} {step : ScrollStep}

/-! ## §1 Runs of steps -/

/-- The preview after some steps. -/
def scrollAll (steps : List ScrollStep) (preview : Preview) : Preview :=
  steps.foldl (fun preview step => preview.scrollBy step.rows step.columns) preview

theorem scrollAll_cons (step : ScrollStep) (steps : List ScrollStep) (preview : Preview) :
    preview.scrollAll (step :: steps)
      = (preview.scrollBy step.rows step.columns).scrollAll steps := rfl

/-- What holds of every step of a run, each taken where the steps before it lead. -/
def AtEachStep (holds : Preview → ScrollStep → Prop) : Preview → List ScrollStep → Prop
  | _, [] => True
  | preview, step :: steps =>
    holds preview step ∧ AtEachStep holds (preview.scrollBy step.rows step.columns) steps

/-- The greatest row that a view can be scrolled to. -/
def lastRow (preview : Preview) : ℤ :=
  max (preview.canvas.height - 1) 0

/-- The greatest screen column that a view can be scrolled to. -/
def lastColumn (preview : Preview) : ℤ :=
  2 * max (preview.canvas.width - 1) 0

/-- The numbers that fit into a word of 32 bits with a sign. -/
def FitsWord (n : ℤ) : Prop :=
  -2 ^ 31 ≤ n ∧ n < 2 ^ 31

/-- All numbers that a step is counted with fit into words. -/
structure Counted (preview : Preview) (step : ScrollStep) : Prop where
  rows : FitsWord step.rows
  columns : FitsWord step.columns
  row : FitsWord (preview.scroll.1 + step.rows)
  doubled : FitsWord (2 * step.columns)
  column : FitsWord (preview.scroll.2 + 2 * step.columns)
  lastRow : FitsWord preview.lastRow
  lastColumn : FitsWord preview.lastColumn

/-- The step ends on the board, as near as can be to where it is told to go. -/
def LandsNearest (preview : Preview) (step : ScrollStep) : Prop :=
  let after := preview.scrollBy step.rows step.columns
  (after.scroll.1 : ℤ) = max 0 (min (preview.scroll.1 + step.rows) preview.lastRow)
    ∧ (after.scroll.2 : ℤ) = max 0 (min (preview.scroll.2 + 2 * step.columns) preview.lastColumn)

/-! ## §2 One step -/

@[simp]
theorem canvas_scrollBy (rows columns : ℤ) (preview : Preview) :
    (preview.scrollBy rows columns).canvas = preview.canvas := rfl

theorem coe_lastRow (preview : Preview) :
    ((preview.canvas.height - 1 : ℕ) : ℤ) = preview.lastRow := by
  unfold lastRow
  omega

theorem coe_lastColumn (preview : Preview) :
    (((preview.canvas.width - 1) * 2 : ℕ) : ℤ) = preview.lastColumn := by
  unfold lastColumn
  omega

theorem clamp_le (value : ℤ) (greatest : ℕ) : clamp value greatest ≤ greatest := by
  unfold clamp
  omega

theorem keepOffset_le (offset : ℕ) : keepOffset offset ≤ offset :=
  Nat.mod_le offset UInt16.size

/-- What is kept of an offset fits into 16 bits. -/
theorem keepOffset_lt (offset : ℕ) : keepOffset offset < 65536 :=
  Nat.mod_lt offset (by decide)

/-- Up to an end that can be kept, the offset that is kept is the nearest one. -/
theorem coe_keepOffset_clamp {greatest : ℕ} (h : greatest < 65536) (value : ℤ) :
    (keepOffset (clamp value greatest) : ℤ) = max 0 (min value greatest) := by
  have hkept : keepOffset (clamp value greatest) = clamp value greatest :=
    Nat.mod_eq_of_lt (Nat.lt_of_le_of_lt (clamp_le value greatest) h)
  rw [hkept]
  unfold clamp
  omega

/-- **A step lands as near as can be** if the offsets of all rows and columns can be kept. -/
theorem landsNearest_of_le (hheight : preview.canvas.height ≤ 65536)
    (hwidth : preview.canvas.width ≤ 32768) (step : ScrollStep) : preview.LandsNearest step := by
  have hrow : preview.canvas.height - 1 < 65536 := by omega
  have hcolumn : (preview.canvas.width - 1) * 2 < 65536 := by omega
  constructor
  · rw [← coe_lastRow]
    exact coe_keepOffset_clamp hrow _
  · rw [← coe_lastColumn, mul_comm 2 step.columns]
    exact coe_keepOffset_clamp hcolumn _

/-! ## §3 Steps in words -/

/-- A word between zero and an end that is not negative. -/
def clampWord (value last : Int32) : Int32 :=
  if value < 0 then 0 else if last < value then last else value

/-- What is kept of a word. -/
def keepWord (offset : Int32) : UInt16 :=
  offset.toUInt32.toUInt16

/-- A step that is counted in words of 32 bits, which wrap around. -/
def wordScrollBy (step : ScrollStep) (preview : Preview) : Preview :=
  let rows := Int32.ofInt step.rows
  let columns := Int32.ofInt step.columns
  let (row, column) := preview.scroll
  let lastRow := Int32.ofNat (preview.canvas.height - 1)
  let lastColumn := Int32.ofNat ((preview.canvas.width - 1) * 2)
  { preview with
    scroll :=
      ((keepWord (clampWord (.ofNat row + rows) lastRow)).toNat,
        (keepWord (clampWord (.ofNat column + columns * 2) lastColumn)).toNat) }

/-- The preview after some steps that are counted in words. -/
def wordScrollAll (steps : List ScrollStep) (preview : Preview) : Preview :=
  steps.foldl (fun preview step => preview.wordScrollBy step) preview

theorem toNat_keepWord (offset : ℕ) : (keepWord (.ofNat offset)).toNat = keepOffset offset := by
  change offset % 2 ^ 32 % 2 ^ 16 = offset % 2 ^ 16
  exact Nat.mod_mod_of_dvd offset (by decide)

/-- **In words that do not overflow** the offset between both ends is the same. -/
theorem clampWord_eq {value : ℤ} {greatest : ℕ} (hvalue : FitsWord value)
    (hgreatest : FitsWord greatest) :
    clampWord (.ofInt value) (.ofNat greatest) = .ofNat (clamp value greatest) := by
  have hend : (Int32.ofNat greatest).toInt = greatest :=
    Int32.toInt_ofInt_of_le hgreatest.1 hgreatest.2
  have hword : (Int32.ofInt value).toInt = value := Int32.toInt_ofInt_of_le hvalue.1 hvalue.2
  unfold clampWord
  simp only [Int32.lt_iff_toInt_lt, hend, hword, Int32.toInt_zero]
  split_ifs with hnegative hbeyond
  · have hzero : clamp value greatest = 0 := by
      unfold clamp
      omega
    rw [hzero]
    rfl
  · have hlast : clamp value greatest = greatest := by
      unfold clamp
      omega
    rw [hlast]
  · have hinside : ((clamp value greatest : ℕ) : ℤ) = value := by
      unfold clamp
      omega
    exact congrArg Int32.ofInt hinside.symm

/-- **A step in words** is the step, if its numbers fit. -/
theorem wordScrollBy_eq (h : preview.Counted step) :
    preview.wordScrollBy step = preview.scrollBy step.rows step.columns := by
  have hrow : Int32.ofNat preview.scroll.1 + Int32.ofInt step.rows
      = .ofInt (preview.scroll.1 + step.rows) :=
    (Int32.ofInt_add preview.scroll.1 step.rows).symm
  have hcolumn : Int32.ofNat preview.scroll.2 + Int32.ofInt step.columns * 2
      = .ofInt (preview.scroll.2 + step.columns * 2) := by
    rw [Int32.ofInt_add, Int32.ofInt_mul]
    rfl
  have hlastRow : FitsWord ((preview.canvas.height - 1 : ℕ) : ℤ) := by
    rw [coe_lastRow]
    exact h.lastRow
  have hlastColumn : FitsWord (((preview.canvas.width - 1) * 2 : ℕ) : ℤ) := by
    rw [coe_lastColumn]
    exact h.lastColumn
  have hdoubled : FitsWord (preview.scroll.2 + step.columns * 2) := by
    rw [mul_comm]
    exact h.column
  simp only [wordScrollBy, scrollBy, hrow, hcolumn, clampWord_eq h.row hlastRow,
    clampWord_eq hdoubled hlastColumn, toNat_keepWord]

/-- **A run in words** is the run, as long as the numbers of its steps fit. -/
theorem wordScrollAll_eq {steps : List ScrollStep} (h : preview.AtEachStep Counted steps) :
    preview.wordScrollAll steps = preview.scrollAll steps := by
  induction steps generalizing preview with
  | nil => rfl
  | cons step steps ih =>
    obtain ⟨hstep, hsteps⟩ := h
    have hfirst : preview.wordScrollAll (step :: steps)
        = (preview.wordScrollBy step).wordScrollAll steps := rfl
    rw [hfirst, wordScrollBy_eq hstep, scrollAll_cons, ih hsteps]

/-! ## §4 Views on the board -/

/-- The top left corner of the view is a cell, or the board has none. A cell is two columns wide. -/
structure OnBoard (preview : Preview) : Prop where
  row_le : preview.scroll.1 ≤ preview.canvas.height - 1
  column_le : preview.scroll.2 ≤ (preview.canvas.width - 1) * 2
  column_even : Even preview.scroll.2

/-- Of an even column an even one is kept, whether it fits or not. -/
theorem even_keepOffset {offset : ℕ} (h : Even offset) : Even (keepOffset offset) := by
  have hsize : 2 ∣ UInt16.size := by decide
  rw [Nat.even_iff] at h ⊢
  rwa [keepOffset, Nat.mod_mod_of_dvd offset hsize]

/-- Both ends are even, and so is what lies a whole number of cells away from an even column. -/
theorem even_clamp {column : ℕ} (h : Even column) (columns : ℤ) (cells : ℕ) :
    Even (clamp (column + columns * 2) (cells * 2)) := by
  rw [Nat.even_iff] at h ⊢
  unfold clamp
  omega

/-- **A step stays on the board**, also on one that is too great to keep all its offsets. -/
theorem OnBoard.scrollBy (h : preview.OnBoard) (rows columns : ℤ) :
    (preview.scrollBy rows columns).OnBoard where
  row_le := (keepOffset_le _).trans (clamp_le _ _)
  column_le := (keepOffset_le _).trans (clamp_le _ _)
  column_even := even_keepOffset (even_clamp h.column_even columns _)

/-- **A run stays on the board.** -/
theorem OnBoard.scrollAll (h : preview.OnBoard) (steps : List ScrollStep) :
    (preview.scrollAll steps).OnBoard := by
  induction steps generalizing preview with
  | nil => exact h
  | cons step steps ih =>
    apply ih
    exact h.scrollBy step.rows step.columns

theorem onBoard_of_start (h : preview.scroll = (0, 0)) : preview.OnBoard := by
  constructor <;> simp [h]

@[simp]
theorem canvas_scrollAll (steps : List ScrollStep) (preview : Preview) :
    (preview.scrollAll steps).canvas = preview.canvas := by
  induction steps generalizing preview with
  | nil => rfl
  | cons step steps ih => rw [scrollAll_cons, ih, canvas_scrollBy]

/-- On a board that has cells, the corner is one of them. -/
theorem OnBoard.exists_cell (h : preview.OnBoard) (hheight : 0 < preview.canvas.height)
    (hwidth : 0 < preview.canvas.width) :
    ∃ row < preview.canvas.height, ∃ column < preview.canvas.width,
      preview.scroll = (row, 2 * column) := by
  -- an even screen column is the first one of a cell
  obtain ⟨column, hcolumn⟩ := h.column_even.exists_two_nsmul
  rw [smul_eq_mul] at hcolumn
  have hrow := h.row_le
  have hle := h.column_le
  refine ⟨preview.scroll.1, by omega, column, by omega, ?_⟩
  exact Prod.ext rfl hcolumn

/-! ## §5 Runs that land as near as can be -/

/-- What every step of a run does if each does it on this board. -/
theorem atEachStep_landsNearest (hheight : preview.canvas.height ≤ 65536)
    (hwidth : preview.canvas.width ≤ 32768) (steps : List ScrollStep) :
    preview.AtEachStep LandsNearest steps := by
  induction steps generalizing preview with
  | nil => trivial
  | cons step steps ih => exact ⟨landsNearest_of_le hheight hwidth step, ih hheight hwidth⟩

/-- From the start the numbers of a step forward fit into words, unless it goes too far. -/
theorem counted_of_start (hstart : preview.scroll = (0, 0))
    (hheight : preview.canvas.height < 2 ^ 30) (hwidth : preview.canvas.width < 2 ^ 30)
    (hrows : 0 ≤ step.rows ∧ step.rows < 2 ^ 30)
    (hcolumns : 0 ≤ step.columns ∧ step.columns < 2 ^ 30) : preview.Counted step := by
  constructor <;> simp only [FitsWord, hstart, lastRow, lastColumn] <;> omega

/-- If the step to the first offset that cannot be kept lands as near as can be, the board ends
    before it. -/
theorem le_of_landsNearest (hstart : preview.scroll = (0, 0))
    (h : preview.LandsNearest { rows := 65536, columns := 32768 }) :
    preview.canvas.height ≤ 65536 ∧ preview.canvas.width ≤ 32768 := by
  obtain ⟨hrow, hcolumn⟩ := h
  have hrowKept : (preview.scrollBy 65536 32768).scroll.1 < 65536 := keepOffset_lt _
  have hcolumnKept : (preview.scrollBy 65536 32768).scroll.2 < 65536 := keepOffset_lt _
  -- what is kept of 65536 is less, so the end of the board is nearer than that
  simp only [hstart, lastRow, lastColumn] at hrow hcolumn
  omega

/-- **Scrolling clamps to the board exactly while the offsets can be kept.** On a board with fewer
    than `2^30` rows and columns, every step of every run from the top left corner whose numbers fit
    into words lands on the board as near as can be to where it is told to go, if and only if the
    board has no more than 65536 rows and 32768 columns. After any run the column is even and, if the
    board has cells, the corner of the view is one of them. -/
theorem scrolling_clamps_iff_offsets_fit (hstart : preview.scroll = (0, 0))
    (hheight : preview.canvas.height < 2 ^ 30) (hwidth : preview.canvas.width < 2 ^ 30) :
    ((∀ steps, preview.AtEachStep Counted steps → preview.AtEachStep LandsNearest steps)
        ↔ preview.canvas.height ≤ 65536 ∧ preview.canvas.width ≤ 32768)
      ∧ ∀ steps, Even (preview.scrollAll steps).scroll.2
        ∧ (0 < preview.canvas.height → 0 < preview.canvas.width →
          ∃ row < preview.canvas.height, ∃ column < preview.canvas.width,
            (preview.scrollAll steps).scroll = (row, 2 * column)) := by
  refine ⟨⟨?bounds, ?lands⟩, ?corner⟩
  case bounds =>
    intro hlands
    have hcounted : preview.Counted { rows := 65536, columns := 32768 } :=
      counted_of_start hstart hheight hwidth (by norm_num) (by norm_num)
    exact le_of_landsNearest hstart (hlands [_] ⟨hcounted, trivial⟩).1
  case lands =>
    rintro ⟨hheight, hwidth⟩ steps -
    exact atEachStep_landsNearest hheight hwidth steps
  case corner =>
    intro steps
    have hon := (onBoard_of_start hstart).scrollAll steps
    refine ⟨hon.column_even, fun hrows hcolumns => ?_⟩
    -- the board is the same one throughout
    have hcell := hon.exists_cell
    rw [canvas_scrollAll] at hcell
    exact hcell hrows hcolumns

/-- A board of the greatest height that is scrolled beyond its end, and one with a row more. -/
theorem scrolling_clamps_iff_offsets_fit_tall :
    let ofHeight (height : ℕ) : Preview :=
      { level := { matrix := { rows := #[] }, commands := [], source := "tall" }
        canvas := .blank 3 height, summary := {}, sinkError := none, scroll := (0, 0) }
    let beyond : ScrollStep := { rows := 70000, columns := 1 }
    (ofHeight 65537).scroll = (0, 0) ∧ (ofHeight 65537).canvas.height < 2 ^ 30
      ∧ (ofHeight 65537).canvas.width < 2 ^ 30
      ∧ (ofHeight 65536).LandsNearest beyond
      ∧ ((ofHeight 65536).scrollAll [beyond]).scroll = (65535, 2)
      ∧ ¬ ∀ steps, (ofHeight 65537).AtEachStep Counted steps →
        (ofHeight 65537).AtEachStep LandsNearest steps := by
  intro ofHeight beyond
  have hbounds (height : ℕ) (hheight : height < 2 ^ 30) : (ofHeight height).scroll = (0, 0)
      ∧ (ofHeight height).canvas.height < 2 ^ 30 ∧ (ofHeight height).canvas.width < 2 ^ 30 :=
    ⟨rfl, hheight, (by decide : 3 < 2 ^ 30)⟩
  obtain ⟨hstart, hheight, hwidth⟩ := hbounds 65536 (by decide)
  obtain ⟨hstart', hheight', hwidth'⟩ := hbounds 65537 (by decide)
  have hcounted : (ofHeight 65536).Counted beyond :=
    counted_of_start hstart hheight hwidth (by decide) (by decide)
  have hlands := (scrolling_clamps_iff_offsets_fit hstart hheight hwidth).1.mpr
    ⟨Nat.le_refl 65536, by decide⟩ [beyond] ⟨hcounted, trivial⟩
  refine ⟨hstart', hheight', hwidth', hlands.1, ?_, fun hall => ?_⟩
  · obtain ⟨hrow, hcolumn⟩ := hlands.1
    have hlast : max 0 (min (((0 : ℕ) : ℤ) + 70000) (max (((65536 : ℕ) : ℤ) - 1) 0))
        = ((65535 : ℕ) : ℤ) := by norm_num
    exact Prod.ext (Int.ofNat_inj.mp (hrow.trans hlast)) (Int.ofNat_inj.mp (hcolumn.trans rfl))
  · have hle := ((scrolling_clamps_iff_offsets_fit hstart' hheight' hwidth').1.mp hall).1
    exact absurd hle (Nat.not_succ_le_self 65536)

end Preview

end TileLevel
