import Mathlib
import TileLevel.Proofs.Drawing
import TileLevel.Proofs.Window

/-!
# Boards Stay in Range

A canvas reads a cell beyond its array as empty, and drops what is put there. Neither ever happens:
here are the same operations with an array access that can fail, in machine words that can overflow,
and on every canvas that commands were put on they succeed and do the same. The picture of such a
canvas has a line for each row with two glyphs for each cell, and the start is marked once.

## Main definitions

- `Canvas.place?`: where a cell is among the cells, if nothing overflows and it is there
- `Canvas.checkedCell`, `Canvas.checkedPut`, `Canvas.checkedPutAll`: reading and writing there
- `Canvas.lines`, `Canvas.spanAt?`: the picture before it is cut to a window

## Main statements

- `Canvas.WellFormed.checkedPut_eq`, `Canvas.WellFormed.checkedPutAll_eq`: commands stay in range
- `Canvas.exists_of_spanAt?`: what stands in the picture
- `Canvas.WellFormed.count_mark`: the start is marked once
- `Canvas.commands_stay_in_range`: canvases after any commands
-/

namespace TileLevel.Canvas

variable {canvas : Canvas} {column row : Nat}

/-! ## §1 Accesses that can fail -/

/-- The place of a cell among the cells of a canvas: none if the product or the sum does not fit
    into a machine word, or if there is no such place. -/
def place? (canvas : Canvas) (column row : Nat) : Option (Fin canvas.cells.size) :=
  if h : row * canvas.width < UInt64.size ∧ row * canvas.width + column < UInt64.size
      ∧ row * canvas.width + column < canvas.cells.size then
    some ⟨row * canvas.width + column, h.2.2⟩
  else none

/-- Reads a cell; fails if the access does. -/
def checkedCell (canvas : Canvas) (column row : Nat) : Option (Option Kind) :=
  if column < canvas.width ∧ row < canvas.height then
    match canvas.place? column row with
    | some place => some canvas.cells[place]
    | none => none
  else some none

/-- Takes a command; fails if an access does. -/
def checkedPut (command : Command) (canvas : Canvas) : Option (Option SinkError × Canvas) :=
  if command.kind = .playerSpawn then some (none, canvas.putSpawn command.position)
  else match canvas.cellOf command.position with
    | .ok (column, row) =>
      match canvas.place? column row with
      | some place =>
        some (none, { canvas with cells := canvas.cells.set place (some command.kind) place.isLt })
      | none => none
    | .error reason => some (some (.outOfBounds reason.message), canvas)

/-- Takes commands one after the other; fails if an access does. -/
def checkedPutAll (commands : List Command) (canvas : Canvas) : Option Canvas :=
  commands.foldlM (fun canvas command => (canvas.checkedPut command).map Prod.snd) canvas

section

variable (h : canvas.WellFormed) (hsize : canvas.width * canvas.height < UInt64.size)
include h hsize

/-- Each cell of a board has its place. -/
theorem WellFormed.exists_place?_eq (hcolumn : column < canvas.width) (hrow : row < canvas.height) :
    ∃ hplace : row * canvas.width + column < canvas.cells.size,
      canvas.place? column row = some ⟨row * canvas.width + column, hplace⟩ := by
  have hindex : row * canvas.width + column < canvas.width * canvas.height := index_lt hcolumn hrow
  have hplace : row * canvas.width + column < canvas.cells.size := by rwa [h.size_cells]
  have hsum : row * canvas.width + column < UInt64.size := hindex.trans hsize
  have hproduct : row * canvas.width < UInt64.size := (Nat.le_add_right _ _).trans_lt hsum
  exact ⟨hplace, dif_pos ⟨hproduct, hsum, hplace⟩⟩

/-- **Reading stays in range**, on the board and off it. -/
theorem WellFormed.checkedCell_eq (column row : Nat) :
    canvas.checkedCell column row = some (canvas.cell column row) := by
  unfold checkedCell
  split
  case isTrue hon =>
    obtain ⟨hplace, heq⟩ := h.exists_place?_eq hsize hon.1 hon.2
    rw [heq, cell_of_on_board hon, Array.getElem?_eq_getElem hplace]
    rfl
  case isFalse hoff => rw [cell_of_off_board hoff]

/-- **One command stays in range**, whether it is taken or refused. -/
theorem WellFormed.checkedPut_eq (command : Command) :
    canvas.checkedPut command = some (canvas.put command) := by
  unfold checkedPut
  rcases put_cases canvas command with
    ⟨hspawn, hput⟩ | ⟨column, row, hfloor, hcell, hput⟩ | ⟨reason, hfloor, hcell, hput⟩
  · rw [if_pos hspawn, hput]
  · obtain ⟨-, -, hcolumn, hrow⟩ := cellOf_eq_ok_iff.mp hcell
    obtain ⟨hplace, heq⟩ := h.exists_place?_eq hsize hcolumn hrow
    have hset : canvas.cells.setIfInBounds (row * canvas.width + column) (some command.kind)
        = canvas.cells.set (row * canvas.width + column) (some command.kind) hplace :=
      dif_pos hplace
    simp only [if_neg hfloor, hcell, hput, heq]
    exact congrArg (fun cells => some (none, { canvas with cells })) hset.symm
  · rw [if_neg hfloor, hcell, hput]

/-- **Commands stay in range**: none of them changes the size of the board. -/
theorem WellFormed.checkedPutAll_eq (commands : List Command) :
    canvas.checkedPutAll commands = some (canvas.putAll commands) := by
  induction commands generalizing canvas with
  | nil => rfl
  | cons command commands ih =>
    have hkept : (canvas.put command).2.width * (canvas.put command).2.height < UInt64.size := by
      rwa [width_put, height_put]
    rw [checkedPutAll, List.foldlM_cons, h.checkedPut_eq hsize, putAll_cons]
    exact ih (h.put command) hkept

end

/-- The floor of a canvas is never a start. -/
theorem WellFormed.cell_ne_playerSpawn (h : canvas.WellFormed) (column row : Nat) :
    canvas.cell column row ≠ some .playerSpawn := by
  intro hcell
  unfold cell at hcell
  split at hcell
  case isTrue =>
    have hstored : canvas.cells[row * canvas.width + column]? = some (some .playerSpawn) := by
      simpa [Option.getD_eq_iff] using hcell
    exact h.floor_only (Array.mem_of_getElem? hstored)
  case isFalse => cases hcell

/-! ## §2 The lines of the picture -/

/-- A list made of pairs, one behind the other. -/
theorem getElem?_flatMap_pairs {α : Type} {f : Nat → List α} (hf : ∀ k, (f k).length = 2)
    {n k part : Nat} (hk : k < n) (hpart : part < 2) :
    ((List.range n).flatMap f)[2 * k + part]? = (f k)[part]? := by
  induction n with
  | zero => cases hk
  | succ n ih =>
    have hlength : ((List.range n).flatMap f).length = 2 * n := by
      simp [List.length_flatMap, hf, Nat.mul_comm]
    rw [List.range_succ, List.flatMap_append, List.flatMap_singleton]
    rcases Nat.lt_succ_iff_lt_or_eq.mp hk with hbefore | rfl
    · rw [List.getElem?_append_left (by omega), ih hbefore]
    · -- the last pair
      rw [List.getElem?_append_right (by omega), hlength, Nat.add_sub_cancel_left]

section

variable {Colour : Type} [Typography] {m : TokenMatrix} {theme : Theme Colour} {span : Span Colour}

/-- The lines of the picture, before it is cut to a window. -/
def lines (canvas : Canvas) (m : TokenMatrix) (theme : Theme Colour) : List (List (Span Colour)) :=
  (canvas.paragraph m theme).lines

/-- What stands at a place of the picture. -/
def spanAt? (canvas : Canvas) (m : TokenMatrix) (theme : Theme Colour) (row place : Nat) :
    Option (Span Colour) :=
  (canvas.lines m theme)[row]?.bind (·[place]?)

theorem length_lineOf (canvas : Canvas) (m : TokenMatrix) (theme : Theme Colour) (row : Nat) :
    (canvas.lineOf m theme row).length = 2 * canvas.width := by
  simp [lineOf, List.length_flatMap, Nat.mul_comm]

theorem getElem?_lineOf (m : TokenMatrix) (theme : Theme Colour) (row : Nat) {part : Nat}
    (hcolumn : column < canvas.width) (hpart : part < 2) :
    (canvas.lineOf m theme row)[2 * column + part]? =
      [canvas.cellSpan m theme column row, separator theme][part]? :=
  getElem?_flatMap_pairs (fun _ => rfl) hcolumn hpart

/-- **A window is drawn from the lines**, row by row. -/
theorem window_eq_lines [Renderer Colour] [LawfulRenderer Colour] (canvas : Canvas)
    (m : TokenMatrix) (theme : Theme Colour) (width height top left : Nat) :
    canvas.window m theme width height top left =
      (List.range height).map fun i =>
        drawLine width left theme.backdrop (((canvas.lines m theme)[top + i]?).getD []) :=
  LawfulRenderer.draw_eq _ _ _ rfl rfl

/-- The glyph of a cell stands at twice its column. -/
theorem spanAt?_cell (m : TokenMatrix) (theme : Theme Colour) (hcolumn : column < canvas.width)
    (hrow : row < canvas.height) :
    canvas.spanAt? m theme row (2 * column) = some (canvas.cellSpan m theme column row) := by
  rw [spanAt?, lines, getElem?_lines, if_pos hrow, Option.bind_some]
  exact getElem?_lineOf m theme row hcolumn Nat.two_pos

/-- **What stands in the picture** is the glyph of a cell or a blank behind one. -/
theorem exists_of_spanAt? {place : Nat} (h : canvas.spanAt? m theme row place = some span) :
    row < canvas.height ∧ ∃ column < canvas.width,
      (place = 2 * column ∧ span = canvas.cellSpan m theme column row)
        ∨ (place = 2 * column + 1 ∧ span = separator theme) := by
  obtain ⟨line, hline, hspan⟩ := Option.bind_eq_some_iff.mp h
  rw [lines, getElem?_lines] at hline
  split at hline
  case isFalse => cases hline
  case isTrue hrow =>
    cases hline
    have hplace : place < 2 * canvas.width := by
      rw [← length_lineOf canvas m theme row]
      exact (List.getElem?_eq_some_iff.mp hspan).1
    -- the pair that the place is in, and the part of the pair
    have hcolumn : place / 2 < canvas.width := by omega
    have hpart : place % 2 < 2 := Nat.mod_lt place Nat.two_pos
    have hpair : [canvas.cellSpan m theme (place / 2) row, separator theme][place % 2]?
        = some span := by
      rw [← hspan, ← getElem?_lineOf m theme row hcolumn hpart, Nat.div_add_mod]
    refine ⟨hrow, place / 2, hcolumn, ?_⟩
    rcases Nat.mod_two_eq_zero_or_one place with heven | hodd
    · rw [heven] at hpair
      exact .inl ⟨by omega, (Option.some.inj hpair).symm⟩
    · rw [hodd] at hpair
      exact .inr ⟨by omega, (Option.some.inj hpair).symm⟩

/-! ## §3 The mark of the start -/

/-- **An `@` on a cell** marks the start, or it is the first of a token, which is dimmed. -/
theorem WellFormed.cases_of_text [LawfulTypography] (h : canvas.WellFormed)
    (htext : (canvas.cellSpan m theme column row).text = "@") :
    (canvas.spawn = some (column, row)
        ∧ canvas.cellSpan m theme column row = theme.glyph "@" theme.spawn)
      ∨ (canvas.spawn ≠ some (column, row)
        ∧ canvas.cellSpan m theme column row = theme.glyph "@" theme.dimmed
        ∧ ∃ token, m.get? row column = some token ∧ fitToken token = "@") := by
  obtain ⟨text, colour, hshows, hcell⟩ := exists_shows canvas m theme column row
  rw [hcell] at htext ⊢
  change text = "@" at htext
  cases hshows with
  | start hspawn => exact .inl ⟨hspawn, rfl⟩
  | floor hspawn hfloor =>
    rename_i kind
    -- of the floors only a start would have this glyph, and a start is never kept as floor
    have hkind : kind = .playerSpawn := by
      cases kind <;> first | rfl | exact absurd htext (by decide)
    rw [hkind] at hfloor
    exact absurd hfloor (h.cell_ne_playerSpawn column row)
  | token hspawn _ htoken => exact .inr ⟨hspawn, by rw [htext], _, htoken, htext⟩
  | missing => exact absurd htext (by decide)

/-- The start has the only glyph of its kind if its colour is not that of the tokens. -/
theorem WellFormed.cellSpan_eq_iff [LawfulTypography] (h : canvas.WellFormed)
    (hcolours : theme.spawn ≠ theme.dimmed) :
    canvas.cellSpan m theme column row = theme.glyph "@" theme.spawn
      ↔ canvas.spawn = some (column, row) := by
  constructor
  · intro hglyph
    have htext : (canvas.cellSpan m theme column row).text = "@" := by rw [hglyph]; rfl
    rcases h.cases_of_text htext with ⟨hspawn, -⟩ | ⟨-, hdimmed, -⟩
    · exact hspawn
    · -- the `@` of a token has the other colour
      rw [hglyph] at hdimmed
      injection hdimmed with _ hstyle
      injection hstyle with hcolour
      exact absurd (Option.some.inj hcolour) hcolours
  · intro hspawn
    exact if_pos hspawn

omit [Typography] in
theorem separator_ne_mark (theme : Theme Colour) :
    separator theme ≠ theme.glyph "@" theme.spawn := by
  intro heq
  have htext : " " = "@" := congrArg Span.text heq
  exact absurd htext (by decide)

section

variable [LawfulTypography] [DecidableEq Colour]

/-- The marks in a line. -/
theorem WellFormed.filter_lineOf (h : canvas.WellFormed) (hcolours : theme.spawn ≠ theme.dimmed) :
    (canvas.lineOf m theme row).filter (· == theme.glyph "@" theme.spawn) =
      (List.range canvas.width).flatMap fun column =>
        if canvas.spawn = some (column, row) then [theme.glyph "@" theme.spawn] else [] := by
  rw [lineOf, List.filter_flatMap]
  apply List.flatMap_congr
  intro column _
  have hseparator : (separator theme == theme.glyph "@" theme.spawn) = false := by
    simpa using separator_ne_mark theme
  by_cases hspawn : canvas.spawn = some (column, row)
  · have hglyph := (h.cellSpan_eq_iff (m := m) hcolours).mpr hspawn
    simp [hspawn, hglyph, hseparator]
  · have hglyph := mt (h.cellSpan_eq_iff (m := m) hcolours).mp hspawn
    simp [hspawn, hglyph, hseparator]

/-- **The start is marked once** if it is on the board, and else not at all. -/
theorem WellFormed.count_mark (h : canvas.WellFormed) (m : TokenMatrix)
    (hcolours : theme.spawn ≠ theme.dimmed) :
    (canvas.lines m theme).flatten.count (theme.glyph "@" theme.spawn) =
      if canvas.spawn.isSome then 1 else 0 := by
  have hmarks : (canvas.lines m theme).flatten.filter (· == theme.glyph "@" theme.spawn)
      = (List.range canvas.height).flatMap fun row =>
        (List.range canvas.width).flatMap fun column =>
          if canvas.spawn = some (column, row) then [theme.glyph "@" theme.spawn] else [] := by
    rw [lines, paragraph, ← List.flatMap_def, List.filter_flatMap]
    exact List.flatMap_congr fun row _ => h.filter_lineOf hcolours
  rw [List.count_eq_length_filter, hmarks]
  cases hspawn : canvas.spawn with
  | none => simp
  | some place =>
    obtain ⟨column, row⟩ := place
    obtain ⟨hcolumn, hrow⟩ := h.spawn_on_board column row hspawn
    -- only the row of the start has a mark, and in it only the column of the start
    rw [flatMap_range_eq hrow, flatMap_range_eq hcolumn]
    · simp
    · intro other _ hother
      simp [hother.symm]
    · intro other _ hother
      simp [hother.symm]

end

/-! ## §4 All together -/

/-- **Canvases stay in range.** Take a blank canvas whose cells can be counted in a machine word,
    and put any commands on it, of which any may be refused. The canvas keeps its size and a place
    for each cell, no cell has a start for its floor, and a start that is known is on a cell and not
    off the board as well. No access to the cells fails: not for the commands that were put, nor for
    one more, nor where a cell is read, on the board or off it. The picture has a line for each row,
    with two spans for each cell, and every window is drawn from these lines. An `@` in the picture
    is the glyph of a cell, and either the start is there or it is the `@` of a token, which is
    dimmed. The start is always marked, so where the two colours differ there is one mark of that
    colour, or none if there is no start. -/
theorem commands_stay_in_range [LawfulTypography] [DecidableEq Colour] [Renderer Colour]
    [LawfulRenderer Colour] (width height : Nat) (hsize : width * height < UInt64.size)
    (commands : List Command) (m : TokenMatrix) (theme : Theme Colour) :
    let canvas := (blank width height).putAll commands
    let mark := theme.glyph "@" theme.spawn
    (canvas.width = width ∧ canvas.height = height ∧ canvas.cells.size = width * height)
      ∧ some Kind.playerSpawn ∉ canvas.cells
      ∧ (∀ column row, canvas.spawn = some (column, row) →
        column < width ∧ row < height ∧ canvas.spawnOffBoard = false)
      ∧ (blank width height).checkedPutAll commands = some canvas
      ∧ (∀ command, canvas.checkedPut command = some (canvas.put command))
      ∧ (∀ column row, canvas.checkedCell column row = some (canvas.cell column row))
      ∧ ((canvas.lines m theme).length = height
        ∧ ∀ line ∈ canvas.lines m theme, line.length = 2 * width)
      ∧ (∀ columns rows top left, canvas.window m theme columns rows top left =
        (List.range rows).map fun i =>
          drawLine columns left theme.backdrop (((canvas.lines m theme)[top + i]?).getD []))
      ∧ (∀ row place span, canvas.spanAt? m theme row place = some span → span.text = "@" →
        ∃ column, place = 2 * column
          ∧ ((canvas.spawn = some (column, row) ∧ span = mark)
            ∨ (canvas.spawn ≠ some (column, row) ∧ span = theme.glyph "@" theme.dimmed
              ∧ ∃ token, m.get? row column = some token ∧ fitToken token = "@")))
      ∧ (∀ column row, canvas.spawn = some (column, row) →
        canvas.spanAt? m theme row (2 * column) = some mark)
      ∧ (theme.spawn ≠ theme.dimmed →
        (canvas.lines m theme).flatten.count mark = if canvas.spawn.isSome then 1 else 0) := by
  intro canvas mark
  have hblank : (blank width height).WellFormed := wellFormed_blank width height
  have h : canvas.WellFormed := hblank.putAll commands
  have hwidth : canvas.width = width := width_putAll commands _
  have hheight : canvas.height = height := height_putAll commands _
  have hsizeNow : canvas.width * canvas.height < UInt64.size := by rwa [hwidth, hheight]
  have hon (column row : Nat) (hspawn : canvas.spawn = some (column, row)) :
      column < canvas.width ∧ row < canvas.height := h.spawn_on_board column row hspawn
  refine ⟨⟨hwidth, hheight, ?size⟩, h.floor_only, ?start, hblank.checkedPutAll_eq hsize commands,
    h.checkedPut_eq hsizeNow, h.checkedCell_eq hsizeNow, ⟨?lines, ?spans⟩,
    window_eq_lines canvas m theme, ?only, ?marked, h.count_mark m⟩
  case size => rw [h.size_cells, hwidth, hheight]
  case start =>
    intro column row hspawn
    obtain ⟨hcolumn, hrow⟩ := hon column row hspawn
    refine ⟨hwidth ▸ hcolumn, hheight ▸ hrow, ?_⟩
    -- a start off the board would leave none on it
    apply Bool.eq_false_iff.mpr
    intro hoff
    rw [h.spawn_exclusive hoff] at hspawn
    cases hspawn
  case lines => rw [lines, paragraph, List.length_map, List.length_range, hheight]
  case spans =>
    intro line hline
    obtain ⟨row, -, rfl⟩ := List.mem_map.mp hline
    rw [length_lineOf, hwidth]
  case only =>
    intro row place span hspan htext
    obtain ⟨-, column, -, ⟨hplace, rfl⟩ | ⟨-, rfl⟩⟩ := exists_of_spanAt? hspan
    · exact ⟨column, hplace, h.cases_of_text htext⟩
    · -- a blank is no `@`
      have hspace : " " = "@" := htext
      exact absurd hspace (by decide)
  case marked =>
    intro column row hspawn
    obtain ⟨hcolumn, hrow⟩ := hon column row hspawn
    rw [spanAt?_cell m theme hcolumn hrow]
    exact congrArg some (if_pos hspawn)

end

/-- Floor beside a cell, a start off the board that a later one replaces, and a level that has an
    `@` of its own. -/
theorem commands_stay_in_range_two_marks :
    let beside : Command :=
      { kind := .floorCheckpoint, position := { Position.defaultSpawn with x := .half } }
    let commands : List Command :=
      [beside, { kind := .playerSpawn, position := .floor 2 0 },
        { kind := .floorObstacle, position := .floor 0 0 },
        { kind := .playerSpawn, position := .floor 0 0 }]
    let canvas := (blank 2 1).putAll commands
    let m : TokenMatrix := { rows := #[#["x", "@"]] }
    2 * 1 < UInt64.size ∧ Theme.midnight.spawn ≠ Theme.midnight.dimmed
      ∧ (canvas.put beside).1 ≠ none
      ∧ (blank 2 1).checkedPutAll commands = some canvas
      ∧ canvas.checkedCell 5 0 = some none
      ∧ canvas.spawn = some (0, 0) ∧ canvas.spawnOffBoard = false
      ∧ (canvas.lines m .midnight).flatten.map (·.text) = ["@", " ", "@", " "]
      ∧ (canvas.lines m .midnight).flatten.count
        (Theme.midnight.glyph "@" Theme.midnight.spawn) = 1 := by
  intro beside commands canvas m
  have hsize : 2 * 1 < UInt64.size := by decide
  have hcolours : Theme.midnight.spawn ≠ Theme.midnight.dimmed := by decide
  have hspawn : canvas.spawn = some (0, 0) := by decide +kernel
  obtain ⟨-, -, hstart, hput, -, hcell, -, -, -, -, hcount⟩ :=
    commands_stay_in_range 2 1 hsize commands m .midnight
  have hone := hcount hcolours
  rw [show ((blank 2 1).putAll commands).spawn = some (0, 0) from hspawn] at hone
  exact ⟨hsize, hcolours, by decide +kernel, hput, hcell 5 0, hspawn, (hstart 0 0 hspawn).2.2,
    by decide +kernel, hone⟩

end TileLevel.Canvas
