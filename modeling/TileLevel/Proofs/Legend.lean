import Mathlib
import TileLevel.Proofs.Drawing

/-!
# The Legend Agrees with the Picture

The legend of a preview counts the commands of a level, the picture shows the cells of a canvas. If
each rule puts at most one floor on the cell of its token, no command draws over another one: the
cells that are not empty, row after row, show the floor commands of the level in their order. So the
cells of each kind are as many as the legend says.

## Main definitions

- `RuleTable.LaysFloorOnce`: no rule puts two floors on one cell
- `Command.floor?`: the floor of a command

## Main statements

- `Canvas.WellFormed.toList_cells`: the cells in their order
- `Canvas.Holds.filterMap_cells`: the cells that are not empty show the floor commands
- `LevelSummary.count_ofCommands`: what the legend counts
- `legend_agrees_with_picture`: the numbers of the legend are numbers of cells
-/

namespace TileLevel

/-! ## §1 What the legend counts -/

namespace LevelSummary

theorem count_countCommand (summary : LevelSummary) (command : Command) (kind : Kind) :
    (summary.countCommand command).count kind
      = summary.count kind + if command.kind = kind then 1 else 0 := by
  unfold countCommand
  cases hkind : command.kind <;> cases kind <;> simp [count]

/-- **The legend counts the commands of each kind.** -/
theorem count_ofCommands (commands : List Command) (kind : Kind) :
    (ofCommands commands).count kind = commands.countP (·.kind = kind) := by
  -- counting starts from any counts, so the induction is on any of them
  have hfrom (summary : LevelSummary) :
      (commands.foldl countCommand summary).count kind
        = summary.count kind + commands.countP (·.kind = kind) := by
    induction commands generalizing summary with
    | nil => rfl
    | cons command commands ih =>
      rw [List.foldl_cons, ih, count_countCommand, List.countP_cons, Nat.add_assoc,
        Nat.add_comm (commands.countP _)]
      simp only [decide_eq_true_eq]
  have hempty : count {} kind = 0 := by cases kind <;> rfl
  rw [ofCommands, hfrom, hempty, Nat.zero_add]

theorem count_describe (m : TokenMatrix) (commands : List Command) (kind : Kind) :
    (describe m commands).count kind = commands.countP (·.kind = kind) := by
  rw [← count_ofCommands]
  cases kind <;> rfl

end LevelSummary

/-! ## §2 The cells in their order -/

/-- Numbers below a product, as the rows of a table. -/
theorem range_mul_eq_flatMap (height width : Nat) :
    List.range (height * width) =
      (List.range height).flatMap fun row => (List.range width).map (row * width + ·) := by
  induction height with
  | zero => simp
  | succ height ih => rw [Nat.succ_mul, List.range_add, ih, List.range_succ]; simp

/-- **The cells in their order**, row after row. -/
theorem Canvas.WellFormed.toList_cells {canvas : Canvas} (h : canvas.WellFormed) :
    canvas.cells.toList =
      (List.range canvas.height).flatMap fun row =>
        (List.range canvas.width).map fun column => canvas.cell column row := by
  have hcells : canvas.cells.toList
      = (List.range canvas.cells.size).map fun i => canvas.cells[i]?.getD none := by
    apply List.ext_getElem
    · simp
    · intro i hi _
      simp at hi
      simp [hi]
  rw [hcells, h.size_cells, Nat.mul_comm, range_mul_eq_flatMap, List.map_flatMap]
  apply List.flatMap_congr
  intro row hrow
  rw [List.map_map]
  apply List.map_congr_left
  intro column hcolumn
  exact (Canvas.cell_of_on_board ⟨List.mem_range.mp hcolumn, List.mem_range.mp hrow⟩).symm

/-- The cells of a kind, among the cells that are not empty. -/
theorem countP_eq_some (cells : Array (Option Kind)) (kind : Kind) :
    cells.countP (· = some kind) = (cells.toList.filterMap id).countP (· = kind) := by
  rw [← Array.countP_toList, List.countP_filterMap]
  apply List.countP_congr
  intro cell _
  cases cell <;> simp

/-! ## §3 The floor commands in their order -/

/-- The floor of a command: none if it is a start. -/
def Command.floor? (command : Command) : Option Kind :=
  if command.kind = .playerSpawn then none else some command.kind

/-- The floor commands of a kind. -/
theorem countP_filterMap_floor? {kind : Kind} (hkind : kind ≠ .playerSpawn)
    (commands : List Command) :
    (commands.filterMap Command.floor?).countP (· = kind) = commands.countP (·.kind = kind) := by
  rw [List.countP_filterMap]
  apply List.countP_congr
  intro command _
  unfold Command.floor?
  split
  case isTrue hspawn => simp [hspawn, hkind.symm]
  case isFalse => simp

theorem length_filterMap_floor? (commands : List Command) :
    (commands.filterMap Command.floor?).length =
      commands.countP (·.kind = .floorValid) + commands.countP (·.kind = .floorObstacle)
        + commands.countP (·.kind = .floorCheckpoint) := by
  induction commands with
  | nil => rfl
  | cons command commands ih =>
    cases hkind : command.kind with
    | playerSpawn => simp [Command.floor?, hkind, ih]
    | _ =>
      simp [Command.floor?, hkind, ih]
      omega

/-- The floor tiles of the legend are the floor commands. -/
theorem LevelSummary.floorTiles_describe (m : TokenMatrix) (commands : List Command) :
    (describe m commands).floorTiles = (commands.filterMap Command.floor?).length := by
  rw [length_filterMap_floor?, ← count_describe m, ← count_describe m, ← count_describe m]
  rfl

/-- No rule puts two floors on the cell of its token. -/
def RuleTable.LaysFloorOnce (table : RuleTable) : Prop :=
  ∀ token emissions, table.lookup token = some emissions →
    (emissions.filterMap Emission.floor?).length ≤ 1

/-- Each rule of the puzzle has one floor. -/
theorem RuleTable.laysFloorOnce_standard (spawn : Position) : (standard spawn).LaysFloorOnce := by
  intro token emissions hlookup
  rcases emissions_of_lookup_standard hlookup with rfl | rfl | rfl <;> simp [Emission.floor?]

/-- The rules of the puzzle place no checkpoints. -/
theorem RuleTable.kind_ne_floorCheckpoint {spawn : Position} {m : TokenMatrix} {command : Command}
    (h : command ∈ (standard spawn).map m) : command.kind ≠ .floorCheckpoint := by
  rw [map_eq_readingOrder, mem_readingOrder_iff] at h
  obtain ⟨row, -, column, -, hmem⟩ := h
  obtain ⟨token, emissions, hlookup, emission, hemission, rfl⟩ :=
    exists_emission_of_mem_cellCommands hmem
  rcases emissions_of_lookup_standard hlookup with rfl | rfl | rfl
  · simp only [List.mem_cons, List.not_mem_nil, or_false] at hemission
    rcases hemission with rfl | rfl <;> simp [Emission.resolve]
  · obtain rfl := List.mem_singleton.mp hemission
    simp [Emission.resolve]
  · obtain rfl := List.mem_singleton.mp hemission
    simp [Emission.resolve]

theorem RuleTable.countP_floorCheckpoint (spawn : Position) (m : TokenMatrix) :
    ((standard spawn).map m).countP (·.kind = .floorCheckpoint) = 0 := by
  rw [List.countP_eq_zero]
  intro command hcommand
  simpa using kind_ne_floorCheckpoint hcommand

section

variable {table : RuleTable} {m : TokenMatrix} {canvas : Canvas} {row column : Nat}

/-- With at most one floor for each token, no floor of a cell is drawn over. -/
theorem RuleTable.LaysFloorOnce.floorsAt_eq (h : table.LaysFloorOnce) :
    table.floorsAt m row column = (table.floorAt m row column).toList := by
  have hlength : (table.floorsAt m row column).length ≤ 1 := by
    unfold floorsAt
    split
    case h_1 emissions hlookup =>
      obtain ⟨token, -, htoken⟩ := Option.bind_eq_some_iff.mp hlookup
      exact h token emissions htoken
    case h_2 => simp
  rw [floorAt]
  cases hfloors : table.floorsAt m row column with
  | nil => rfl
  | cons kind others =>
    rw [hfloors, List.length_cons] at hlength
    obtain rfl : others = [] := List.eq_nil_of_length_eq_zero (by omega)
    rfl

/-- The floor commands of a cell are the floors of its token. -/
theorem RuleTable.filterMap_floor?_cellCommands (hfixed : table.FixesOnlyStarts) :
    (table.cellCommands m row column).filterMap Command.floor? = table.floorsAt m row column := by
  rw [cellCommands_eq_elim]
  unfold floorsAt
  cases hlookup : (m.get? row column).bind table.lookup with
  | none => rfl
  | some emissions =>
    obtain ⟨token, -, htoken⟩ := Option.bind_eq_some_iff.mp hlookup
    simp only [Option.elim_some, List.filterMap_map]
    apply List.filterMap_congr
    intro emission hemission
    cases emission with
    | atCell kind => rfl
    | fixed kind position =>
      -- a start is no floor
      exact if_pos (hfixed token emissions htoken kind position hemission)

theorem RuleTable.filterMap_floor?_readingOrder (hfixed : table.FixesOnlyStarts) :
    (table.readingOrder m).filterMap Command.floor? =
      (List.range m.rowCount).flatMap fun row =>
        (List.range m.columnBound).flatMap fun column => table.floorsAt m row column := by
  rw [readingOrder_eq_flatMap, List.filterMap_flatMap]
  apply List.flatMap_congr
  intro row _
  rw [rowCommands_eq_flatMap, List.filterMap_flatMap]
  apply List.flatMap_congr
  intro column _
  exact filterMap_floor?_cellCommands hfixed

/-- **The cells that are not empty show the floor commands**, in the same order. -/
theorem Canvas.Holds.filterMap_cells (hholds : (Canvas.forMatrix m).Holds m)
    (hfixed : table.FixesOnlyStarts) (honce : table.LaysFloorOnce) :
    ((Canvas.forMatrix m).putAll (table.map m)).cells.toList.filterMap id
      = (table.map m).filterMap Command.floor? := by
  have hcanvas : (Canvas.forMatrix m).WellFormed := Canvas.wellFormed_blank ..
  have hheight : ((Canvas.forMatrix m).putAll (table.map m)).height = m.rowCount :=
    Canvas.height_putAll ..
  have hwidth : ((Canvas.forMatrix m).putAll (table.map m)).width = m.columnBound :=
    Canvas.width_putAll ..
  rw [(hcanvas.putAll _).toList_cells, hheight, hwidth, RuleTable.map_eq_readingOrder,
    RuleTable.filterMap_floor?_readingOrder hfixed, ← RuleTable.map_eq_readingOrder,
    List.filterMap_flatMap]
  apply List.flatMap_congr
  intro row hrow
  rw [List.filterMap_map, List.filterMap_eq_flatMap_toList]
  apply List.flatMap_congr
  intro column hcolumn
  show (((Canvas.forMatrix m).putAll (table.map m)).cell column row).toList = _
  rw [hholds.cell_putAll hfixed hcanvas (Canvas.cell_blank ..) (List.mem_range.mp hrow)
    (List.mem_range.mp hcolumn), honce.floorsAt_eq]

/-! ## §4 The legend and the picture -/

/-- Commands do not change which cells a canvas tells apart. -/
theorem Canvas.Holds.putAll (h : canvas.Holds m) (commands : List Command) :
    (canvas.putAll commands).Holds m := by
  intro row hrow column hcolumn
  rw [Canvas.cellOf_putAll]
  exact h row hrow column hcolumn

/-- At most one command puts floor on a cell, so no cell is drawn over. -/
theorem Canvas.Holds.length_floors_le_one (h : canvas.Holds m) (hfixed : table.FixesOnlyStarts)
    (honce : table.LaysFloorOnce) (hrow : row < m.rowCount) (hcolumn : column < m.columnBound) :
    ((table.map m).filterMap (canvas.floorOn? column row)).length ≤ 1 := by
  rw [RuleTable.map_eq_readingOrder, h.filterMap_readingOrder hfixed hrow hcolumn,
    honce.floorsAt_eq]
  cases table.floorAt m row column <;> simp

/-- What the preview of a level shows if its canvas holds the level. -/
theorem Canvas.Holds.canvas_ofLevel (hholds : (Canvas.forMatrix m).Holds m)
    (hfixed : table.FixesOnlyStarts) (source : String) :
    (Preview.ofLevel { matrix := m, commands := table.map m, source }).canvas
      = (Canvas.forMatrix m).putAll (table.map m) :=
  congrArg Prod.snd (hholds.instantiateAll_map hfixed)

end

theorem Canvas.startAt_known (canvas : Canvas) (position : Position) :
    (canvas.startAt position).1.isSome ∨ (canvas.startAt position).2 := by
  unfold startAt
  split <;> simp

/-- **The canvas has a start**, on the board or off it, just when the level has a start command. -/
theorem Canvas.start_forMatrix_iff (m : TokenMatrix) (commands : List Command) :
    (((Canvas.forMatrix m).putAll commands).spawn.isSome
        ∨ ((Canvas.forMatrix m).putAll commands).spawnOffBoard)
      ↔ 0 < commands.countP (·.kind = .playerSpawn) := by
  have hstart := Canvas.start_putAll (.forMatrix m) commands
  rw [List.countP_eq_length_filter]
  cases hlast : Canvas.lastStart? commands with
  | none =>
    have hnone : commands.filter (·.kind = .playerSpawn) = [] :=
      List.getLast?_eq_none_iff.mp hlast
    rw [hlast] at hstart
    obtain ⟨hspawn, hoff⟩ := Prod.mk.inj hstart
    rw [hnone, hspawn, hoff]
    simp [Canvas.forMatrix, Canvas.blank]
  | some command =>
    have hmem : command ∈ commands.filter (·.kind = .playerSpawn) := List.mem_of_getLast? hlast
    have hknown := Canvas.startAt_known (.forMatrix m) command.position
    simp only [hlast] at hstart
    rw [← hstart] at hknown
    exact iff_of_true hknown (List.length_pos_of_mem hmem)

/-- **The legend agrees with the picture.** The cells of each kind of floor are as many as the
    legend counts, of checkpoints there are none, and the cells that are not empty are as many as the
    floor tiles: no cell gets floor twice. A start is counted just when the canvas has one, on the
    board or off it. -/
theorem legend_agrees_with_picture {m : TokenMatrix} (hrows : m.rowCount ≤ 2 ^ 24)
    (hcolumns : m.columnBound ≤ 2 ^ 24) (spawn : Position) (source : String) :
    let preview :=
      Preview.ofLevel { matrix := m, commands := (RuleTable.standard spawn).map m, source }
    (∀ kind, kind ≠ .playerSpawn →
        preview.canvas.cells.countP (· = some kind) = preview.summary.count kind)
      ∧ preview.summary.checkpoints = 0
      ∧ preview.canvas.cells.countP Option.isSome = preview.summary.floorTiles
      ∧ (∀ row < m.rowCount, ∀ column < m.columnBound,
          (preview.level.commands.filterMap (preview.canvas.floorOn? column row)).length ≤ 1)
      ∧ (0 < preview.summary.spawns ↔
          preview.canvas.spawn.isSome ∨ preview.canvas.spawnOffBoard) := by
  intro preview
  have hfixed := RuleTable.fixesOnlyStarts_standard spawn
  have honce := RuleTable.laysFloorOnce_standard spawn
  have hholds : (Canvas.forMatrix m).Holds m := Canvas.holds_forMatrix hrows hcolumns
  have hcanvas : preview.canvas = (Canvas.forMatrix m).putAll preview.level.commands :=
    hholds.canvas_ofLevel hfixed source
  have hcells : preview.canvas.cells.toList.filterMap id
      = preview.level.commands.filterMap Command.floor? := by
    rw [hcanvas]
    exact hholds.filterMap_cells hfixed honce
  refine ⟨?kinds, ?checkpoints, ?tiles, ?once, ?start⟩
  case kinds =>
    intro kind hkind
    have hcount := congrArg (List.countP (· = kind)) hcells
    rw [countP_filterMap_floor? hkind, ← LevelSummary.count_describe m] at hcount
    exact (countP_eq_some preview.canvas.cells kind).trans hcount
  case checkpoints =>
    have hnone := LevelSummary.count_describe m preview.level.commands .floorCheckpoint
    exact hnone.trans (RuleTable.countP_floorCheckpoint spawn m)
  case tiles =>
    have hsummary := LevelSummary.floorTiles_describe m preview.level.commands
    rw [← hcells, List.length_filterMap_eq_countP] at hsummary
    rw [← Array.countP_toList]
    exact hsummary.symm
  case once =>
    intro row hrow column hcolumn
    rw [hcanvas]
    exact (hholds.putAll _).length_floors_le_one hfixed honce hrow hcolumn
  case start =>
    rw [hcanvas, Canvas.start_forMatrix_iff, ← LevelSummary.count_describe m]
    rfl

/-- A level with a short row, an unknown token, and its starts off the board. -/
theorem legend_agrees_with_picture_ragged :
    let m : TokenMatrix := { rows := #[#["*", "O"], #["█"], #["?", "*"]] }
    let commands := (RuleTable.standard ⟨.nan, .zero, .zero⟩).map m
    let preview := Preview.ofLevel { matrix := m, commands, source := "ragged" }
    m.rowCount ≤ 2 ^ 24 ∧ m.columnBound ≤ 2 ^ 24
      ∧ preview.canvas.cells.countP (· = some .floorValid) = 3
      ∧ preview.canvas.cells.countP Option.isSome = 4
      ∧ (preview.canvas.spawn.isSome ∨ preview.canvas.spawnOffBoard) := by
  intro m commands preview
  have hrows : m.rowCount ≤ 2 ^ 24 := by decide
  have hcolumns : m.columnBound ≤ 2 ^ 24 := by decide
  have hsummary : preview.summary =
      { rows := 3, columns := 2, valid := 3, obstacles := 1, spawns := 2, raggedRows := [1] } := by
    show LevelSummary.describe m commands = _
    simp only [commands, RuleTable.map_eq_readingOrder]
    decide
  obtain ⟨hkinds, -, htiles, -, hstart⟩ :=
    legend_agrees_with_picture hrows hcolumns ⟨.nan, .zero, .zero⟩ "ragged"
  refine ⟨hrows, hcolumns, ?_, ?_, hstart.mp ?_⟩
  · exact (hkinds .floorValid (by decide)).trans (congrArg LevelSummary.valid hsummary)
  · exact htiles.trans (congrArg LevelSummary.floorTiles hsummary)
  · rw [hsummary]
    decide

end TileLevel
