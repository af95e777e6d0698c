import Mathlib
import TileLevel.Proofs.Board
import TileLevel.Proofs.Values

/-!
# A Board Is Its Commands

What a board shows can be read off the commands it was given, without a board: a cell has the floor
of the last command that means this cell, and the start is where the last start command means it to
be. Which cell a command means is a matter of its position's rational numbers.

## Main definitions

- `Command.IsFloorAt`: the commands that mean floor for a cell
- `Canvas.lastFloor?`: the last of them
- `Canvas.StartsAt`: where a position puts the start

## Main statements

- `Canvas.floorOn?_eq`: the floor that a command puts on a cell is the floor it means
- `Canvas.canvas_is_last_writer`: cells, refusals and starts after any commands
-/

namespace TileLevel

/-- Floor of some kind, at the position of a column and row. -/
def Command.IsFloorAt (column row : ℕ) (command : Command) : Prop :=
  command.kind ≠ .playerSpawn ∧ command.position.IsAt column row

instance (column row : ℕ) : DecidablePred (Command.IsFloorAt column row) := fun _ =>
  inferInstanceAs (Decidable (_ ∧ _))

namespace Canvas

variable {canvas : Canvas} {column row : ℕ}

/-! ## §1 Cells -/

/-- The last of some commands that means floor for a cell. -/
def lastFloor? (column row : ℕ) (commands : List Command) : Option Command :=
  (commands.filter (·.IsFloorAt column row)).getLast?

/-- **What a command puts on a cell** of the board is what it means for the cell. -/
theorem floorOn?_eq (hon : column < canvas.width ∧ row < canvas.height) (command : Command) :
    canvas.floorOn? column row command =
      if command.IsFloorAt column row then some command.kind else none := by
  cases hcell : canvas.cellOf command.position with
  | ok place =>
    obtain ⟨column', row'⟩ := place
    have hat := (cellOf_eq_ok_iff_isAt.mp hcell).1
    -- the position is that of the cell found, so it is that of no other
    have hsame : (column', row') = (column, row) ↔ command.position.IsAt column row := by
      constructor
      · rintro ⟨⟩
        exact hat
      · intro hat'
        obtain ⟨rfl, rfl⟩ := hat.unique hat'
        rfl
    rw [floorOn?_of_cellOf hcell]
    apply if_congr _ rfl rfl
    rw [hsame, and_comm, Command.IsFloorAt]
  | error reason =>
    have hnot : ¬ command.position.IsAt column row := by
      intro hat
      rw [cellOf_eq_ok_iff_isAt.mpr ⟨hat, hon⟩] at hcell
      cases hcell
    simp [floorOn?, hcell, Command.IsFloorAt, hnot]

theorem filterMap_floorOn? (hon : column < canvas.width ∧ row < canvas.height)
    (commands : List Command) :
    commands.filterMap (canvas.floorOn? column row)
      = (commands.filter (·.IsFloorAt column row)).map (·.kind) := by
  induction commands with
  | nil => rfl
  | cons command commands ih =>
    rw [List.filterMap_cons, floorOn?_eq hon, ih, List.filter_cons]
    by_cases hfloor : command.IsFloorAt column row <;> simp [hfloor]

/-- **A cell of a board that was blank** shows the last floor that was meant for it. -/
theorem cell_putAll_blank (width height : ℕ) (commands : List Command) (column row : ℕ) :
    ((blank width height).putAll commands).cell column row =
      if column < width ∧ row < height then (lastFloor? column row commands).map (·.kind)
      else none := by
  split
  case isTrue hon =>
    rw [cell_putAll (wellFormed_blank width height), cell_blank, Option.or_none,
      filterMap_floorOn? hon, List.getLast?_map, lastFloor?]
  case isFalse hoff =>
    apply cell_of_off_board
    rwa [width_putAll, height_putAll]

/-! ## §2 Refusals -/

theorem takes_iff {command : Command} :
    canvas.Takes command ↔ command.kind = .playerSpawn ∨
      ∃ column < canvas.width, ∃ row < canvas.height, command.position.IsAt column row := by
  simp only [Takes, Prod.exists, cellOf_eq_ok_iff_isAt]
  refine or_congr_right ?_
  constructor
  · rintro ⟨column, row, hat, hcolumn, hrow⟩
    exact ⟨column, hcolumn, row, hrow, hat⟩
  · rintro ⟨column, hcolumn, row, hrow, hat⟩
    exact ⟨column, row, hat, hcolumn, hrow⟩

/-- **A refusal changes nothing.** -/
theorem put_snd_of_refused {command : Command} (h : (canvas.put command).1 ≠ none) :
    (canvas.put command).2 = canvas := by
  rcases put_cases canvas command with ⟨-, hput⟩ | ⟨_, _, -, -, hput⟩ | ⟨_, -, -, hput⟩
  · exact absurd (congrArg Prod.fst hput) h
  · exact absurd (congrArg Prod.fst hput) h
  · exact congrArg Prod.snd hput

/-- A start is never refused and changes no cell. -/
theorem put_of_spawn {command : Command} (h : command.kind = .playerSpawn) :
    canvas.put command = (none, canvas.putSpawn command.position) :=
  if_pos h

/-! ## §3 Starts -/

/-- Where a start at a position is on a board: on the cell that the position is at, or off the board
    if it is at none. -/
structure StartsAt (width height : ℕ) (position : Position) (start : Option (ℕ × ℕ) × Bool) :
    Prop where
  on_board : ∀ column < width, ∀ row < height, position.IsAt column row →
    start = (some (column, row), false)
  off_board : (∀ column < width, ∀ row < height, ¬ position.IsAt column row) →
    start = (none, true)

theorem startsAt_startAt (canvas : Canvas) (position : Position) :
    StartsAt canvas.width canvas.height position (canvas.startAt position) where
  on_board column hcolumn row hrow hat := by
    rw [startAt, cellOf_eq_ok_iff_isAt.mpr ⟨hat, hcolumn, hrow⟩]
  off_board hoff := by
    unfold startAt
    split
    case h_1 place hcell =>
      obtain ⟨hat, hcolumn, hrow⟩ := cellOf_eq_ok_iff_isAt.mp hcell
      exact absurd hat (hoff _ hcolumn _ hrow)
    case h_2 => rfl

/-! ## §4 All together -/

/-- **A board is a map of last writers.** After any commands, refused ones included, a cell shows
    the last floor that was meant for it; a command is refused if it is floor at no cell of the board,
    and then changes nothing; a start is never refused and changes no cell; and the start is where
    the last start command means it to be. -/
theorem canvas_is_last_writer (width height : ℕ) (commands : List Command) :
    let canvas := (blank width height).putAll commands
    (∀ column row, canvas.cell column row =
        if column < width ∧ row < height then (lastFloor? column row commands).map (·.kind)
        else none)
      ∧ (∀ command, (canvas.put command).1 ≠ none ↔ command.kind ≠ .playerSpawn
          ∧ ∀ column < width, ∀ row < height, ¬ command.position.IsAt column row)
      ∧ (∀ command, (canvas.put command).1 ≠ none → (canvas.put command).2 = canvas)
      ∧ (∀ command, command.kind = .playerSpawn → (canvas.put command).1 = none
          ∧ ∀ column row, (canvas.put command).2.cell column row = canvas.cell column row)
      ∧ match lastStart? commands with
        | none => canvas.start = (none, false)
        | some command => StartsAt width height command.position canvas.start := by
  intro canvas
  have hwidth : canvas.width = width := width_putAll commands _
  have hheight : canvas.height = height := height_putAll commands _
  refine ⟨cell_putAll_blank width height commands, ?refused, ?unchanged, ?starts, ?last⟩
  case refused =>
    intro command
    rw [ne_eq, put_fst_eq_none_iff, takes_iff, hwidth, hheight]
    push Not
    rfl
  case unchanged =>
    intro command hrefused
    exact put_snd_of_refused hrefused
  case starts =>
    intro command hspawn
    rw [put_of_spawn hspawn]
    exact ⟨rfl, fun _ _ => cell_putSpawn command.position⟩
  case last =>
    have hstart := start_putAll (blank width height) commands
    cases hlast : lastStart? commands with
    | none =>
      rw [hlast] at hstart
      exact hstart
    | some command =>
      rw [hlast] at hstart
      change StartsAt width height command.position ((blank width height).putAll commands).start
      rw [hstart]
      exact startsAt_startAt (blank width height) command.position

/-- Floor that is replaced, floor below the board and beside a cell, and a start off the board that
    is taken back. -/
theorem canvas_is_last_writer_replaced :
    let below : Command := { kind := .floorValid, position := .floor 0 1 }
    let beside : Command :=
      { kind := .floorCheckpoint, position := { Position.defaultSpawn with x := .half } }
    let commands : List Command :=
      [{ kind := .floorValid, position := .floor 1 0 }, below,
        { kind := .playerSpawn, position := .floor 2 0 },
        { kind := .floorObstacle, position := .floor 1 0 },
        { kind := .playerSpawn, position := .defaultSpawn }, beside]
    let canvas := (blank 2 1).putAll commands
    canvas.cell 1 0 = some .floorObstacle ∧ canvas.cell 0 0 = none ∧ canvas.cell 0 1 = none
      ∧ (canvas.put beside).1 ≠ none ∧ (canvas.put below).2 = canvas
      ∧ canvas.start = (some (0, 0), false) := by
  intro below beside commands canvas
  obtain ⟨hcells, hrefused, hunchanged, -, hstart⟩ := canvas_is_last_writer 2 1 commands
  have hbelow : (canvas.put below).1 ≠ none := (hrefused below).mpr (by decide +kernel)
  have hlast : lastStart? commands = some { kind := .playerSpawn, position := .defaultSpawn } := by
    decide
  rw [hlast] at hstart
  refine ⟨?_, ?_, ?_, (hrefused beside).mpr ?_, hunchanged below hbelow, ?_⟩
  · exact (hcells 1 0).trans (by decide +kernel)
  · exact (hcells 0 0).trans (by decide +kernel)
  · exact (hcells 0 1).trans (by decide)
  · decide +kernel
  · exact hstart.on_board 0 (by decide) 0 (by decide) (by decide +kernel)

end Canvas

end TileLevel
