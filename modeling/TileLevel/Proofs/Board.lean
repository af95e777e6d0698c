import Mathlib
import TileLevel.Proofs.Coordinates

/-!
# What a Board Shows

A canvas keeps its cells row after row in one array. Writing to a cell changes that cell and no
other, so after any commands a cell shows the last floor that was put on it, and the start is where
the last start command put it. Commands that are refused leave no trace.

## Main definitions

- `Canvas.WellFormed`: what holds of every canvas that commands were put on
- `Canvas.putAll`: commands one after the other, whether they are refused or not
- `Canvas.Takes`: the commands that are not refused

## Main statements

- `Canvas.put_cases`: what one command can do
- `Canvas.cell_putAll`, `Canvas.start_putAll`: the last command wins
- `Canvas.instantiateAll_of_takes`: delivery without a refusal
-/

namespace TileLevel.Canvas

variable {canvas : Canvas} {column row : Nat}

/-! ## §1 Cells in an array -/

theorem index_lt {width height : Nat} (hcolumn : column < width) (hrow : row < height) :
    row * width + column < width * height :=
  calc row * width + column < row * width + width := Nat.add_lt_add_left hcolumn _
    _ = (row + 1) * width := (Nat.succ_mul row width).symm
    _ ≤ height * width := Nat.mul_le_mul_right width hrow
    _ = width * height := Nat.mul_comm height width

theorem index_inj {width column' row' : Nat} (hcolumn : column < width)
    (hcolumn' : column' < width) :
    row * width + column = row' * width + column' ↔ column = column' ∧ row = row' := by
  constructor
  · intro h
    have hwidth : 0 < width := Nat.zero_lt_of_lt hcolumn
    -- both sides divided by the width leave the rows
    have hrow := congrArg (· / width) h
    simp only [Nat.mul_comm _ width, Nat.mul_add_div hwidth, Nat.div_eq_of_lt hcolumn,
      Nat.div_eq_of_lt hcolumn', Nat.add_zero] at hrow
    subst hrow
    exact ⟨Nat.add_left_cancel h, rfl⟩
  · rintro ⟨rfl, rfl⟩
    rfl

theorem cell_of_on_board (h : column < canvas.width ∧ row < canvas.height) :
    canvas.cell column row = canvas.cells[row * canvas.width + column]?.getD none :=
  if_pos h

theorem cell_of_off_board (h : ¬ (column < canvas.width ∧ row < canvas.height)) :
    canvas.cell column row = none :=
  if_neg h

theorem cell_blank (width height : Nat) : (blank width height).cell column row = none := by
  unfold cell
  split
  · simp only [blank, Array.getElem?_replicate]
    split <;> rfl
  · rfl

/-! ## §2 One command -/

@[simp]
theorem width_setCell (kind : Kind) : (canvas.setCell column row kind).width = canvas.width := rfl

@[simp]
theorem height_setCell (kind : Kind) :
    (canvas.setCell column row kind).height = canvas.height := rfl

/-- Where the player starts: a cell, off the board, or not known. -/
def start (canvas : Canvas) : Option (Nat × Nat) × Bool :=
  (canvas.spawn, canvas.spawnOffBoard)

/-- The start that a start command at a position gives. -/
def startAt (canvas : Canvas) (position : Position) : Option (Nat × Nat) × Bool :=
  match canvas.cellOf position with
  | .ok place => (some place, false)
  | .error _ => (none, true)

@[simp]
theorem start_setCell (kind : Kind) : (canvas.setCell column row kind).start = canvas.start := rfl

@[simp]
theorem start_putSpawn (position : Position) :
    (canvas.putSpawn position).start = canvas.startAt position := by
  unfold putSpawn startAt
  cases canvas.cellOf position <;> rfl

@[simp]
theorem width_putSpawn (position : Position) : (canvas.putSpawn position).width = canvas.width := by
  unfold putSpawn
  split <;> rfl

@[simp]
theorem height_putSpawn (position : Position) :
    (canvas.putSpawn position).height = canvas.height := by
  unfold putSpawn
  split <;> rfl

@[simp]
theorem cells_putSpawn (position : Position) : (canvas.putSpawn position).cells = canvas.cells := by
  unfold putSpawn
  split <;> rfl

@[simp]
theorem cell_putSpawn (position : Position) :
    (canvas.putSpawn position).cell column row = canvas.cell column row := by
  simp only [cell, width_putSpawn, height_putSpawn, cells_putSpawn]

/-- **What one command can do**: note a start, set a cell, or be refused and do nothing. -/
theorem put_cases (canvas : Canvas) (command : Command) :
    (command.kind = .playerSpawn
        ∧ canvas.put command = (none, canvas.putSpawn command.position))
      ∨ (∃ column row, command.kind ≠ .playerSpawn
        ∧ canvas.cellOf command.position = .ok (column, row)
        ∧ canvas.put command = (none, canvas.setCell column row command.kind))
      ∨ (∃ reason, command.kind ≠ .playerSpawn
        ∧ canvas.cellOf command.position = .error reason
        ∧ canvas.put command = (some (.outOfBounds reason.message), canvas)) := by
  unfold put
  split
  case isTrue hspawn => exact .inl ⟨hspawn, rfl⟩
  case isFalse hfloor =>
    split
    case h_1 column row hcell => exact .inr (.inl ⟨column, row, hfloor, hcell, rfl⟩)
    case h_2 reason hcell => exact .inr (.inr ⟨reason, hfloor, hcell, rfl⟩)

@[simp]
theorem width_put (canvas : Canvas) (command : Command) :
    (canvas.put command).2.width = canvas.width := by
  rcases put_cases canvas command with ⟨-, hput⟩ | ⟨_, _, -, -, hput⟩ | ⟨_, -, -, hput⟩ <;>
    simp [hput]

@[simp]
theorem height_put (canvas : Canvas) (command : Command) :
    (canvas.put command).2.height = canvas.height := by
  rcases put_cases canvas command with ⟨-, hput⟩ | ⟨_, _, -, -, hput⟩ | ⟨_, -, -, hput⟩ <;>
    simp [hput]

theorem cellOf_put (canvas : Canvas) (command : Command) :
    (canvas.put command).2.cellOf = canvas.cellOf :=
  cellOf_congr (width_put canvas command) (height_put canvas command)

/-! ## §3 Well-formed canvases -/

/-- What holds of every canvas that commands were put on: there is a place for each cell, starts are
    not kept as floor, a start on the board is on a cell, and none is both on and off the board. -/
structure WellFormed (canvas : Canvas) : Prop where
  size_cells : canvas.cells.size = canvas.width * canvas.height
  floor_only : some Kind.playerSpawn ∉ canvas.cells
  spawn_on_board : ∀ column row, canvas.spawn = some (column, row) →
    column < canvas.width ∧ row < canvas.height
  spawn_exclusive : canvas.spawnOffBoard = true → canvas.spawn = none

theorem wellFormed_blank (width height : Nat) : (blank width height).WellFormed where
  size_cells := Array.size_replicate
  floor_only := by simp [blank, Array.mem_replicate]
  spawn_on_board := by simp [blank]
  spawn_exclusive := by simp [blank]

theorem WellFormed.putSpawn (h : canvas.WellFormed) (position : Position) :
    (canvas.putSpawn position).WellFormed where
  size_cells := by simpa using h.size_cells
  floor_only := by simpa using h.floor_only
  spawn_on_board column row hspawn := by
    unfold Canvas.putSpawn at hspawn ⊢
    split at hspawn
    case h_1 place hcell =>
      -- the start is a cell of the canvas, or it would not have been found
      cases hspawn
      obtain ⟨-, -, hon⟩ := cellOf_eq_ok_iff.mp hcell
      simpa [hcell] using hon
    case h_2 => cases hspawn
  spawn_exclusive hoff := by
    unfold Canvas.putSpawn at hoff ⊢
    split at hoff <;> simp_all

theorem WellFormed.setCell (h : canvas.WellFormed) {kind : Kind} (hkind : kind ≠ .playerSpawn) :
    (canvas.setCell column row kind).WellFormed where
  size_cells := (Array.size_setIfInBounds ..).trans h.size_cells
  floor_only hmem := by
    rcases Array.mem_or_eq_of_mem_setIfInBounds hmem with hmem | heq
    · exact h.floor_only hmem
    · exact hkind (Option.some.inj heq).symm
  spawn_on_board := h.spawn_on_board
  spawn_exclusive := h.spawn_exclusive

/-- **Commands keep a canvas well-formed.** -/
theorem WellFormed.put (h : canvas.WellFormed) (command : Command) :
    (canvas.put command).2.WellFormed := by
  rcases put_cases canvas command with ⟨-, hput⟩ | ⟨column, row, hfloor, -, hput⟩ | ⟨_, -, -, hput⟩
  · rw [hput]
    exact h.putSpawn command.position
  · rw [hput]
    exact h.setCell hfloor
  · rw [hput]
    exact h

/-! ## §4 The last command wins -/

/-- Setting a cell of the board changes what that cell shows and nothing else. -/
theorem cell_setCell (h : canvas.WellFormed) {column' row' : Nat} (kind : Kind)
    (hcolumn : column < canvas.width) (hrow : row < canvas.height) :
    (canvas.setCell column row kind).cell column' row' =
      if column = column' ∧ row = row' then some kind else canvas.cell column' row' := by
  by_cases hon : column' < canvas.width ∧ row' < canvas.height
  case pos =>
    -- two cells of the board: they are one just when their places are
    have hindex : row * canvas.width + column < canvas.cells.size := by
      rw [h.size_cells]
      exact index_lt hcolumn hrow
    have hset : (canvas.setCell column row kind).cell column' row' =
        (canvas.cells.setIfInBounds (row * canvas.width + column)
          (some kind))[row' * canvas.width + column']?.getD none := cell_of_on_board hon
    rw [hset, cell_of_on_board hon, Array.getElem?_setIfInBounds]
    simp only [index_inj hcolumn hon.1, hindex, if_true]
    split <;> rfl
  case neg =>
    -- a cell off the board shows nothing and is not the one that was set
    have hset : (canvas.setCell column row kind).cell column' row' = none := cell_of_off_board hon
    rw [hset, cell_of_off_board hon, if_neg]
    rintro ⟨rfl, rfl⟩
    apply hon
    exact ⟨hcolumn, hrow⟩

/-- The floor that a command puts on a cell, if it puts any there. -/
def floorOn? (canvas : Canvas) (column row : Nat) (command : Command) : Option Kind :=
  if command.kind = .playerSpawn then none
  else match canvas.cellOf command.position with
    | .ok place => if place = (column, row) then some command.kind else none
    | .error _ => none

/-- A command at a cell puts its floor there; a start puts none anywhere. -/
theorem floorOn?_of_cellOf {command : Command} {place : Nat × Nat}
    (h : canvas.cellOf command.position = .ok place) :
    canvas.floorOn? column row command =
      if place = (column, row) ∧ command.kind ≠ .playerSpawn then some command.kind else none := by
  simp only [floorOn?, h]
  split <;> simp_all

theorem cell_put (h : canvas.WellFormed) (command : Command) :
    (canvas.put command).2.cell column row
      = (canvas.floorOn? column row command).or (canvas.cell column row) := by
  rcases put_cases canvas command with
    ⟨hspawn, hput⟩ | ⟨column', row', hfloor, hcell, hput⟩ | ⟨reason, hfloor, hcell, hput⟩
  · simp [hput, floorOn?, hspawn]
  · obtain ⟨-, -, hcolumn, hrow⟩ := cellOf_eq_ok_iff.mp hcell
    simp only [hput, floorOn?, if_neg hfloor, hcell, Prod.mk.injEq]
    rw [cell_setCell h command.kind hcolumn hrow]
    split <;> rfl
  · simp [hput, floorOn?, hfloor, hcell]

/-- Puts commands one after the other; those that are refused are passed over. -/
def putAll (commands : List Command) (canvas : Canvas) : Canvas :=
  commands.foldl (fun canvas command => (canvas.put command).2) canvas

theorem putAll_cons (command : Command) (commands : List Command) (canvas : Canvas) :
    canvas.putAll (command :: commands) = (canvas.put command).2.putAll commands := rfl

@[simp]
theorem width_putAll (commands : List Command) (canvas : Canvas) :
    (canvas.putAll commands).width = canvas.width := by
  induction commands generalizing canvas with
  | nil => rfl
  | cons command commands ih => rw [putAll_cons, ih, width_put]

@[simp]
theorem height_putAll (commands : List Command) (canvas : Canvas) :
    (canvas.putAll commands).height = canvas.height := by
  induction commands generalizing canvas with
  | nil => rfl
  | cons command commands ih => rw [putAll_cons, ih, height_put]

theorem cellOf_putAll (commands : List Command) (canvas : Canvas) :
    (canvas.putAll commands).cellOf = canvas.cellOf :=
  cellOf_congr (width_putAll commands canvas) (height_putAll commands canvas)

theorem WellFormed.putAll (h : canvas.WellFormed) (commands : List Command) :
    (canvas.putAll commands).WellFormed := by
  induction commands generalizing canvas with
  | nil => exact h
  | cons command commands ih =>
    apply ih
    exact h.put command

theorem floorOn?_congr {a b : Canvas} (h : a.cellOf = b.cellOf) :
    a.floorOn? column row = b.floorOn? column row := by
  funext command
  simp only [floorOn?, h]

/-- **A cell shows the last floor put on it**, or what it showed before. -/
theorem cell_putAll (h : canvas.WellFormed) (commands : List Command) :
    (canvas.putAll commands).cell column row =
      (commands.filterMap (canvas.floorOn? column row)).getLast?.or (canvas.cell column row) := by
  induction commands generalizing canvas with
  | nil => rfl
  | cons command commands ih =>
    rw [putAll_cons, ih (h.put command), cell_put h, floorOn?_congr (cellOf_put canvas command),
      List.filterMap_cons]
    cases hfloor : canvas.floorOn? column row command with
    | none => rfl
    | some kind =>
      -- this floor counts only if no later command puts any there
      rw [List.getLast?_cons]
      cases (commands.filterMap (canvas.floorOn? column row)).getLast? <;> rfl

/-- The last of some commands that is a start. -/
def lastStart? (commands : List Command) : Option Command :=
  (commands.filter (·.kind = .playerSpawn)).getLast?

theorem start_put (canvas : Canvas) (command : Command) :
    (canvas.put command).2.start =
      if command.kind = .playerSpawn then canvas.startAt command.position else canvas.start := by
  rcases put_cases canvas command with
    ⟨hspawn, hput⟩ | ⟨_, _, hfloor, -, hput⟩ | ⟨_, hfloor, -, hput⟩
  · simp [hput, hspawn]
  · simp [hput, hfloor]
  · simp [hput, hfloor]

/-- **The start is where the last start command puts it**, or where it was before. -/
theorem start_putAll (canvas : Canvas) (commands : List Command) :
    (canvas.putAll commands).start =
      match lastStart? commands with
      | some command => canvas.startAt command.position
      | none => canvas.start := by
  induction commands generalizing canvas with
  | nil => rfl
  | cons command commands ih =>
    have hstartAt : (canvas.put command).2.startAt = canvas.startAt := by
      funext position
      simp only [startAt, cellOf_put]
    rw [putAll_cons, ih, start_put, hstartAt, lastStart?, lastStart?, List.filter_cons]
    by_cases hspawn : command.kind = .playerSpawn
    · -- a start that a later one replaces, or else stays
      simp only [hspawn, decide_true, if_true, List.getLast?_cons]
      cases (commands.filter (·.kind = .playerSpawn)).getLast? <;> rfl
    · simp only [hspawn, decide_false, if_false, Bool.false_eq_true]

/-! ## §5 Delivery without a refusal -/

/-- Commands that the canvas does not refuse. -/
def Takes (canvas : Canvas) (command : Command) : Prop :=
  command.kind = .playerSpawn ∨ ∃ place, canvas.cellOf command.position = .ok place

theorem put_fst_eq_none_iff {command : Command} :
    (canvas.put command).1 = none ↔ canvas.Takes command := by
  unfold Takes
  rcases put_cases canvas command with
    ⟨hspawn, hput⟩ | ⟨column, row, hfloor, hcell, hput⟩ | ⟨reason, hfloor, hcell, hput⟩
  · simp [hput, hspawn]
  · simp [hput, hcell]
  · -- refused: neither a start nor at a cell
    simp [hput, hfloor, hcell]

/-- Delivery on a canvas that takes every command puts them all and counts them. -/
theorem instantiateAll_of_takes {commands : List Command}
    (h : ∀ command ∈ commands, canvas.Takes command) :
    sink.instantiateAll commands canvas = (.ok commands.length, canvas.putAll commands) := by
  -- the count so far is a parameter of delivery, so the induction is on any count
  suffices hfrom : ∀ count, sink.deliverFrom count commands canvas
      = (.ok (count + commands.length), canvas.putAll commands) by
    simpa [Sink.instantiateAll] using hfrom 0
  induction commands generalizing canvas with
  | nil => intro count; rfl
  | cons command commands ih =>
    intro count
    have htaken := put_fst_eq_none_iff.mpr (h command (List.mem_cons_self ..))
    have hothers : ∀ other ∈ commands, (canvas.put command).2.Takes other := by
      intro other hother
      rw [Takes, cellOf_put]
      exact h other (List.mem_cons_of_mem _ hother)
    have hput : sink.instantiate command canvas = (none, (canvas.put command).2) :=
      Prod.ext htaken rfl
    rw [Sink.deliverFrom, hput]
    simp only
    rw [ih hothers, putAll_cons, List.length_cons, Nat.add_assoc, Nat.add_comm 1]

end TileLevel.Canvas
