import TileLevel.Single.Numeral
import TileLevel.Sink
import TileLevel.TokenMatrix

/-!
# The Board Canvas

A canvas is a sink that keeps the last floor placed on each cell of a board and where the player
starts. Floor can only be placed on a cell: `x` must be the column and `-z` the row, both whole and
inside the board. A start off the board is noted and refuses nothing, so the rest of the level is
still drawn.

## Main definitions

- `Canvas`: floor by cell, and the start
- `Canvas.cellOf`: the cell at a position
- `Canvas.put`: one command
-/

namespace TileLevel

/-! ## §1 Positions off the board -/

/-- Why a position is no cell of a board. -/
inductive OffBoard where
  /-- A coordinate is not a natural number -/
  | notACell (position : Position)
  /-- The cell is beyond the board -/
  | outside (column row width height : Nat)
deriving DecidableEq, Repr

namespace OffBoard

/-- The greatest column or row that a message can name; greater ones are shown as this one. -/
def greatestIndex : Nat := UInt64.size - 1

def message : OffBoard → String
  | .notACell p =>
    "(" ++ p.x.display ++ ", " ++ p.y.display ++ ", " ++ p.z.display ++ ") is not a board cell"
  | .outside column row width height =>
    "cell (" ++ toString (min column greatestIndex) ++ ", " ++ toString (min row greatestIndex)
      ++ ") outside " ++ toString width ++ "x" ++ toString height ++ " board"

end OffBoard

/-! ## §2 The canvas -/

/-- Floor by cell, row after row, and where the player starts. -/
structure Canvas where
  width : Nat
  height : Nat
  cells : Array (Option Kind)
  /-- The column and row of the start -/
  spawn : Option (Nat × Nat)
  /-- A start was placed that is on no cell -/
  spawnOffBoard : Bool
deriving DecidableEq, Repr

namespace Canvas

def blank (width height : Nat) : Canvas where
  width
  height
  cells := Array.replicate (width * height) none
  spawn := none
  spawnOffBoard := false

/-- A canvas of the size of a level: as wide as its first row. -/
def forMatrix (m : TokenMatrix) : Canvas :=
  blank m.columnBound m.rowCount

/-- The floor on a cell, none beyond the board. -/
def cell (canvas : Canvas) (column row : Nat) : Option Kind :=
  if column < canvas.width ∧ row < canvas.height then
    (canvas.cells[row * canvas.width + column]?).getD none
  else none

/-- The column and row at a position. -/
def cellOf (canvas : Canvas) (position : Position) : Except OffBoard (Nat × Nat) :=
  match position.x.wholeNumber?, position.z.neg.wholeNumber? with
  | some column, some row =>
    if column < canvas.width ∧ row < canvas.height then .ok (column, row)
    else .error (.outside column row canvas.width canvas.height)
  | _, _ => .error (.notACell position)

def putSpawn (position : Position) (canvas : Canvas) : Canvas :=
  match canvas.cellOf position with
  | .ok place => { canvas with spawn := some place, spawnOffBoard := false }
  | .error _ => { canvas with spawn := none, spawnOffBoard := true }

/-- Puts floor on a cell, over what was there. -/
def setCell (column row : Nat) (kind : Kind) : Canvas → Canvas
  -- taken apart, so that the cells are changed in place
  | { width, height, cells, spawn, spawnOffBoard } =>
    { width, height, spawn, spawnOffBoard
      cells := cells.setIfInBounds (row * width + column) (some kind) }

/-- Takes a command. Only floor that is on no cell is refused. -/
def put (command : Command) (canvas : Canvas) : Option SinkError × Canvas :=
  if command.kind = .playerSpawn then (none, canvas.putSpawn command.position)
  else match canvas.cellOf command.position with
    | .ok (column, row) => (none, canvas.setCell column row command.kind)
    | .error reason => (some (.outOfBounds reason.message), canvas)

def sink : Sink Canvas where
  instantiate := put

end Canvas

end TileLevel
