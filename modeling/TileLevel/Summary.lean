import TileLevel.Mapping

/-!
# Level Summaries

How many commands of each kind a level gives, and the shape of its text.
-/

namespace TileLevel

/-- Counts of a level's commands, and the shape of its tokens. -/
structure LevelSummary where
  rows : Nat := 0
  columns : Nat := 0
  valid : Nat := 0
  obstacles : Nat := 0
  checkpoints : Nat := 0
  spawns : Nat := 0
  raggedRows : List Nat := []
deriving DecidableEq, Repr

namespace LevelSummary

def countCommand (summary : LevelSummary) (command : Command) : LevelSummary :=
  match command.kind with
  | .floorValid => { summary with valid := summary.valid + 1 }
  | .floorObstacle => { summary with obstacles := summary.obstacles + 1 }
  | .floorCheckpoint => { summary with checkpoints := summary.checkpoints + 1 }
  | .playerSpawn => { summary with spawns := summary.spawns + 1 }

def ofCommands (commands : List Command) : LevelSummary :=
  commands.foldl countCommand {}

def describe (m : TokenMatrix) (commands : List Command) : LevelSummary :=
  { ofCommands commands with
    rows := m.rowCount, columns := m.columnBound, raggedRows := m.raggedRows }

def count (summary : LevelSummary) : Kind → Nat
  | .floorValid => summary.valid
  | .floorObstacle => summary.obstacles
  | .floorCheckpoint => summary.checkpoints
  | .playerSpawn => summary.spawns

/-- Floor of any kind. -/
def floorTiles (summary : LevelSummary) : Nat :=
  summary.valid + summary.obstacles + summary.checkpoints

end LevelSummary

end TileLevel
