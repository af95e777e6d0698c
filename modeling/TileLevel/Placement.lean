import TileLevel.Single.Rounding

/-!
# Placement Commands

What a level asks to be created: things of a few kinds, each at a position. The board lies flat, its
columns along `x` and its rows along negative `z`.

## Main definitions

- `Kind`: what can be placed
- `Position.floor`: where the cell in a column and row lies
- `Command`: one thing to create
- `Command.agrees`: comparison by the numbers' own equality
-/

namespace TileLevel

/-- What can be placed: three kinds of floor, and the player. -/
inductive Kind where
  | floorValid
  | floorObstacle
  | floorCheckpoint
  | playerSpawn
deriving DecidableEq, Repr, Inhabited

namespace Kind

/-- All kinds, in the order in which they are listed. -/
def all : List Kind :=
  [.floorValid, .floorObstacle, .floorCheckpoint, .playerSpawn]

def name : Kind → String
  | .floorValid => "FloorValid"
  | .floorObstacle => "FloorObstacle"
  | .floorCheckpoint => "FloorCheckpoint"
  | .playerSpawn => "PlayerSpawn"

theorem name_injective {a b : Kind} (h : a.name = b.name) : a = b := by
  cases a <;> cases b <;> first | rfl | exact absurd h (by decide)

end Kind

structure Position where
  x : Single
  y : Single
  z : Single
deriving DecidableEq, Repr, Inhabited

namespace Position

/-- Where the cell in a column and row lies. Row zero has the positive zero. -/
def floor (column row : Nat) : Position where
  x := .ofNat column
  y := .zero
  z := if row = 0 then .zero else (Single.ofNat row).neg

/-- Where the player starts if nothing else is said: half a unit above the first cell. -/
def defaultSpawn : Position where
  x := .zero
  y := .half
  z := .zero

def agrees (a b : Position) : Bool :=
  a.x.agrees b.x && a.y.agrees b.y && a.z.agrees b.z

end Position

structure Command where
  kind : Kind
  position : Position
deriving DecidableEq, Repr, Inhabited

/-- Equal kinds, at positions that compare equal. -/
def Command.agrees (a b : Command) : Bool :=
  a.kind == b.kind && a.position.agrees b.position

end TileLevel
