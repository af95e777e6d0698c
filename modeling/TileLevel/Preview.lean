import TileLevel.Level
import TileLevel.Picture

/-!
# Previews

A loaded level together with the canvas it was drawn on, its summary, and how far the view is
scrolled.
-/

namespace TileLevel

structure Preview where
  level : Level
  canvas : Canvas
  summary : LevelSummary
  /-- What the canvas refused; later commands were not drawn -/
  sinkError : Option SinkError
  /-- Rows and screen columns scrolled from the top left corner -/
  scroll : Nat × Nat
deriving DecidableEq, Repr

namespace Preview

def ofLevel (level : Level) : Preview :=
  let (outcome, canvas) := Canvas.sink.instantiateAll level.commands (.forMatrix level.matrix)
  { level, canvas
    summary := level.summary
    sinkError := match outcome with
      | .ok _ => none
      | .error refusal => some refusal
    scroll := (0, 0) }

/-! ## §1 Scrolling -/

/-- The nearest number between zero and the greatest allowed one. -/
def clamp (value : Int) (greatest : Nat) : Nat :=
  (min (max value 0) greatest).toNat

/-- An offset as it is kept: offsets are 16 bits wide. -/
def keepOffset (offset : Nat) : Nat :=
  offset % UInt16.size

/-- Scrolls by whole cells and not beyond the last one. A cell is two screen columns wide. The numbers
    are counted without bounds, which is exact as long as they fit into words of 32 bits. -/
def scrollBy (rows columns : Int) (preview : Preview) : Preview :=
  let (row, column) := preview.scroll
  { preview with
    scroll :=
      (keepOffset (clamp (row + rows) (preview.canvas.height - 1)),
        keepOffset (clamp (column + columns * 2) ((preview.canvas.width - 1) * 2))) }

/-! ## §2 Drawing -/

def draw {Colour : Type} [Typography] [Renderer Colour] (theme : Theme Colour) (width height : Nat)
    (preview : Preview) : Screen Colour :=
  preview.canvas.window preview.level.matrix theme width height preview.scroll.1 preview.scroll.2

/-! ## §3 Warnings -/

def listText (numbers : List Nat) : String :=
  "[" ++ ", ".intercalate (numbers.map toString) ++ "]"

def warnings (preview : Preview) : List String :=
  (if preview.summary.raggedRows = [] then []
    else ["rows " ++ listText preview.summary.raggedRows ++ " differ from row 0 width "
      ++ toString preview.summary.columns])
  ++ (if preview.canvas.spawnOffBoard then ["player spawn is outside the board"] else [])
  ++ (match preview.sinkError with
    | none => []
    | some refusal => ["preview incomplete: " ++ refusal.message])

end Preview

end TileLevel
