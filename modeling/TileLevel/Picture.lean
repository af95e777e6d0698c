import TileLevel.Canvas
import TileLevel.Paragraph

/-!
# The Picture of a Board

Each cell of a board is drawn as one glyph and a blank, so that cells are two columns wide: the
start of the player, else the floor on the canvas, else the token of the level, dimmed. A token is
cut to its first cluster, and shown as `?` if that does not take exactly one column.

## Main definitions

- `Kind.glyph`, `fitToken`: what a cell shows
- `Canvas.paragraph`: the whole picture
- `Canvas.window`: the part of the picture that is on the screen
-/

namespace TileLevel

def Kind.glyph : Kind → Char
  | .floorValid => 'O'
  | .floorObstacle => '█'
  | .floorCheckpoint => '◆'
  | .playerSpawn => '@'

section

variable [Typography]

/-- The first cluster of a token if it takes one column. -/
def fitToken (token : String) : String :=
  match Typography.clusters token with
  | [] => " "
  | cluster :: _ => if Typography.columns cluster = 1 then cluster else "?"

end

namespace Canvas

variable {Colour : Type}

/-- What stands behind the glyph of a cell. -/
def separator (theme : Theme Colour) : Span Colour where
  text := " "
  style := theme.backdrop

variable [Typography]

/-- The glyph of a cell. -/
def cellSpan (canvas : Canvas) (m : TokenMatrix) (theme : Theme Colour) (column row : Nat) :
    Span Colour :=
  if canvas.spawn = some (column, row) then
    { text := .singleton Kind.playerSpawn.glyph, style := theme.onBackdrop theme.spawn }
  else match canvas.cell column row with
    | some kind =>
      { text := .singleton kind.glyph, style := theme.onBackdrop (theme.kindColour kind) }
    | none =>
      { text := fitToken ((m.get? row column).getD ""), style := theme.onBackdrop theme.dimmed }

/-- A line of the picture: for each cell of a row its glyph and a blank. -/
def lineOf (canvas : Canvas) (m : TokenMatrix) (theme : Theme Colour) (row : Nat) :
    List (Span Colour) :=
  (List.range canvas.width).flatMap fun column =>
    [canvas.cellSpan m theme column row, separator theme]

/-- The picture, from its top left corner on. -/
def paragraph (canvas : Canvas) (m : TokenMatrix) (theme : Theme Colour) : Paragraph Colour where
  lines := (List.range canvas.height).map (canvas.lineOf m theme)
  style := theme.backdrop

/-- The part of the picture that begins at a row and a screen column, in an area of its own. -/
def window [Renderer Colour] (canvas : Canvas) (m : TokenMatrix) (theme : Theme Colour)
    (width height : Nat) (top left : Nat) : Screen Colour :=
  Renderer.draw { canvas.paragraph m theme with scroll := (top, left) } width height

end Canvas

end TileLevel
