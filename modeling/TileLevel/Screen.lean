import TileLevel.Paragraph
import TileLevel.Text.Split
import TileLevel.Text.Width

/-!
# Character Screens

A renderer for a screen of characters. Text is drawn line by line as glyphs, which are clusters with
a style: clusters with control characters are not drawn, a glyph that takes two columns leaves its
second cell blank, one that takes none is not seen, and a line is cut where the next glyph would not
fit.

## Main definitions

- `Text.unicode`: clusters and columns by the Unicode standard
- `cutLine`: the glyphs of a line that fit, from a column on
- `textScreen`: the renderer
-/

namespace TileLevel

/-! ## §1 Clusters -/

namespace Text

/-- The sound marks that stand beside a narrow kana and not above it. -/
def isNarrowSoundMark (c : Char) : Bool :=
  c.toNat == 0xFF9E || c.toNat == 0xFF9F

/-- Columns of characters that are drawn as one. A screen gives each narrow sound mark a second
    column. Both counts are taken in 16 bits, and their sum stops at the largest such number. -/
def drawnColumns (cluster : Cluster) : Nat :=
  min (UInt16.size - 1)
    (clusterColumns .drawing cluster % UInt16.size
      + cluster.countP isNarrowSoundMark % UInt16.size)

instance unicode : Typography where
  clusters text := (clusters text.toList).map String.ofList
  columns cluster := clusterColumns .fitting cluster.toList
  drawnColumns cluster := drawnColumns cluster.toList

end Text

variable {Colour : Type}

/-- Columns of a glyph. -/
def Span.columns (glyph : Span Colour) : Nat :=
  Typography.drawnColumns glyph.text

/-! ## §2 Lines -/

/-- The glyphs of a line that are seen in a row of `columns` cells, of which `used` are taken, when
    the first `hidden` columns are scrolled away. A glyph wider than the row is passed over, and the
    first one that does not fit any more ends the line. -/
def cutLine (columns : Nat) (used hidden : Nat) : List (Span Colour) → List (Span Colour)
  | [] => []
  | glyph :: rest =>
    if columns < glyph.columns then cutLine columns used hidden rest
    else if columns < used + glyph.columns then []
    -- a glyph that is cut by the left edge is seen whole
    else if hidden = 0 ∨ hidden < glyph.columns then
      glyph :: cutLine columns (used + glyph.columns) 0 rest
    else cutLine columns used (hidden - glyph.columns) rest

/-- The cells of a glyph: the first holds it, the others are blank. -/
def Span.cells (below : Style Colour) (glyph : Span Colour) : List (ScreenCell Colour) :=
  match glyph.columns with
  | 0 => []
  | more + 1 => glyph.cell below :: List.replicate more (blankCell below)

/-- Blank cells, then the given ones, then blank cells up to the width. -/
def placeCells (width start : Nat) (below : Style Colour) (cells : List (ScreenCell Colour)) :
    List (ScreenCell Colour) :=
  List.replicate start (blankCell below) ++ cells
    ++ List.replicate (width - (start + cells.length)) (blankCell below)

/-- The glyphs of a line that are seen in a row, cell by cell. -/
def seenCells (width hidden : Nat) (below : Style Colour) (line : List (Span Colour)) :
    List (ScreenCell Colour) :=
  (cutLine width 0 hidden (line.flatMap Span.glyphs)).flatMap (·.cells below)

/-- A line in a row of its own. A line in the middle is not scrolled sideways: half the row comes
    before half the line, both rounded down. -/
def placeLine (alignment : Alignment) (width hidden : Nat) (below : Style Colour)
    (line : List (Span Colour)) : List (ScreenCell Colour) :=
  match alignment with
  | .left => placeCells width 0 below (seenCells width hidden below line)
  | .centre =>
    let cells := seenCells width 0 below line
    placeCells width (width / 2 - cells.length / 2) below cells

/-! ## §3 Paragraphs -/

/-- The rows of a paragraph without its border. -/
def placeLines (p : Paragraph Colour) (width height : Nat) : Screen Colour :=
  (List.range height).map fun i =>
    placeLine p.alignment width p.scroll.2 p.style ((p.lines[p.scroll.1 + i]?).getD [])

/-- The border of an area, as a row. -/
def borderRow (width : Nat) (style below : Style Colour) : List (ScreenCell Colour) :=
  List.replicate width { symbol := "─", style := style.over below }

instance textScreen : Renderer Colour where
  draw p width height :=
    match p.border, height with
    | none, _ => placeLines p width height
    | some _, 0 => []
    | some style, rest + 1 => borderRow width style p.style :: placeLines p width rest

end TileLevel
