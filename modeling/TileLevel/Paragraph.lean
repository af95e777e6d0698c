import TileLevel.Palette

/-!
# Paragraphs

A paragraph is lines of styled text, to be drawn on a screen of characters. How a text is cut into
the clusters that a reader sees as one character, how many columns they take, and how a paragraph is
drawn, is up to libraries that are not part of this one: they are known by their operations and by
what can be relied on.

## Main definitions

- `Paragraph`, `Screen`: what is drawn, and on what
- `Typography`, `LawfulTypography`: clusters and their columns
- `Renderer`, `LawfulRenderer`: drawing a paragraph
-/

namespace TileLevel

/-! ## §1 What is drawn -/

variable {Colour : Type}

/-- A piece of text in a style of its own. -/
structure Span (Colour : Type) where
  text : String
  style : Style Colour := {}
deriving DecidableEq, Repr

inductive Alignment where
  | left
  | centre
deriving DecidableEq, Repr

structure Paragraph (Colour : Type) where
  lines : List (List (Span Colour))
  /-- The style of the whole area, also where there is no text -/
  style : Style Colour := {}
  alignment : Alignment := .left
  /-- Lines and columns that are scrolled away -/
  scroll : Nat × Nat := (0, 0)
  /-- The style of a border above the text, if there is one -/
  border : Option (Style Colour) := none
deriving DecidableEq, Repr

/-! ## §2 What it is drawn on -/

structure ScreenCell (Colour : Type) where
  symbol : String := " "
  style : Style Colour := {}
deriving DecidableEq, Repr

def blankCell (below : Style Colour) : ScreenCell Colour where
  style := below

/-- Rows of cells, the top one first. -/
abbrev Screen (Colour : Type) := List (List (ScreenCell Colour))

/-! ## §3 Clusters -/

/-- How texts are cut and measured. -/
class Typography where
  /-- The parts of a text that are read as one character -/
  clusters : String → List String
  /-- Columns of a cluster, by which a token is fitted into a cell -/
  columns : String → Nat
  /-- Columns of a cluster on a screen, which may follow another edition of the standard -/
  drawnColumns : String → Nat

/-- Nothing of a text is lost when it is cut, and its clusters are not cut further. -/
class LawfulTypography [Typography] : Prop where
  flatMap_clusters : ∀ text : String, (Typography.clusters text).flatMap String.toList = text.toList
  empty_notMem_clusters : ∀ text : String, "" ∉ Typography.clusters text
  clusters_of_mem : ∀ {text cluster : String},
    cluster ∈ Typography.clusters text → Typography.clusters cluster = [cluster]

/-- Control characters act on a terminal and show nothing. -/
def isControl (c : Char) : Bool :=
  c.toNat < 0x20 || (0x7F ≤ c.toNat && c.toNat ≤ 0x9F)

namespace Span

/-- Whether all of a text can be shown. -/
def isDrawable (span : Span Colour) : Bool :=
  !span.text.toList.any isControl

/-- The screen cell of a glyph that takes one column. -/
def cell (below : Style Colour) (span : Span Colour) : ScreenCell Colour where
  symbol := span.text
  style := span.style.over below

variable [Typography]

/-- The clusters of a text in its style, without those that cannot be shown. -/
def glyphs (span : Span Colour) : List (Span Colour) :=
  ((Typography.clusters span.text).map ({ span with text := · })).filter (·.isDrawable)

/-- A single cluster that can be shown, and takes one column then. -/
structure IsNarrow (span : Span Colour) : Prop where
  clusters_eq : Typography.clusters span.text = [span.text]
  isDrawable : span.isDrawable = true
  columns_eq : Typography.drawnColumns span.text = 1

end Span

/-! ## §4 Drawing -/

/-- What draws a paragraph in an area of its own. -/
class Renderer (Colour : Type) where
  draw : Paragraph Colour → (width height : Nat) → Screen Colour

/-- A line in a row of its own, with its first `hidden` columns scrolled away. -/
def drawLine [Renderer Colour] (width hidden : Nat) (below : Style Colour)
    (line : List (Span Colour)) : List (ScreenCell Colour) :=
  (Renderer.draw { lines := [line], style := below, scroll := (0, hidden) } width 1).headD []

/-- Renderers that draw line by line and glyph by glyph. The laws of a glyph are about lines in which
    each takes one column. -/
class LawfulRenderer (Colour : Type) [Typography] [Renderer Colour] : Prop where
  /-- The first row shows the first line that is not scrolled away, and a row without a line is
      blank. -/
  draw_eq : ∀ (p : Paragraph Colour) (width height : Nat), p.alignment = .left → p.border = none →
    Renderer.draw p width height = (List.range height).map fun i =>
      drawLine width p.scroll.2 p.style ((p.lines[p.scroll.1 + i]?).getD [])
  /-- A row has as many cells as the area is wide. -/
  length_drawLine : ∀ (width hidden : Nat) (below : Style Colour) (line : List (Span Colour)),
    (drawLine width hidden below line).length = width
  /-- Nothing is drawn of clusters with a control character. -/
  drawLine_glyphs : ∀ (width hidden : Nat) (below : Style Colour) (line : List (Span Colour)),
    drawLine width hidden below (line.flatMap Span.glyphs) = drawLine width hidden below line
  drawLine_nil : ∀ (width hidden : Nat) (below : Style Colour),
    drawLine width hidden below [] = List.replicate width (blankCell below)
  /-- The first glyph is seen in the first column. -/
  drawLine_cons : ∀ (width : Nat) (below : Style Colour) {glyph : Span Colour}
      {rest : List (Span Colour)}, (∀ span ∈ glyph :: rest, span.IsNarrow) →
    drawLine (width + 1) 0 below (glyph :: rest) = glyph.cell below :: drawLine width 0 below rest
  /-- The first column that is scrolled away hides the first glyph. -/
  drawLine_succ : ∀ (width hidden : Nat) (below : Style Colour) {glyph : Span Colour}
      {rest : List (Span Colour)}, (∀ span ∈ glyph :: rest, span.IsNarrow) →
    drawLine width (hidden + 1) below (glyph :: rest) = drawLine width hidden below rest

end TileLevel
