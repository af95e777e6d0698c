import Mathlib
import TileLevel.Proofs.PlainText
import TileLevel.Proofs.Rendering

/-!
# The Window on a Board

A board is looked at through a window, which may begin at any row and screen column of its picture,
also beyond its end. Whatever cuts texts into clusters and whatever draws them glyph by glyph, when
every glyph that is drawn takes one column, all this comes to cutting a piece out of the picture.

## Main definitions

- `Canvas.Shows`: the glyph of a cell and its colour
- `Canvas.pictureRow`, `Canvas.pictureCell`: the whole picture, blank beyond its end
- `Canvas.StandsAt`: where in the picture a cell of the board is
- `Canvas.SingleColumn`: a picture in which every glyph that is drawn takes one column

## Main statements

- `drawLine_eq`: a line of such glyphs is cut like a list
- `clusters_fitToken`: what is left of a token is a single cluster
- `Canvas.standsAt`: each cell is two columns behind the one before it, less what is not drawn
- `Canvas.window_shows_picture`: a window is the piece of the picture behind it
-/

namespace TileLevel

variable {Colour : Type}

/-! ## §1 Lines of glyphs that take one column -/

section

variable {below : Style Colour} {line : List (Span Colour)}

/-- The screen cell in a column of a line, blank beyond the end. -/
def lineCell (below : Style Colour) (glyphs : List (Span Colour)) (column : Nat) :
    ScreenCell Colour :=
  ((glyphs[column]?).map (Span.cell below)).getD (blankCell below)

theorem lineCell_append_right (front rest : List (Span Colour)) (column : Nat) :
    lineCell below (front ++ rest) (front.length + column) = lineCell below rest column := by
  unfold lineCell
  rw [List.getElem?_append_right (Nat.le_add_right _ _), Nat.add_sub_cancel_left]

variable [Typography] [Renderer Colour] [LawfulRenderer Colour]

/-- **A line that is drawn** shows its cells from the first one that is not hidden. -/
theorem drawLine_eq (width hidden : Nat) (h : ∀ span ∈ line, span.IsNarrow) :
    drawLine width hidden below line =
      (List.range width).map fun j => lineCell below line (hidden + j) := by
  -- columns that are hidden drop glyphs from the front, and each column of the row takes one
  induction line generalizing width hidden with
  | nil =>
    rw [LawfulRenderer.drawLine_nil]
    simp [lineCell]
  | cons glyph rest ih =>
    have hrest := (List.forall_mem_cons.mp h).2
    cases hidden with
    | succ hidden =>
      rw [LawfulRenderer.drawLine_succ _ _ _ h, ih _ _ hrest]
      simp [lineCell, Nat.succ_add]
    | zero =>
      cases width with
      | zero => exact List.length_eq_zero_iff.mp (LawfulRenderer.length_drawLine _ _ _ _)
      | succ width =>
        rw [LawfulRenderer.drawLine_cons _ _ h, ih _ _ hrest]
        simp [List.range_succ_eq_map, lineCell]

end

/-! ## §2 What is left of a token -/

section

variable [Typography] [LawfulTypography]

theorem toList_ne_nil_of_mem_clusters {text cluster : String}
    (h : cluster ∈ Typography.clusters text) : cluster.toList ≠ [] := by
  intro hempty
  rw [String.toList_eq_nil_iff.mp hempty] at h
  exact LawfulTypography.empty_notMem_clusters text h

theorem clusters_empty : Typography.clusters "" = [] := by
  have htext := LawfulTypography.flatMap_clusters ""
  apply List.eq_nil_iff_forall_not_mem.mpr
  intro cluster hcluster
  exact toList_ne_nil_of_mem_clusters hcluster (List.flatMap_eq_nil_iff.mp htext cluster hcluster)

/-- A character alone is a cluster. -/
theorem clusters_singleton (c : Char) : Typography.clusters (.singleton c) = [.singleton c] := by
  have htext := LawfulTypography.flatMap_clusters (.singleton c)
  cases hclusters : Typography.clusters (.singleton c) with
  | nil =>
    rw [hclusters] at htext
    simp at htext
  | cons first others =>
    have hfirst : first ∈ Typography.clusters (.singleton c) := hclusters ▸ List.mem_cons_self
    rw [hclusters, List.flatMap_cons, String.toList_singleton] at htext
    -- the first cluster is not empty, so it takes the only character
    have hwhole : first.toList = [c] := by
      rcases List.append_eq_singleton_iff.mp htext with ⟨hempty, -⟩ | ⟨hwhole, -⟩
      · exact absurd hempty (toList_ne_nil_of_mem_clusters hfirst)
      · exact hwhole
    have hsame : first = .singleton c :=
      String.toList_injective (by rw [hwhole, String.toList_singleton])
    rw [← hclusters, ← hsame]
    exact LawfulTypography.clusters_of_mem hfirst

/-- Of no token a blank is left. -/
theorem fitToken_empty : fitToken "" = " " := by
  rw [fitToken, clusters_empty]

/-- **What is left of a token** is a cluster. -/
theorem clusters_fitToken (token : String) :
    Typography.clusters (fitToken token) = [fitToken token] := by
  unfold fitToken
  split
  case h_1 => exact clusters_singleton ' '
  case h_2 cluster others hclusters =>
    split
    · exact LawfulTypography.clusters_of_mem (hclusters ▸ List.mem_cons_self)
    · exact clusters_singleton '?'

end

/-! ## §3 The picture -/

theorem TokenMatrix.exists_mem_of_get? {m : TokenMatrix} {row column : Nat} {token : String}
    (h : m.get? row column = some token) : ∃ tokens ∈ m.rows, token ∈ tokens := by
  obtain ⟨tokens, hrow, hcolumn⟩ := Option.bind_eq_some_iff.mp h
  exact ⟨tokens, Array.mem_of_getElem? hrow, Array.mem_of_getElem? hcolumn⟩

/-- A piece of the picture: a colour on the background of the theme. -/
def Theme.glyph (theme : Theme Colour) (text : String) (colour : Colour) : Span Colour where
  text
  style := theme.onBackdrop colour

namespace Canvas

section

variable [Typography] {canvas : Canvas} {m : TokenMatrix} {theme : Theme Colour}
  {column row : Nat}

/-- The glyph of a cell and its colour: the start of the player, else the floor, else the token of
    the level as far as it fits, or a blank if there is none. -/
inductive Shows (canvas : Canvas) (m : TokenMatrix) (theme : Theme Colour) (column row : Nat) :
    String → Colour → Prop where
  | start (hspawn : canvas.spawn = some (column, row)) :
    Shows canvas m theme column row "@" theme.spawn
  | floor {kind : Kind} (hspawn : canvas.spawn ≠ some (column, row))
    (hcell : canvas.cell column row = some kind) :
    Shows canvas m theme column row (.singleton kind.glyph) (theme.kindColour kind)
  | token {token : String} (hspawn : canvas.spawn ≠ some (column, row))
    (hcell : canvas.cell column row = none) (htoken : m.get? row column = some token) :
    Shows canvas m theme column row (fitToken token) theme.dimmed
  | missing (hspawn : canvas.spawn ≠ some (column, row))
    (hcell : canvas.cell column row = none) (htoken : m.get? row column = none) :
    Shows canvas m theme column row " " theme.dimmed

/-- A row of the picture: for each cell its glyph and a blank, without the glyphs that have a control
    character. -/
def pictureRow (canvas : Canvas) (m : TokenMatrix) (theme : Theme Colour) (row : Nat) :
    List (Span Colour) :=
  (canvas.lineOf m theme row).filter (·.isDrawable)

/-- Each cell shows a glyph, and that is the one which is drawn. -/
theorem exists_shows [LawfulTypography] (canvas : Canvas) (m : TokenMatrix) (theme : Theme Colour)
    (column row : Nat) :
    ∃ text colour, canvas.Shows m theme column row text colour
      ∧ canvas.cellSpan m theme column row = theme.glyph text colour := by
  unfold cellSpan
  by_cases hspawn : canvas.spawn = some (column, row)
  · rw [if_pos hspawn]
    exact ⟨_, _, .start hspawn, rfl⟩
  · rw [if_neg hspawn]
    cases hcell : canvas.cell column row with
    | some kind => exact ⟨_, _, .floor hspawn hcell, rfl⟩
    | none =>
      cases htoken : m.get? row column with
      | some token => exact ⟨_, _, .token hspawn hcell htoken, rfl⟩
      | none =>
        rw [Option.getD_none, fitToken_empty]
        exact ⟨_, _, .missing hspawn hcell htoken, rfl⟩

/-- What a line is made of is not cut any further. -/
theorem clusters_of_mem_lineOf [LawfulTypography] {span : Span Colour}
    (h : span ∈ canvas.lineOf m theme row) : Typography.clusters span.text = [span.text] := by
  obtain ⟨column, -, hspan⟩ := List.mem_flatMap.mp h
  rcases List.mem_cons.mp hspan with rfl | hspan
  · obtain ⟨text, colour, hshows, hcell⟩ := exists_shows canvas m theme column row
    rw [hcell]
    cases hshows with
    | start => exact clusters_singleton '@'
    | floor => exact clusters_singleton _
    | token => exact clusters_fitToken _
    | missing => exact clusters_singleton ' '
  · rw [List.mem_singleton.mp hspan]
    exact clusters_singleton ' '

theorem getElem?_lines (canvas : Canvas) (m : TokenMatrix) (theme : Theme Colour) (row : Nat) :
    (canvas.paragraph m theme).lines[row]? =
      if row < canvas.height then some (canvas.lineOf m theme row) else none := by
  unfold paragraph
  split
  case isTrue hrow => simp [hrow]
  case isFalse hrow => simpa using hrow

/-- A control character among the characters of a glyph keeps it from being drawn. -/
def hidesCell (canvas : Canvas) (m : TokenMatrix) (theme : Theme Colour) (row column : Nat) :
    Bool :=
  !(canvas.cellSpan m theme column row).isDrawable

/-- How many cells to the left of a column have a glyph that is not drawn. -/
def hiddenBefore (canvas : Canvas) (m : TokenMatrix) (theme : Theme Colour) (row column : Nat) :
    Nat :=
  (List.range column).countP (canvas.hidesCell m theme row)

/-- What a cell contributes to its row. -/
def cellGlyphs (canvas : Canvas) (m : TokenMatrix) (theme : Theme Colour) (row column : Nat) :
    List (Span Colour) :=
  if canvas.hidesCell m theme row column then [separator theme]
  else [canvas.cellSpan m theme column row, separator theme]

/-- **A row of the picture** is made of its cells in order. -/
theorem pictureRow_eq (canvas : Canvas) (m : TokenMatrix) (theme : Theme Colour) (row : Nat) :
    canvas.pictureRow m theme row =
      (List.range canvas.width).flatMap (canvas.cellGlyphs m theme row) := by
  unfold pictureRow lineOf
  rw [List.filter_flatMap]
  apply List.flatMap_congr
  intro column _
  have hseparator : (separator theme).isDrawable = true := by
    simp [Span.isDrawable, separator, isControl]
  unfold cellGlyphs hidesCell
  cases hdrawable : (canvas.cellSpan m theme column row).isDrawable <;>
    simp [hseparator, hdrawable]

theorem length_cellGlyphs (canvas : Canvas) (m : TokenMatrix) (theme : Theme Colour)
    (row column : Nat) :
    (canvas.cellGlyphs m theme row column).length
      + (if canvas.hidesCell m theme row column then 1 else 0) = 2 := by
  unfold cellGlyphs
  split <;> simp

/-- The cells up to a column take two columns each, less those glyphs that are not drawn. -/
theorem length_flatMap_cellGlyphs (canvas : Canvas) (m : TokenMatrix) (theme : Theme Colour)
    (row column : Nat) :
    ((List.range column).flatMap (canvas.cellGlyphs m theme row)).length =
      2 * column - canvas.hiddenBefore m theme row column := by
  have hsum : ((List.range column).flatMap (canvas.cellGlyphs m theme row)).length
      + canvas.hiddenBefore m theme row column = 2 * column := by
    unfold hiddenBefore
    induction column with
    | zero => rfl
    | succ column ih =>
      have hcell := length_cellGlyphs canvas m theme row column
      rw [List.range_succ, List.flatMap_append, List.countP_append, List.length_append,
        List.flatMap_singleton, List.countP_singleton]
      omega
  omega

/-! ## §4 Where the cells stand -/

/-- The screen cell in a row and column of the whole picture, blank beyond its end. -/
def pictureCell (canvas : Canvas) (m : TokenMatrix) (theme : Theme Colour) (row column : Nat) :
    ScreenCell Colour :=
  lineCell theme.backdrop (if row < canvas.height then canvas.pictureRow m theme row else [])
    column

/-- A cell of the board stands at a column of the picture: its glyph with a blank behind it, or the
    blank alone if the glyph is not drawn. -/
def StandsAt (canvas : Canvas) (m : TokenMatrix) (theme : Theme Colour)
    (row column place : Nat) : Prop :=
  ∃ text colour, canvas.Shows m theme column row text colour ∧
    if text.toList.any isControl then
      canvas.pictureCell m theme row place = blankCell theme.backdrop
    else
      canvas.pictureCell m theme row place =
          { symbol := text
            style := { foreground := some colour, background := some theme.background } }
        ∧ canvas.pictureCell m theme row (place + 1) = blankCell theme.backdrop

/-- A row is cut before a cell and behind it. -/
theorem exists_pictureRow_eq_append (m : TokenMatrix) (theme : Theme Colour) (row : Nat)
    (hcolumn : column < canvas.width) :
    ∃ front rest, canvas.pictureRow m theme row
        = front ++ (canvas.cellGlyphs m theme row column ++ rest)
      ∧ front.length = 2 * column - canvas.hiddenBefore m theme row column := by
  obtain ⟨more, hwidth⟩ := Nat.exists_eq_add_of_lt hcolumn
  refine ⟨(List.range column).flatMap (canvas.cellGlyphs m theme row),
    ((List.range more).map (column + 1 + ·)).flatMap (canvas.cellGlyphs m theme row), ?_,
    length_flatMap_cellGlyphs canvas m theme row column⟩
  have hsplit : column + more + 1 = column + 1 + more := by omega
  rw [pictureRow_eq, hwidth, hsplit, List.range_add, List.range_succ, List.flatMap_append,
    List.flatMap_append, List.flatMap_singleton, List.append_assoc]

/-- **Each cell** stands two columns behind the one before it, less what is not drawn. -/
theorem standsAt [LawfulTypography] (m : TokenMatrix) (theme : Theme Colour)
    (hrow : row < canvas.height) (hcolumn : column < canvas.width) :
    canvas.StandsAt m theme row column
      (2 * column - canvas.hiddenBefore m theme row column) := by
  obtain ⟨text, colour, hshows, hglyph⟩ := exists_shows canvas m theme column row
  obtain ⟨front, rest, hpicture, hlength⟩ := exists_pictureRow_eq_append m theme row hcolumn
  have hhides : canvas.hidesCell m theme row column = text.toList.any isControl := by
    rw [hidesCell, hglyph, Span.isDrawable, Bool.not_not]
    rfl
  have hcell : ∀ k, canvas.pictureCell m theme row (front.length + k)
      = lineCell theme.backdrop (canvas.cellGlyphs m theme row column ++ rest) k := by
    intro k
    rw [pictureCell, if_pos hrow, hpicture, lineCell_append_right]
  refine ⟨text, colour, hshows, ?_⟩
  rw [← hlength]
  unfold cellGlyphs at hcell
  rw [hhides, hglyph] at hcell
  split
  case isTrue hcontrol =>
    rw [if_pos hcontrol] at hcell
    exact hcell 0
  case isFalse hdrawn =>
    rw [if_neg hdrawn] at hcell
    exact ⟨hcell 0, hcell 1⟩

/-- Nothing stands below the picture and to the right of a row. -/
theorem pictureCell_beyond (m : TokenMatrix) (theme : Theme Colour)
    (h : canvas.height ≤ row
      ∨ 2 * canvas.width - canvas.hiddenBefore m theme row canvas.width ≤ column) :
    canvas.pictureCell m theme row column = blankCell theme.backdrop := by
  unfold pictureCell lineCell
  split
  case isTrue hrow =>
    have hend : (canvas.pictureRow m theme row).length ≤ column := by
      rw [pictureRow_eq, length_flatMap_cellGlyphs]
      omega
    simp [hend]
  case isFalse => simp

/-- Without glyphs that are not drawn, nothing is moved. -/
theorem hiddenBefore_eq_zero (h : ∀ other < column, canvas.hidesCell m theme row other = false) :
    canvas.hiddenBefore m theme row column = 0 := by
  apply List.countP_eq_zero.mpr
  intro other hother
  simp [h other (List.mem_range.mp hother)]

/-- A picture in which every glyph that is drawn takes one column. -/
def SingleColumn (canvas : Canvas) (m : TokenMatrix) (theme : Theme Colour) : Prop :=
  ∀ row < canvas.height, ∀ glyph ∈ canvas.pictureRow m theme row,
    Typography.drawnColumns glyph.text = 1

theorem SingleColumn.isNarrow [LawfulTypography] (h : canvas.SingleColumn m theme)
    (hrow : row < canvas.height) :
    ∀ glyph ∈ canvas.pictureRow m theme row, glyph.IsNarrow := by
  intro glyph hglyph
  obtain ⟨hline, hdrawable⟩ := List.mem_filter.mp hglyph
  exact ⟨clusters_of_mem_lineOf hline, hdrawable, h row hrow glyph hglyph⟩

end

/-! ## §5 Pictures by the standard -/

section

variable {m : TokenMatrix}

/-- Only the tokens of a level can take more or less than one column. -/
theorem singleColumn_of_tokens (canvas : Canvas) (theme : Theme Colour)
    (h : ∀ tokens ∈ m.rows, ∀ token ∈ tokens, (fitToken token).toList.any isControl = true
      ∨ Typography.drawnColumns (fitToken token) = 1) :
    canvas.SingleColumn m theme := by
  intro row _ glyph hglyph
  rw [pictureRow_eq] at hglyph
  obtain ⟨column, -, hglyph⟩ := List.mem_flatMap.mp hglyph
  obtain ⟨text, colour, hshows, hcell⟩ := exists_shows canvas m theme column row
  have hblank : Typography.drawnColumns " " = 1 := by decide +kernel
  have hdrawn : text.toList.any isControl = true ∨ Typography.drawnColumns text = 1 := by
    cases hshows with
    | start => exact .inr (Kind.columns_glyph .playerSpawn)
    | floor => exact .inr (Kind.columns_glyph _)
    | token _ _ htoken =>
      obtain ⟨tokens, htokens, htoken⟩ := TokenMatrix.exists_mem_of_get? htoken
      exact h tokens htokens _ htoken
    | missing => exact .inr hblank
  unfold cellGlyphs hidesCell at hglyph
  rw [hcell] at hglyph
  split at hglyph
  case isTrue =>
    rw [List.mem_singleton.mp hglyph]
    exact hblank
  case isFalse hcontrol =>
    rcases List.mem_cons.mp hglyph with rfl | hglyph
    · exact hdrawn.resolve_left fun hany => hcontrol (by simp [Span.isDrawable, Theme.glyph, hany])
    · rw [List.mem_singleton.mp hglyph]
      exact hblank

/-- The picture of a level in ASCII has single columns, whatever is drawn on the canvas. -/
theorem singleColumn_of_ascii (canvas : Canvas) (theme : Theme Colour)
    (h : ∀ tokens ∈ m.rows, ∀ token ∈ tokens, ∀ c ∈ token.toList, c.toNat < 0x80) :
    canvas.SingleColumn m theme := by
  apply singleColumn_of_tokens
  intro tokens htokens token htoken
  exact columns_fitToken_of_ascii (h tokens htokens token htoken)

end

/-! ## §6 The window -/

/-- Dropping from the front of a table of numbers moves it. -/
theorem drop_map_range {α : Type} (f : Nat → α) (dropped count : Nat) :
    ((List.range (dropped + count)).map f).drop dropped =
      (List.range count).map fun k => f (dropped + k) := by
  rw [List.range_add, List.map_append, List.drop_left' (by simp), List.map_map]
  rfl

section

variable [Typography] [LawfulTypography] [Renderer Colour] [LawfulRenderer Colour]
  {canvas : Canvas} {m : TokenMatrix} {theme : Theme Colour}

/-- **A window** is the piece of the picture behind it. -/
theorem window_eq (h : canvas.SingleColumn m theme) (width height top left : Nat) :
    canvas.window m theme width height top left =
      (List.range height).map fun i => (List.range width).map fun j =>
        canvas.pictureCell m theme (top + i) (left + j) := by
  rw [window, LawfulRenderer.draw_eq _ _ _ rfl rfl]
  apply List.map_congr_left
  intro i _
  change drawLine width left theme.backdrop
    (((canvas.paragraph m theme).lines[top + i]?).getD []) = _
  unfold pictureCell
  rw [getElem?_lines]
  by_cases hrow : top + i < canvas.height
  · simp only [if_pos hrow, Option.getD_some]
    -- what cannot be drawn is left out, and the rest is cut
    rw [← LawfulRenderer.drawLine_glyphs,
      flatMap_glyphs_of_clusters fun span => clusters_of_mem_lineOf]
    exact drawLine_eq width left (h.isNarrow hrow)
  · simp only [if_neg hrow, Option.getD_none]
    exact drawLine_eq width left (by simp)

/-- **A scrolled window** is cut out of one that is not. -/
theorem window_eq_crop (h : canvas.SingleColumn m theme) (width height top left : Nat) :
    canvas.window m theme width height top left =
      ((canvas.window m theme (left + width) (top + height) 0 0).drop top).map (List.drop left) := by
  rw [window_eq h, window_eq h, drop_map_range, List.map_map]
  apply List.map_congr_left
  intro i _
  simp only [Function.comp_apply, Nat.zero_add, drop_map_range]

/-- **What a window shows.** Take any way to cut and to draw texts that meets its laws, any canvas, any
    level, of the same shape or not, and any colours, and let every glyph that is drawn take one
    column. Then a window shows in each of its cells the picture behind that cell, which is blank
    beyond its end. In the picture a cell of the board stands at twice its column, less the number of
    glyphs to its left that hold a control character and are not drawn; where there are none, the
    cells of a row stand two columns apart. A window that is scrolled is cut out of one that is
    not. -/
theorem window_shows_picture (canvas : Canvas) (m : TokenMatrix) (theme : Theme Colour)
    (hone : canvas.SingleColumn m theme) (width height top left : Nat) :
    (canvas.window m theme width height top left =
        (List.range height).map fun i => (List.range width).map fun j =>
          canvas.pictureCell m theme (top + i) (left + j))
      ∧ (∀ row < canvas.height, ∀ column < canvas.width,
        canvas.StandsAt m theme row column
          (2 * column - canvas.hiddenBefore m theme row column))
      ∧ (∀ row column, canvas.height ≤ row
          ∨ 2 * canvas.width - canvas.hiddenBefore m theme row canvas.width ≤ column →
        canvas.pictureCell m theme row column = blankCell theme.backdrop)
      ∧ (∀ row < canvas.height,
        (∀ column < canvas.width, canvas.hidesCell m theme row column = false) →
          ∀ column < canvas.width, canvas.StandsAt m theme row column (2 * column))
      ∧ canvas.window m theme width height top left =
        ((canvas.window m theme (left + width) (top + height) 0 0).drop top).map
          (List.drop left) := by
  refine ⟨window_eq hone width height top left, ?stands, ?beyond, ?aligned,
    window_eq_crop hone width height top left⟩
  case stands => exact fun row hrow column hcolumn => standsAt m theme hrow hcolumn
  case beyond => exact fun row column h => pictureCell_beyond m theme h
  case aligned =>
    intro row hrow hdrawn column hcolumn
    have hplace := standsAt m theme hrow hcolumn
    rwa [hiddenBefore_eq_zero fun other hother => hdrawn other (hother.trans hcolumn)] at hplace

end

/-- A board with a tab before its floor, scrolled by one row and an odd number of columns, in a
    window that reaches beyond it. The level is of another shape than the canvas, and its text is cut
    and drawn by the standard. -/
theorem window_shows_picture_tab :
    let canvas : Canvas :=
      { width := 3, height := 2, spawn := none, spawnOffBoard := false
        cells := #[none, none, none, none, none, some .floorValid] }
    let m : TokenMatrix := { rows := #[#["x"], #["\t", "ab", "", "y"]] }
    let screen := canvas.window m .midnight 6 2 1 1
    canvas.SingleColumn m .midnight
      ∧ canvas.StandsAt m .midnight 1 2 3
      ∧ screen.map (·.map (·.symbol)) =
        [["a", " ", "O", " ", " ", " "], [" ", " ", " ", " ", " ", " "]] := by
  intro canvas m screen
  have hone : canvas.SingleColumn m .midnight :=
    singleColumn_of_ascii canvas _ (by simp [m])
  obtain ⟨hscreen, hstands, -⟩ := window_shows_picture canvas m .midnight hone 6 2 1 1
  have hplace : 2 * 2 - canvas.hiddenBefore m .midnight 1 2 = 3 := by decide +kernel
  refine ⟨hone, ?_, ?_⟩
  · rw [← hplace]
    exact hstands 1 (by decide) 2 (by decide)
  · have hshown : screen = _ := hscreen
    rw [hshown]
    decide +kernel

end Canvas

end TileLevel
