import Mathlib
import TileLevel.Screen

/-!
# What Can Be Relied on When Text Is Drawn

The clusters of the standard and the renderer for character screens are one way to cut and to draw
texts. Here they are shown to meet the laws of such ways: a cluster is scanned from its first
character, so it is cut as before when it stands alone, and a line is drawn like a list is cut when
each of its glyphs takes one column.

## Main statements

- `Text.flatten_clusters`, `Text.clusters_of_mem`: clusters make up the text and are not cut further
- `cutLine_eq`: a line of glyphs that take one column is cut like a list
- the instances of `LawfulTypography` and `LawfulRenderer`
-/

namespace TileLevel

/-! ## §1 Clusters -/

namespace Text

/-- The characters of an open cluster, last one first, and what is known of them. -/
inductive Opens : List Char → Scan → Prop where
  | start (c : Char) : Opens [c] (.start c)
  | advance {c : Char} {current : List Char} {scan : Scan} (hopen : Opens current scan)
    (htakes : scan.takes c = true) : Opens (c :: current) (scan.advance c)

variable {current : List Char} {scan : Scan}

/-- The scan of a text comes by each cluster that can be open at its beginning. -/
theorem Opens.clusters_append (h : Opens current scan) (rest : List Char) :
    clusters (current.reverse ++ rest) = clustersFrom [] current scan rest := by
  induction h generalizing rest with
  | start c => rfl
  | @advance c _ _ hopen htakes ih =>
    rw [List.reverse_cons, List.append_assoc, List.singleton_append, ih (c :: rest), clustersFrom,
      if_pos htakes]

/-- An open cluster is cut from nothing but itself. -/
theorem Opens.clusters_reverse (h : Opens current scan) :
    clusters current.reverse = [current.reverse] := by
  have hwhole := h.clusters_append []
  rwa [List.append_nil] at hwhole

theorem flatten_clustersFrom (done : List Cluster) (current : List Char) (scan : Scan)
    (text : List Char) :
    (clustersFrom done current scan text).flatten =
      done.reverse.flatten ++ (current.reverse ++ text) := by
  induction text generalizing done current scan with
  | nil => simp [clustersFrom]
  | cons c rest ih =>
    unfold clustersFrom
    split <;> simp [ih]

/-- **The clusters of a text** make it up. -/
theorem flatten_clusters (text : List Char) : (clusters text).flatten = text := by
  cases text with
  | nil => rfl
  | cons c rest => simp [clusters, flatten_clustersFrom]

/-- Every cluster was open once. -/
theorem clusters_of_mem_clustersFrom {done : List Cluster}
    (hdone : ∀ cluster ∈ done, clusters cluster = [cluster]) (hopen : Opens current scan)
    (text : List Char) :
    ∀ cluster ∈ clustersFrom done current scan text, clusters cluster = [cluster] := by
  induction text generalizing done current scan with
  | nil =>
    intro cluster hcluster
    rw [clustersFrom, List.mem_reverse] at hcluster
    rcases List.mem_cons.mp hcluster with rfl | hcluster
    · exact hopen.clusters_reverse
    · exact hdone cluster hcluster
  | cons c rest ih =>
    unfold clustersFrom
    split
    case isTrue htakes => exact ih hdone (hopen.advance htakes)
    case isFalse =>
      -- the open cluster is finished, and the next one begins with `c`
      apply ih _ (.start c)
      intro cluster hcluster
      rcases List.mem_cons.mp hcluster with rfl | hcluster
      · exact hopen.clusters_reverse
      · exact hdone cluster hcluster

/-- **A cluster** is not cut any further. -/
theorem clusters_of_mem {text : List Char} {cluster : Cluster} (h : cluster ∈ clusters text) :
    clusters cluster = [cluster] := by
  cases text with
  | nil => cases h
  | cons c rest => exact clusters_of_mem_clustersFrom (by simp) (.start c) rest cluster h

instance : LawfulTypography where
  flatMap_clusters text := by
    have hflatten := flatten_clusters text.toList
    simpa [Typography.clusters, List.flatMap_map] using hflatten
  empty_notMem_clusters text := by
    intro hempty
    obtain ⟨cluster, hcluster, hnil⟩ := List.mem_map.mp hempty
    have hcut := clusters_of_mem hcluster
    -- a text without characters has no clusters
    obtain rfl : cluster = [] := by simpa using hnil
    cases hcut
  clusters_of_mem h := by
    obtain ⟨cluster, hcluster, rfl⟩ := List.mem_map.mp h
    simp [Typography.clusters, clusters_of_mem hcluster]

end Text

/-! ## §2 Glyphs -/

variable {Colour : Type} {below : Style Colour} {glyph : Span Colour} {line : List (Span Colour)}

section

variable [Typography]

/-- Of spans that are single clusters, those that cannot be shown are left out. -/
theorem flatMap_glyphs_of_clusters
    (h : ∀ span ∈ line, Typography.clusters span.text = [span.text]) :
    line.flatMap Span.glyphs = line.filter (·.isDrawable) := by
  induction line with
  | nil => rfl
  | cons glyph rest ih =>
    obtain ⟨hglyph, hrest⟩ := List.forall_mem_cons.mp h
    have hself : glyph.glyphs = [glyph].filter (·.isDrawable) := by
      rw [Span.glyphs, hglyph, List.map_singleton]
    rw [List.flatMap_cons, hself, ih hrest, ← List.filter_append, List.singleton_append]

/-- Clusters that can be shown are their own glyphs. -/
theorem flatMap_glyphs_eq_self
    (h : ∀ span ∈ line, Typography.clusters span.text = [span.text] ∧ span.isDrawable = true) :
    line.flatMap Span.glyphs = line := by
  rw [flatMap_glyphs_of_clusters fun span hspan => (h span hspan).1]
  exact List.filter_eq_self.mpr fun span hspan => (h span hspan).2

/-- **Glyphs** are their own glyphs, so nothing is lost or split when they are drawn again. -/
theorem flatMap_glyphs_flatMap_glyphs [LawfulTypography] (line : List (Span Colour)) :
    (line.flatMap Span.glyphs).flatMap Span.glyphs = line.flatMap Span.glyphs := by
  apply flatMap_glyphs_eq_self
  intro glyph hglyph
  obtain ⟨span, -, hglyph⟩ := List.mem_flatMap.mp hglyph
  obtain ⟨hpiece, hdrawable⟩ := List.mem_filter.mp hglyph
  obtain ⟨cluster, hcluster, rfl⟩ := List.mem_map.mp hpiece
  exact ⟨LawfulTypography.clusters_of_mem hcluster, hdrawable⟩

end

/-! ## §3 Lines -/

theorem Span.cells_eq (h : glyph.columns = 1) : glyph.cells below = [glyph.cell below] := by
  simp [Span.cells, h]

theorem length_cells (below : Style Colour) (glyph : Span Colour) :
    (glyph.cells below).length = glyph.columns := by
  unfold Span.cells
  split <;> simp [*]

theorem flatMap_cells_eq (h : ∀ span ∈ line, span.columns = 1) :
    line.flatMap (·.cells below) = line.map (Span.cell below) := by
  induction line with
  | nil => rfl
  | cons glyph rest ih =>
    obtain ⟨hglyph, hrest⟩ := List.forall_mem_cons.mp h
    rw [List.flatMap_cons, List.map_cons, Span.cells_eq hglyph, ih hrest]
    rfl

/-- What is cut out of a line has room in the row. -/
theorem length_cutLine_le (below : Style Colour) {columns : Nat} (used hidden : Nat)
    (line : List (Span Colour)) (hused : used ≤ columns) :
    used + ((cutLine columns used hidden line).flatMap (·.cells below)).length ≤ columns := by
  induction line generalizing used hidden with
  | nil => simpa [cutLine] using hused
  | cons glyph rest ih =>
    unfold cutLine
    split_ifs with hwide hfull hseen
    · -- wider than the row
      exact ih used hidden hused
    · -- no room any more
      simpa using hused
    · have hrest := ih (used + glyph.columns) 0 (by omega)
      rw [List.flatMap_cons, List.length_append, length_cells]
      omega
    · -- scrolled away
      exact ih used _ hused

/-- **A line is cut like a list** if each glyph takes one column: what is hidden is dropped, and what
    has room is taken. -/
theorem cutLine_eq (columns : Nat) {used hidden : Nat} (hused : used ≤ columns)
    (h : ∀ span ∈ line, span.columns = 1) :
    cutLine columns used hidden line = (line.drop hidden).take (columns - used) := by
  induction line generalizing used hidden with
  | nil => simp [cutLine]
  | cons glyph rest ih =>
    obtain ⟨hone, hrest⟩ := List.forall_mem_cons.mp h
    unfold cutLine
    rw [hone]
    by_cases hfull : columns < used + 1
    · -- the row is full, perhaps because it has no cell at all
      have hroom : columns - used = 0 := by omega
      rw [if_pos hfull, hroom, List.take_zero]
      split
      · rw [ih hused hrest, hroom, List.take_zero]
      · rfl
    · have hnarrow : ¬ columns < 1 := by omega
      rw [if_neg hnarrow, if_neg hfull]
      cases hidden with
      | zero =>
        have hroom : columns - used = columns - (used + 1) + 1 := by omega
        rw [if_pos (.inl rfl), ih (by omega) hrest, hroom]
        simp
      | succ hidden =>
        rw [if_neg (by omega), ih hused hrest]
        simp

/-- The cells that are seen of a line whose glyphs take one column each. -/
theorem seenCells_eq (width hidden : Nat) (h : ∀ span ∈ line, span.IsNarrow) :
    seenCells width hidden below line = ((line.drop hidden).take width).map (Span.cell below) := by
  have hglyphs : line.flatMap Span.glyphs = line :=
    flatMap_glyphs_eq_self fun span hspan => ⟨(h span hspan).clusters_eq, (h span hspan).isDrawable⟩
  have hcolumns : ∀ span ∈ line, span.columns = 1 := fun span hspan => (h span hspan).columns_eq
  have hcut : cutLine width 0 hidden line = (line.drop hidden).take width :=
    cutLine_eq width (Nat.zero_le _) hcolumns
  rw [seenCells, hglyphs, hcut, flatMap_cells_eq]
  exact fun span hspan => hcolumns span (List.mem_of_mem_drop (List.mem_of_mem_take hspan))

/-! ## §4 The renderer -/

/-- What the renderer makes of a line. -/
theorem drawLine_eq_placeLine (width hidden : Nat) (below : Style Colour)
    (line : List (Span Colour)) :
    drawLine width hidden below line = placeLine .left width hidden below line :=
  rfl

instance : LawfulRenderer Colour where
  draw_eq p width height hleft hborder := by
    have hdraw : Renderer.draw p width height = placeLines p width height := by
      simp only [Renderer.draw, hborder]
    rw [hdraw, placeLines, hleft]
    rfl
  length_drawLine width hidden below line := by
    have hroom := length_cutLine_le below 0 hidden (line.flatMap Span.glyphs) (Nat.zero_le width)
    -- the cells have room in the row, so filling it up ends at its width
    rw [drawLine_eq_placeLine, placeLine, placeCells, seenCells]
    simp only [List.length_append, List.length_replicate]
    omega
  drawLine_glyphs width hidden below line := by
    simp only [drawLine_eq_placeLine, placeLine, seenCells, flatMap_glyphs_flatMap_glyphs]
  drawLine_nil width hidden below := by
    simp [drawLine_eq_placeLine, placeLine, placeCells, seenCells, cutLine]
  drawLine_cons width below glyph rest h := by
    have hrest := (List.forall_mem_cons.mp h).2
    simp [drawLine_eq_placeLine, placeLine, placeCells, seenCells_eq _ _ h,
      seenCells_eq _ _ hrest]
  drawLine_succ width hidden below glyph rest h := by
    have hrest := (List.forall_mem_cons.mp h).2
    simp [drawLine_eq_placeLine, placeLine, placeCells, seenCells_eq _ _ h,
      seenCells_eq _ _ hrest]

end TileLevel
