import Mathlib
import TileLevel.Proofs.Announcements
import TileLevel.Proofs.Legend

/-!
# Commands in Another Order

A canvas keeps the last floor of each cell and the last start, so in general the order of commands
matters. It does not matter to two commands that never put different things in the same place. All
commands of a level that is mapped with the rules of the puzzle are of this kind: no two tokens put
floor on one cell, and all starts are at one position.

## Main definitions

- `Command.Compatible`: two commands whose order makes no difference

## Main statements

- `Canvas.put_put_comm`: two compatible commands, one after the other
- `Canvas.putAll_perm`: any number of them, in any order
- `RuleTable.compatible_of_mem_map`: the commands of a level
- `drawing_ignores_order`: the drawing of a level of the puzzle
-/

namespace TileLevel

/-- Two commands that put nothing different in the same place: starts are at one position, and floor
    for one cell is of one kind. -/
structure Command.Compatible (a b : Command) : Prop where
  position_eq : a.kind = .playerSpawn → b.kind = .playerSpawn → a.position = b.position
  kind_eq : ∀ column row, a.IsFloorAt column row → b.IsFloorAt column row → a.kind = b.kind

namespace Canvas

variable {canvas : Canvas} {a b : Command} {column row : ℕ}

/-! ## §1 Two commands -/

/-- Floor on two cells, or twice the same floor. -/
theorem setCell_setCell_comm {column' row' : ℕ} {kind kind' : Kind} (hcolumn : column < canvas.width)
    (hcolumn' : column' < canvas.width)
    (hsame : column = column' → row = row' → kind = kind') :
    (canvas.setCell column row kind).setCell column' row' kind'
      = (canvas.setCell column' row' kind').setCell column row kind := by
  by_cases hindex : row * canvas.width + column = row' * canvas.width + column'
  · obtain ⟨rfl, rfl⟩ := (index_inj hcolumn hcolumn').mp hindex
    rw [hsame rfl rfl]
  · simp only [setCell, Canvas.mk.injEq, true_and, and_true]
    exact Array.setIfInBounds_comm _ _ hindex

/-- A start and floor do not touch each other. -/
theorem putSpawn_setCell (position : Position) (kind : Kind) :
    (canvas.setCell column row kind).putSpawn position
      = (canvas.putSpawn position).setCell column row kind := by
  have hcellOf : (canvas.setCell column row kind).cellOf = canvas.cellOf := cellOf_congr rfl rfl
  unfold putSpawn
  rw [hcellOf]
  cases canvas.cellOf position <;> rfl

theorem put_floor_putSpawn (position : Position) (hfloor : b.kind ≠ .playerSpawn) :
    ((canvas.putSpawn position).put b).2 = (canvas.put b).2.putSpawn position := by
  have hcellOf : (canvas.putSpawn position).cellOf = canvas.cellOf :=
    cellOf_congr (width_putSpawn position) (height_putSpawn position)
  rw [put, put, if_neg hfloor, if_neg hfloor, hcellOf]
  cases canvas.cellOf b.position with
  | ok place => exact (putSpawn_setCell position b.kind).symm
  | error reason => rfl

theorem put_floor_floor (ha : a.kind ≠ .playerSpawn) (hb : b.kind ≠ .playerSpawn)
    (hkind : ∀ column row, a.IsFloorAt column row → b.IsFloorAt column row → a.kind = b.kind) :
    ((canvas.put a).2.put b).2 = ((canvas.put b).2.put a).2 := by
  have hcellOf : ∀ column row kind, (canvas.setCell column row kind).cellOf = canvas.cellOf :=
    fun _ _ _ => cellOf_congr rfl rfl
  simp only [put, if_neg ha, if_neg hb]
  cases hplace : canvas.cellOf a.position with
  | error reason =>
    -- the first command is refused, with or without the second one
    cases canvas.cellOf b.position with
    | error reason' => simp [hplace]
    | ok place' => simp [hplace, hcellOf]
  | ok place =>
    cases hplace' : canvas.cellOf b.position with
    | error reason' => simp [hplace, hplace', hcellOf]
    | ok place' =>
      simp only [hplace, hplace', hcellOf]
      obtain ⟨hat, hcolumn, -⟩ := cellOf_eq_ok_iff_isAt.mp hplace
      obtain ⟨hat', hcolumn', -⟩ := cellOf_eq_ok_iff_isAt.mp hplace'
      apply setCell_setCell_comm hcolumn hcolumn'
      intro hsame hsame'
      rw [← hsame, ← hsame'] at hat'
      exact hkind place.1 place.2 ⟨ha, hat⟩ ⟨hb, hat'⟩

/-- **Two compatible commands** can be put in either order, whether they are refused or not. -/
theorem put_put_comm (h : a.Compatible b) (canvas : Canvas) :
    ((canvas.put a).2.put b).2 = ((canvas.put b).2.put a).2 := by
  by_cases ha : a.kind = .playerSpawn
  · by_cases hb : b.kind = .playerSpawn
    · -- two starts are at one position
      simp only [put_of_spawn ha, put_of_spawn hb, h.position_eq ha hb]
    · simp only [put_of_spawn ha, put_floor_putSpawn a.position hb]
  · by_cases hb : b.kind = .playerSpawn
    · simp only [put_of_spawn hb, put_floor_putSpawn b.position ha]
    · exact put_floor_floor ha hb h.kind_eq

/-! ## §2 Any number of commands -/

/-- **Compatible commands** can be put in any order. -/
theorem putAll_perm {commands others : List Command} (hperm : commands.Perm others)
    (h : ∀ a ∈ commands, ∀ b ∈ commands, a.Compatible b) (canvas : Canvas) :
    canvas.putAll commands = canvas.putAll others :=
  hperm.foldl_eq' (fun a ha b hb canvas => put_put_comm (h a ha b hb) canvas) canvas

end Canvas

/-! ## §3 The commands of a level -/

section

variable {table : RuleTable} {m : TokenMatrix} {a b : Command}

/-- Floor that a level means for a cell is floor that it puts on a cell of its board. -/
theorem Canvas.Holds.kind_mem_floors (hholds : (Canvas.forMatrix m).Holds m)
    (hfixed : table.FixesOnlyStarts) {column row : ℕ} (ha : a ∈ table.map m)
    (hfloor : a.IsFloorAt column row) :
    (column < m.columnBound ∧ row < m.rowCount)
      ∧ a.kind ∈ (table.map m).filterMap ((Canvas.forMatrix m).floorOn? column row) := by
  obtain ⟨⟨column', row'⟩, hplace⟩ := (hholds.takes hfixed ha).resolve_left hfloor.1
  obtain ⟨hat, hon⟩ := Canvas.cellOf_eq_ok_iff_isAt.mp hplace
  -- the cell that takes the floor is the one that it is meant for
  obtain ⟨rfl, rfl⟩ := hat.unique hfloor.2
  refine ⟨hon, List.mem_filterMap.mpr ⟨a, ha, ?_⟩⟩
  rw [Canvas.floorOn?_eq hon, if_pos hfloor]

/-- **The commands of a level** of the puzzle are compatible, if the format has its rows and columns
    exactly: a cell has the floor of its own token only, and the start is always the same. -/
theorem RuleTable.compatible_of_mem_map {spawn : Position} (hrows : m.rowCount ≤ 2 ^ 24)
    (hcolumns : m.columnBound ≤ 2 ^ 24) (ha : a ∈ (standard spawn).map m)
    (hb : b ∈ (standard spawn).map m) : a.Compatible b where
  position_eq hspawn hspawn' :=
    (position_of_spawn ha hspawn).trans (position_of_spawn hb hspawn').symm
  kind_eq column row hfloor hfloor' := by
    have hholds := Canvas.holds_forMatrix hrows hcolumns
    have hfixed := fixesOnlyStarts_standard spawn
    obtain ⟨⟨hcolumn, hrow⟩, hmem⟩ := hholds.kind_mem_floors hfixed ha hfloor
    obtain ⟨-, hmem'⟩ := hholds.kind_mem_floors hfixed hb hfloor'
    have hone := hholds.length_floors_le_one hfixed (laysFloorOnce_standard spawn) hrow hcolumn
    -- both kinds are in a list with one entry at most
    obtain ⟨kind, hkind⟩ := List.length_eq_one_iff.mp
      (Nat.le_antisymm hone (List.length_pos_of_mem hmem))
    rw [hkind, List.mem_singleton] at hmem hmem'
    rw [hmem, hmem']

/-- **The drawing of a level ignores the order of its commands.** Take a level of up to `2^24` rows
    and columns, any start, and the commands that the rules of the puzzle give, in any order. The
    canvas of the level takes all of them, and shows the same as after the order of reading: the same
    floor on each cell and the same start, on the board or off it. -/
theorem drawing_ignores_order (hrows : m.rowCount ≤ 2 ^ 24) (hcolumns : m.columnBound ≤ 2 ^ 24)
    (spawn : Position) {commands : List Command}
    (hperm : commands.Perm ((RuleTable.standard spawn).map m)) :
    let inOrder := Canvas.sink.instantiateAll ((RuleTable.standard spawn).map m) (.forMatrix m)
    let reordered := Canvas.sink.instantiateAll commands (.forMatrix m)
    inOrder.1 = .ok commands.length ∧ reordered.1 = .ok commands.length
      ∧ reordered.2 = inOrder.2 := by
  intro inOrder reordered
  have hholds : (Canvas.forMatrix m).Holds m := Canvas.holds_forMatrix hrows hcolumns
  have hfixed := RuleTable.fixesOnlyStarts_standard spawn
  have hinOrder : inOrder = _ := hholds.instantiateAll_map hfixed
  have hreordered : reordered = (.ok commands.length, (Canvas.forMatrix m).putAll commands) :=
    Canvas.instantiateAll_of_takes fun _ hmem => hholds.takes hfixed (hperm.mem_iff.mp hmem)
  rw [hinOrder, hreordered, hperm.length_eq]
  refine ⟨rfl, rfl, ?_⟩
  apply Canvas.putAll_perm hperm
  intro a ha b hb
  exact RuleTable.compatible_of_mem_map hrows hcolumns (hperm.mem_iff.mp ha) (hperm.mem_iff.mp hb)

end

/-- A level with two pegs and a short row, backwards; the start is at no cell, and `nan` besides. -/
theorem drawing_ignores_order_backwards :
    let m : TokenMatrix := { rows := #[#["*", "O"], #["█"], #["?", "*"]] }
    let spawn : Position := { Position.defaultSpawn with x := .nan }
    let commands := ((RuleTable.standard spawn).map m).reverse
    let canvas := (Canvas.sink.instantiateAll commands (.forMatrix m)).2
    commands.Perm ((RuleTable.standard spawn).map m)
      ∧ (Canvas.sink.instantiateAll commands (.forMatrix m)).1 = .ok 6
      ∧ canvas = (Canvas.sink.instantiateAll commands.reverse (.forMatrix m)).2
      ∧ canvas.start = (none, true) ∧ canvas.cell 0 1 = some .floorObstacle := by
  intro m spawn commands canvas
  have hperm : commands.Perm ((RuleTable.standard spawn).map m) := List.reverse_perm _
  have hrows : m.rowCount ≤ 2 ^ 24 := by decide
  have hcolumns : m.columnBound ≤ 2 ^ 24 := by decide
  obtain ⟨-, htaken, hsame⟩ := drawing_ignores_order hrows hcolumns spawn hperm
  have hcommands : (RuleTable.standard spawn).map m
      = (RuleTable.standard spawn).readingOrder m := RuleTable.map_eq_readingOrder _ m
  have hlength : commands.length = 6 := by
    rw [List.length_reverse, hcommands]
    decide
  rw [hlength] at htaken
  have hcanvas : canvas = _ := hsame
  refine ⟨hperm, htaken, ?_, ?_, ?_⟩
  · rw [List.reverse_reverse]
    exact hsame
  · rw [hcanvas, hcommands]
    decide +kernel
  · rw [hcanvas, hcommands]
    decide +kernel

end TileLevel
