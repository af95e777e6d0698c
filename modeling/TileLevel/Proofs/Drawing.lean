import Mathlib
import TileLevel.Preview
import TileLevel.Proofs.Board
import TileLevel.Proofs.Reading

/-!
# A Preview Draws What the Level Says

Up to `2^24` rows and columns the commands of a level name its cells exactly. If the rules fix no
positions but starts, the canvas takes every command of the level, and each cell shows the last
floor in the rule of its own token: no other token puts floor there.

## Main statements

- `Canvas.Holds.filterMap_readingOrder`: the floor that a level puts on a cell
- `preview_draws_level`: nothing is refused, every cell shows its token, and the last start counts
-/

namespace TileLevel

/-! ## §1 What a token says -/

/-- The floor that an emission puts on the cell of its token. -/
def Emission.floor? : Emission → Option Kind
  | .atCell kind => if kind = .playerSpawn then none else some kind
  | .fixed .. => none

theorem Emission.kind_resolve_atCell (column row : Nat) (kind : Kind) :
    ((Emission.atCell kind).resolve column row).kind = kind := rfl

namespace RuleTable

/-- The floor that the rule of the token of a cell puts on its cell: none for a missing cell, a
    token without a rule, or a rule without such floor. -/
def floorsAt (table : RuleTable) (m : TokenMatrix) (row column : Nat) : List Kind :=
  match (m.get? row column).bind table.lookup with
  | some emissions => emissions.filterMap Emission.floor?
  | none => []

/-- What a cell should show: the last floor in the rule of its token. -/
def floorAt (table : RuleTable) (m : TokenMatrix) (row column : Nat) : Option Kind :=
  (table.floorsAt m row column).getLast?

/-- Only starts have a position of their own; all floor is put on the cell of its token. -/
def FixesOnlyStarts (table : RuleTable) : Prop :=
  ∀ token emissions, table.lookup token = some emissions →
    ∀ kind position, Emission.fixed kind position ∈ emissions → kind = .playerSpawn

theorem lookup_cons_eq_ite {token key : String} {emissions : List Emission}
    {rules : List (String × List Emission)} :
    ((key, emissions) :: rules).lookup token =
      if token = key then some emissions else rules.lookup token := by
  by_cases hkey : token = key
  · rw [if_pos hkey, hkey, List.lookup_cons_self]
  · rw [if_neg hkey, List.lookup_cons, beq_false_of_ne hkey]

theorem rules_standard (spawn : Position) :
    (standard spawn).rules =
      [(peg, [.atCell .floorValid, .fixed .playerSpawn spawn]), (hole, [.atCell .floorValid]),
        (out, [.atCell .floorObstacle])] := rfl

theorem lookup_standard (spawn : Position) (token : String) :
    (standard spawn).lookup token =
      if token = peg then some [.atCell .floorValid, .fixed .playerSpawn spawn]
      else if token = hole then some [.atCell .floorValid]
      else if token = out then some [.atCell .floorObstacle]
      else none := by
  rw [lookup, rules_standard, lookup_cons_eq_ite, lookup_cons_eq_ite, lookup_cons_eq_ite,
    List.lookup_nil]

theorem emissions_of_lookup_standard {spawn : Position} {token : String} {emissions : List Emission}
    (h : (standard spawn).lookup token = some emissions) :
    emissions = [.atCell .floorValid, .fixed .playerSpawn spawn]
      ∨ emissions = [.atCell .floorValid] ∨ emissions = [.atCell .floorObstacle] := by
  rw [lookup_standard] at h
  split_ifs at h
  · exact .inl (Option.some.inj h).symm
  · exact .inr (.inl (Option.some.inj h).symm)
  · exact .inr (.inr (Option.some.inj h).symm)

/-- The rules of the puzzle fix the start and nothing else. -/
theorem fixesOnlyStarts_standard (spawn : Position) : (standard spawn).FixesOnlyStarts := by
  intro token emissions hlookup kind position hmem
  rcases emissions_of_lookup_standard hlookup with rfl | rfl | rfl <;> simp_all

end RuleTable

/-! ## §2 What the commands of a cell do -/

section

variable {table : RuleTable} {m : TokenMatrix} {canvas : Canvas} {row column : Nat}

/-- Every command of a cell is an emission in the rule of its token. -/
theorem RuleTable.exists_emission_of_mem_cellCommands {command : Command}
    (h : command ∈ table.cellCommands m row column) :
    ∃ token emissions, table.lookup token = some emissions
      ∧ ∃ emission ∈ emissions, emission.resolve column row = command := by
  unfold RuleTable.cellCommands at h
  split at h
  case h_1 emissions hlookup =>
    obtain ⟨token, -, htoken⟩ := Option.bind_eq_some_iff.mp hlookup
    exact ⟨token, emissions, htoken, List.mem_map.mp h⟩
  case h_2 => cases h

/-- Every command of a level is one of a cell on its board. -/
theorem RuleTable.mem_readingOrder_iff {command : Command} :
    command ∈ table.readingOrder m ↔
      ∃ row < m.rowCount, ∃ column < m.columnBound, command ∈ table.cellCommands m row column := by
  simp [RuleTable.readingOrder_eq_flatMap, RuleTable.rowCommands_eq_flatMap]

/-- A canvas that tells the cells of a level apart by their positions. -/
def Canvas.Holds (canvas : Canvas) (m : TokenMatrix) : Prop :=
  ∀ row < m.rowCount, ∀ column < m.columnBound,
    canvas.cellOf (.floor column row) = .ok (column, row)

/-- The canvas of a level holds it, as long as the format has every row and column exactly. -/
theorem Canvas.holds_forMatrix (hrows : m.rowCount ≤ 2 ^ 24) (hcolumns : m.columnBound ≤ 2 ^ 24) :
    (forMatrix m).Holds m := by
  intro row hrow column hcolumn
  have hcolumnExact : column ≤ 2 ^ 24 := Nat.le_of_lt (Nat.lt_of_lt_of_le hcolumn hcolumns)
  have hrowExact : row ≤ 2 ^ 24 := Nat.le_of_lt (Nat.lt_of_lt_of_le hrow hrows)
  exact cellOf_floor hcolumn hrow ⟨hcolumnExact, hrowExact⟩

/-- A canvas that holds a level takes every command of it. -/
theorem Canvas.Holds.takes (h : canvas.Holds m) (hfixed : table.FixesOnlyStarts) {command : Command}
    (hcommand : command ∈ table.map m) : canvas.Takes command := by
  rw [RuleTable.map_eq_readingOrder] at hcommand
  obtain ⟨row, hrow, column, hcolumn, hmem⟩ := RuleTable.mem_readingOrder_iff.mp hcommand
  obtain ⟨token, emissions, hlookup, emission, hemission, rfl⟩ :=
    RuleTable.exists_emission_of_mem_cellCommands hmem
  cases emission with
  | atCell kind =>
    right
    exact ⟨(column, row), h row hrow column hcolumn⟩
  | fixed kind position =>
    -- a start is never refused, on the board or off it
    left
    exact hfixed token emissions hlookup kind position hemission

/-- An emission puts its floor on the cell of its token and on no other. -/
theorem Canvas.floorOn?_resolve {emission : Emission} (column' row' : Nat)
    (hstart : ∀ kind position, emission = .fixed kind position → kind = .playerSpawn)
    (hcell : canvas.cellOf (.floor column row) = .ok (column, row)) :
    canvas.floorOn? column' row' (emission.resolve column row) =
      if column = column' ∧ row = row' then emission.floor? else none := by
  cases emission with
  | fixed kind position =>
    -- a start puts no floor anywhere
    have hspawn : kind = .playerSpawn := hstart kind position rfl
    rw [Emission.floor?, ite_self]
    exact if_pos hspawn
  | atCell kind =>
    rw [floorOn?_of_cellOf hcell]
    simp only [Emission.floor?, Emission.kind_resolve_atCell, Prod.mk.injEq]
    split <;> split <;> simp_all

/-- The commands of a cell put the floor of its token there and nothing anywhere else. -/
theorem Canvas.Holds.filterMap_cellCommands (h : canvas.Holds m) (hfixed : table.FixesOnlyStarts)
    (hrow : row < m.rowCount) (hcolumn : column < m.columnBound) (column' row' : Nat) :
    (table.cellCommands m row column).filterMap (canvas.floorOn? column' row') =
      if column = column' ∧ row = row' then table.floorsAt m row column else [] := by
  rw [RuleTable.cellCommands_eq_elim]
  unfold RuleTable.floorsAt
  cases hlookup : (m.get? row column).bind table.lookup with
  | none => simp
  | some emissions =>
    obtain ⟨token, -, htoken⟩ := Option.bind_eq_some_iff.mp hlookup
    have heach : ∀ emission ∈ emissions,
        (canvas.floorOn? column' row' ∘ Emission.resolve column row) emission =
          if column = column' ∧ row = row' then emission.floor? else none := by
      intro emission hemission
      apply floorOn?_resolve column' row' _ (h row hrow column hcolumn)
      rintro kind position rfl
      exact hfixed token emissions htoken kind position hemission
    simp only [Option.elim_some, List.filterMap_map]
    rw [List.filterMap_congr heach]
    split
    · rfl
    · -- for another cell every emission is dropped
      simp

/-! ## §3 The commands of a level that reach a cell -/

/-- Of the lists for some numbers, only that of one number is not empty. -/
theorem flatMap_range_eq {α : Type} {f : Nat → List α} {n i : Nat} (hi : i < n)
    (honly : ∀ j < n, j ≠ i → f j = []) : (List.range n).flatMap f = f i := by
  induction n with
  | zero => cases hi
  | succ n ih =>
    have hbefore : ∀ j < n, j ≠ i → f j = [] := fun j hj => honly j (Nat.lt_succ_of_lt hj)
    rw [List.range_succ, List.flatMap_append, List.flatMap_singleton]
    by_cases hlast : i = n
    · -- the last number is the one, and the lists before it are empty
      have hnil : (List.range n).flatMap f = [] := by
        rw [List.flatMap_eq_nil_iff]
        intro j hj
        have hlt := List.mem_range.mp hj
        exact hbefore j hlt (by omega)
      rw [hnil, hlast, List.nil_append]
    · rw [ih (by omega) hbefore, honly n (Nat.lt_succ_self n) (Ne.symm hlast), List.append_nil]

/-- **The floor that a level puts on a cell** is that of the token of the cell. -/
theorem Canvas.Holds.filterMap_readingOrder (h : canvas.Holds m) (hfixed : table.FixesOnlyStarts)
    (hrow : row < m.rowCount) (hcolumn : column < m.columnBound) :
    (table.readingOrder m).filterMap (canvas.floorOn? column row)
      = table.floorsAt m row column := by
  have hcell : ∀ row' < m.rowCount, ∀ column' < m.columnBound,
      (table.cellCommands m row' column').filterMap (canvas.floorOn? column row) =
        if column' = column ∧ row' = row then table.floorsAt m row' column' else [] :=
    fun _ hrow' _ hcolumn' => h.filterMap_cellCommands hfixed hrow' hcolumn' column row
  rw [RuleTable.readingOrder_eq_flatMap, List.filterMap_flatMap, flatMap_range_eq hrow]
  · -- the row of the cell: only its own column counts
    rw [RuleTable.rowCommands_eq_flatMap, List.filterMap_flatMap, flatMap_range_eq hcolumn]
    · rw [hcell row hrow column hcolumn, if_pos ⟨rfl, rfl⟩]
    · intro column' hcolumn' hne
      rw [hcell row hrow column' hcolumn', if_neg fun heq => hne heq.1]
  · -- another row: no column counts
    intro row' hrow' hne
    rw [RuleTable.rowCommands_eq_flatMap, List.filterMap_flatMap, List.flatMap_eq_nil_iff]
    intro column' hmem
    rw [hcell row' hrow' column' (List.mem_range.mp hmem), if_neg fun heq => hne heq.2]

/-! ## §4 Previews -/

/-- On a canvas that holds a level, a cell shows what its token says. -/
theorem Canvas.Holds.cell_putAll (h : canvas.Holds m) (hfixed : table.FixesOnlyStarts)
    (hcanvas : canvas.WellFormed) (hblank : canvas.cell column row = none)
    (hrow : row < m.rowCount) (hcolumn : column < m.columnBound) :
    (canvas.putAll (table.map m)).cell column row = table.floorAt m row column := by
  rw [Canvas.cell_putAll hcanvas, hblank, Option.or_none, RuleTable.map_eq_readingOrder,
    h.filterMap_readingOrder hfixed hrow hcolumn, RuleTable.floorAt]

/-- The canvas of a level takes all commands of the level if it holds it. -/
theorem Canvas.Holds.instantiateAll_map (hholds : (Canvas.forMatrix m).Holds m)
    (hfixed : table.FixesOnlyStarts) :
    Canvas.sink.instantiateAll (table.map m) (.forMatrix m)
      = (.ok (table.map m).length, (Canvas.forMatrix m).putAll (table.map m)) :=
  Canvas.instantiateAll_of_takes fun _ hcommand => hholds.takes hfixed hcommand

/-- **A preview draws exactly what the level says.** The canvas takes every command, each cell shows
    the last floor in the rule of its token, and the start is where the last start command puts it.
    The rules of the puzzle are among the tables that this holds for. -/
theorem preview_draws_level (hfixed : table.FixesOnlyStarts) (hrows : m.rowCount ≤ 2 ^ 24)
    (hcolumns : m.columnBound ≤ 2 ^ 24) (source : String) :
    let preview := Preview.ofLevel { matrix := m, commands := table.map m, source }
    Canvas.sink.instantiateAll (table.map m) (.forMatrix m)
        = (.ok (table.map m).length, preview.canvas)
      ∧ preview.sinkError = none
      ∧ (∀ row < m.rowCount, ∀ column < m.columnBound,
          preview.canvas.cell column row = table.floorAt m row column)
      ∧ preview.canvas.start =
          (match Canvas.lastStart? (table.map m) with
          | some command => (Canvas.forMatrix m).startAt command.position
          | none => (none, false))
      ∧ ∀ spawn, (RuleTable.standard spawn).FixesOnlyStarts := by
  intro preview
  have hholds : (Canvas.forMatrix m).Holds m := Canvas.holds_forMatrix hrows hcolumns
  have hdelivered := hholds.instantiateAll_map hfixed
  -- the preview is drawn by this very delivery
  have hcanvas : preview.canvas = (Canvas.forMatrix m).putAll (table.map m) :=
    congrArg Prod.snd hdelivered
  refine ⟨?delivered, ?error, ?cells, ?start, RuleTable.fixesOnlyStarts_standard⟩
  case delivered => rw [hcanvas, hdelivered]
  case error => simp only [preview, Preview.ofLevel, hdelivered]
  case cells =>
    intro row hrow column hcolumn
    rw [hcanvas]
    exact hholds.cell_putAll hfixed (Canvas.wellFormed_blank ..) (Canvas.cell_blank ..) hrow hcolumn
  case start =>
    -- a blank canvas has no start of its own
    rw [hcanvas, Canvas.start_putAll]
    rfl

end

/-- A level with a short row, an unknown token, and a start on the last cell. -/
theorem preview_draws_level_ragged :
    let m : TokenMatrix := { rows := #[#["*", "O"], #["█"], #["?", "*"]] }
    let table := RuleTable.standard (.floor 1 2)
    let preview := Preview.ofLevel { matrix := m, commands := table.map m, source := "ragged" }
    table.FixesOnlyStarts ∧ m.rowCount ≤ 2 ^ 24 ∧ m.columnBound ≤ 2 ^ 24
      ∧ preview.sinkError = none
      ∧ preview.canvas.cell 0 1 = some .floorObstacle ∧ preview.canvas.cell 1 1 = none
      ∧ preview.canvas.cell 0 2 = none ∧ preview.canvas.cell 1 2 = some .floorValid
      ∧ preview.canvas.start = (some (1, 2), false) := by
  intro m table preview
  have hfixed : table.FixesOnlyStarts := RuleTable.fixesOnlyStarts_standard _
  have hrows : m.rowCount ≤ 2 ^ 24 := by decide
  have hcolumns : m.columnBound ≤ 2 ^ 24 := by decide
  obtain ⟨-, herror, hcells, hstart, -⟩ := preview_draws_level hfixed hrows hcolumns "ragged"
  refine ⟨hfixed, hrows, hcolumns, herror, ?_, ?_, ?_, ?_, ?start⟩
  · exact (hcells 1 (by decide) 0 (by decide)).trans (by decide)
  · exact (hcells 1 (by decide) 1 (by decide)).trans (by decide)
  · exact (hcells 2 (by decide) 0 (by decide)).trans (by decide)
  · exact (hcells 2 (by decide) 1 (by decide)).trans (by decide)
  case start =>
    have hlast : Canvas.lastStart? (table.map m) =
        some { kind := .playerSpawn, position := .floor 1 2 } := by
      rw [RuleTable.map_eq_readingOrder]
      decide
    rw [hlast] at hstart
    rw [hstart]
    decide +kernel

end TileLevel
