import Mathlib
import TileLevel.Proofs.Reading

/-!
# A Level Without Reports Is Read as a Whole

Mapping a level reads the tokens left of the first row's width, in reading order and each one once.
What this leaves out is what the report of ragged rows is about: if no row is reported, the tokens
that are read are all there are and no cell is missing, and if a row is reported, a token lies beyond
the width or a cell is missing.

## Main definitions

- `TokenMatrix.Entry`, `TokenMatrix.entries`: the tokens of a level with their places
- `RuleTable.entryCommands`: the commands of a token at its place

## Main statements

- `TokenMatrix.mem_entries_iff`, `TokenMatrix.pairwise_entries`: each token once, in reading order
- `TokenMatrix.mem_raggedRows_iff`, `TokenMatrix.raggedRows_eq_nil_iff`: what is reported
- `RuleTable.map_eq_flatMap_entries`: the tokens that are read
- `unreported_levels_are_covered`: without a report all tokens are read
-/

namespace TileLevel

/-! ## §1 Tokens and their places -/

namespace TokenMatrix

/-- A token and the row and column it stands in. -/
structure Entry where
  row : ℕ
  column : ℕ
  token : String
deriving DecidableEq, Repr

/-- The order in which a level is read: row by row, and from left to right in a row. -/
def Entry.Before (a b : Entry) : Prop :=
  a.row < b.row ∨ a.row = b.row ∧ a.column < b.column

/-- The tokens of a row with their places. -/
def rowEntries (y : ℕ) (row : Array String) : List Entry :=
  row.toList.zipIdx.map fun (token, x) => { row := y, column := x, token }

/-- All tokens of a level with their places, those beyond the width of the first row included. -/
def entries (m : TokenMatrix) : List Entry :=
  m.rows.toList.zipIdx.flatMap fun (row, y) => rowEntries y row

variable {m : TokenMatrix} {y x : ℕ}

theorem mem_entries_iff {entry : Entry} :
    entry ∈ m.entries ↔ m.get? entry.row entry.column = some entry.token := by
  obtain ⟨y, x, token⟩ := entry
  simp only [entries, rowEntries, get?, List.mem_flatMap, List.mem_map, Prod.exists,
    List.mk_mem_zipIdx_iff_getElem?, Array.getElem?_toList, Entry.mk.injEq,
    Option.bind_eq_some_iff]
  constructor
  · rintro ⟨row, _, hrow, _, _, htoken, rfl, rfl, rfl⟩
    exact ⟨row, hrow, htoken⟩
  · rintro ⟨row, hrow, htoken⟩
    exact ⟨row, y, hrow, token, x, htoken, rfl, rfl, rfl⟩

/-- A row with a token is a row of the level. -/
theorem row_lt_of_mem_entries {entry : Entry} (h : entry ∈ m.entries) : entry.row < m.rowCount := by
  have htoken := mem_entries_iff.mp h
  by_contra hbelow
  rw [get?, Array.getElem?_eq_none (Nat.le_of_not_lt hbelow)] at htoken
  cases htoken

theorem pairwise_zipIdx {α : Type} (l : List α) (k : ℕ) :
    (l.zipIdx k).Pairwise fun a b => a.2 < b.2 := by
  have hrange : (List.range' k l.length).Pairwise (· < ·) := List.pairwise_lt_range'
  rwa [← List.zipIdx_map_snd, List.pairwise_map] at hrange

/-- **The tokens are listed in reading order**, so none is listed twice. -/
theorem pairwise_entries (m : TokenMatrix) : m.entries.Pairwise Entry.Before := by
  rw [entries, List.pairwise_flatMap]
  constructor
  · rintro ⟨row, y⟩ -
    -- in one row the columns decide
    show (rowEntries y row).Pairwise Entry.Before
    rw [rowEntries, List.pairwise_map]
    exact (pairwise_zipIdx row.toList 0).imp fun hlt => .inr ⟨rfl, hlt⟩
  · -- of two rows the upper one comes first, whatever the columns are
    refine (pairwise_zipIdx m.rows.toList 0).imp ?_
    rintro ⟨row, y⟩ ⟨row', y'⟩ hlt entry hentry entry' hentry'
    obtain ⟨_, -, rfl⟩ := List.mem_map.mp hentry
    obtain ⟨_, -, rfl⟩ := List.mem_map.mp hentry'
    exact .inl hlt

/-! ## §2 Reports -/

theorem isSome_get?_iff : (m.get? y x).isSome ↔ x < m.rowWidth y := by
  unfold get? rowWidth
  cases m.rows[y]? <;> simp

theorem pairwise_raggedRows (m : TokenMatrix) : m.raggedRows.Pairwise (· < ·) :=
  List.pairwise_lt_range.filter _

/-- **The rows that are reported** are those of another width than the first row. -/
theorem mem_raggedRows_iff :
    y ∈ m.raggedRows ↔ y < m.rowCount ∧ m.rowWidth y ≠ m.columnBound := by
  simp [raggedRows]

theorem raggedRows_eq_nil_iff :
    m.raggedRows = [] ↔ ∀ y < m.rowCount, m.rowWidth y = m.columnBound := by
  simp only [List.eq_nil_iff_forall_not_mem, mem_raggedRows_iff, not_and, not_not]

/-- A row is as wide as the first one just when its tokens are those of the width. -/
theorem rowWidth_eq_iff :
    m.rowWidth y = m.columnBound ↔ ∀ x, (m.get? y x).isSome ↔ x < m.columnBound := by
  simp only [isSome_get?_iff]
  constructor
  · intro heq x
    rw [heq]
  · exact eq_of_forall_lt_iff

/-- A row of another width has a token beyond the width, or leaves a cell of it empty. -/
theorem exists_of_rowWidth_ne (hne : m.rowWidth y ≠ m.columnBound) :
    (∃ entry ∈ m.entries, m.columnBound ≤ entry.column)
      ∨ ∃ x < m.columnBound, m.get? y x = none := by
  rcases Nat.lt_or_gt_of_ne hne with hshort | hlong
  · right
    refine ⟨m.rowWidth y, hshort, ?_⟩
    rw [← Option.not_isSome_iff_eq_none, isSome_get?_iff]
    exact lt_irrefl _
  · left
    obtain ⟨token, htoken⟩ := Option.isSome_iff_exists.mp (isSome_get?_iff.mpr hlong)
    exact ⟨⟨y, m.columnBound, token⟩, mem_entries_iff.mpr htoken, le_rfl⟩

end TokenMatrix

/-! ## §3 What is read -/

section

variable {α β : Type}

/-- Some places of a list, looked up one by one. -/
theorem flatMap_range_getElem? (l : List α) (f : ℕ → α → List β) (bound : ℕ) :
    (List.range bound).flatMap (fun i => (l[i]?.map (f i)).getD [])
      = (l.take bound).zipIdx.flatMap fun (a, i) => f i a := by
  induction bound with
  | zero => rfl
  | succ bound ih =>
    rw [List.range_succ, List.flatMap_append, ih, List.flatMap_singleton, List.take_add_one,
      List.zipIdx_append, List.flatMap_append]
    congr 1
    cases hlast : l[bound]? with
    | none => rfl
    | some a =>
      -- there is a place at the bound, so as many places are before it
      have hbound : bound < l.length := (List.getElem?_eq_some_iff.mp hlast).1
      simp [List.length_take, Nat.min_eq_left hbound.le]

theorem filter_zipIdx_lt (l : List α) (bound : ℕ) :
    l.zipIdx.filter (·.2 < bound) = (l.take bound).zipIdx := by
  have hsplit : l.zipIdx
      = (l.take bound).zipIdx ++ (l.drop bound).zipIdx (l.take bound).length := by
    rw [← Nat.zero_add (l.take bound).length, ← List.zipIdx_append, List.take_append_drop]
  rw [hsplit, List.filter_append, List.filter_eq_self.mpr, List.filter_eq_nil_iff.mpr,
    List.append_nil]
  · rintro ⟨a, i⟩ hmem
    have hle := List.le_snd_of_mem_zipIdx hmem
    have hlt := List.snd_lt_of_mem_zipIdx hmem
    simp only [List.length_take, List.length_drop] at hle hlt
    simp only [decide_eq_true_eq]
    omega
  · rintro ⟨a, i⟩ hmem
    have hlt := List.snd_lt_of_mem_zipIdx hmem
    simp only [List.length_take] at hlt
    simp only [decide_eq_true_eq]
    omega

end

namespace RuleTable

open TokenMatrix

variable {table : RuleTable} {m : TokenMatrix} {row column : ℕ}

/-- The commands of a token at its place: none for a token without a rule. -/
def entryCommands (table : RuleTable) (entry : TokenMatrix.Entry) : List Command :=
  match table.lookup entry.token with
  | some emissions => emissions.map (·.resolve entry.column entry.row)
  | none => []

/-- The commands of a cell are those of its token, if it has one. -/
theorem cellCommands_eq :
    table.cellCommands m row column =
      ((m.get? row column).map fun token => table.entryCommands ⟨row, column, token⟩).getD [] := by
  rw [cellCommands_eq_elim]
  unfold entryCommands
  cases m.get? row column with
  | none => rfl
  | some token =>
    cases hlookup : table.lookup token <;> simp [hlookup]

/-- The commands of a row are those of its tokens left of the width. -/
theorem rowCommands_eq (table : RuleTable) (m : TokenMatrix) (y : ℕ) :
    table.rowCommands m y =
      (m.rows.toList[y]?.map fun row =>
        ((rowEntries y row).filter (·.column < m.columnBound)).flatMap table.entryCommands).getD []
    := by
  have hcells : table.cellCommands m y = fun x =>
      ((m.rows[y]?.bind (·[x]?)).map fun token => table.entryCommands ⟨y, x, token⟩).getD [] :=
    funext fun _ => cellCommands_eq
  rw [rowCommands_eq_flatMap, hcells, Array.getElem?_toList]
  cases m.rows[y]? with
  | none => simp
  | some row =>
    simp only [Option.bind_some, Option.map_some, Option.getD_some, ← Array.getElem?_toList,
      rowEntries, List.filter_map, List.flatMap_map]
    rw [flatMap_range_getElem? row.toList fun x token => table.entryCommands ⟨y, x, token⟩]
    exact congrArg (List.flatMap _) (filter_zipIdx_lt row.toList m.columnBound).symm

/-- **The tokens that are read** are those left of the first row's width, in reading order. -/
theorem map_eq_flatMap_entries (table : RuleTable) (m : TokenMatrix) :
    table.map m
      = (m.entries.filter (·.column < m.columnBound)).flatMap table.entryCommands := by
  rw [map_eq_readingOrder, readingOrder_eq_flatMap, funext (rowCommands_eq table m),
    flatMap_range_getElem?,
    rowCount, ← Array.length_toList, List.take_length, entries, List.filter_flatMap,
    List.flatMap_assoc]

/-- Without a report no token lies beyond the width. -/
theorem filter_entries_eq_self (h : m.raggedRows = []) :
    m.entries.filter (·.column < m.columnBound) = m.entries := by
  apply List.filter_eq_self.mpr
  intro entry hentry
  have hsome : (m.get? entry.row entry.column).isSome := by
    rw [mem_entries_iff.mp hentry]
    rfl
  have hcolumn := isSome_get?_iff.mp hsome
  rw [raggedRows_eq_nil_iff.mp h entry.row (row_lt_of_mem_entries hentry)] at hcolumn
  exact decide_eq_true hcolumn

end RuleTable

/-! ## §4 All together -/

/-- **A level without reports is read as a whole.** The rows reported are, in ascending order, those
    below the first that have another width. No row is reported just when each row has a token in
    every column of the width and in no other. The tokens that are mapped are those left of the
    width; without a report they are all tokens of the level, each one once and in reading order, and
    with a report a token lies beyond the width or a cell left of it is missing. -/
theorem unreported_levels_are_covered (m : TokenMatrix) :
    m.raggedRows.Pairwise (· < ·)
      ∧ (∀ y, y ∈ m.raggedRows ↔ 1 ≤ y ∧ y < m.rowCount ∧ m.rowWidth y ≠ m.columnBound)
      ∧ (m.raggedRows = [] ↔
        ∀ y < m.rowCount, ∀ x, (m.get? y x).isSome ↔ x < m.columnBound)
      ∧ (∀ entry, entry ∈ m.entries ↔ m.get? entry.row entry.column = some entry.token)
      ∧ m.entries.Pairwise TokenMatrix.Entry.Before
      ∧ (∀ table : RuleTable, table.map m
        = (m.entries.filter (·.column < m.columnBound)).flatMap table.entryCommands)
      ∧ (m.raggedRows = [] → ∀ table : RuleTable,
        table.map m = m.entries.flatMap table.entryCommands)
      ∧ (m.raggedRows ≠ [] → (∃ entry ∈ m.entries, m.columnBound ≤ entry.column)
        ∨ ∃ y < m.rowCount, ∃ x < m.columnBound, m.get? y x = none) := by
  refine ⟨m.pairwise_raggedRows, ?members, ?silent, fun _ => TokenMatrix.mem_entries_iff,
    m.pairwise_entries, fun table => table.map_eq_flatMap_entries m, ?covered, ?reported⟩
  case members =>
    intro y
    rw [TokenMatrix.mem_raggedRows_iff]
    constructor
    · rintro ⟨hrow, hwidth⟩
      refine ⟨Nat.one_le_iff_ne_zero.mpr ?_, hrow, hwidth⟩
      -- the first row has its own width
      rintro rfl
      exact hwidth rfl
    · rintro ⟨-, hrow, hwidth⟩
      exact ⟨hrow, hwidth⟩
  case silent =>
    simp only [TokenMatrix.raggedRows_eq_nil_iff, TokenMatrix.rowWidth_eq_iff]
  case covered =>
    intro hsilent table
    rw [RuleTable.map_eq_flatMap_entries, RuleTable.filter_entries_eq_self hsilent]
  case reported =>
    intro hreport
    obtain ⟨y, hy⟩ := List.exists_mem_of_ne_nil _ hreport
    obtain ⟨hrow, hwidth⟩ := TokenMatrix.mem_raggedRows_iff.mp hy
    rcases TokenMatrix.exists_of_rowWidth_ne hwidth with hbeyond | ⟨x, hx, hmissing⟩
    · exact .inl hbeyond
    · exact .inr ⟨y, hrow, x, hx, hmissing⟩

/-- A level of two equal rows, whose commands are those of all its tokens, and one with an empty first
    row. -/
theorem unreported_levels_are_covered_emptyRow :
    let even : TokenMatrix := { rows := #[#["*", "?"], #["O", "█"]] }
    let ragged : TokenMatrix := { rows := #[#[], #["O"]] }
    even.raggedRows = []
      ∧ (RuleTable.standard .defaultSpawn).map even =
        [ ⟨.floorValid, .floor 0 0⟩, ⟨.playerSpawn, .defaultSpawn⟩, ⟨.floorValid, .floor 0 1⟩
        , ⟨.floorObstacle, .floor 1 1⟩ ]
      ∧ ragged.raggedRows ≠ []
      ∧ ((∃ entry ∈ ragged.entries, ragged.columnBound ≤ entry.column)
        ∨ ∃ y < ragged.rowCount, ∃ x < ragged.columnBound, ragged.get? y x = none) := by
  intro even ragged
  have heven : even.raggedRows = [] := by decide
  have hragged : ragged.raggedRows ≠ [] := by decide
  obtain ⟨-, -, -, -, -, -, hcovered, -⟩ := unreported_levels_are_covered even
  obtain ⟨-, -, -, -, -, -, -, hreported⟩ := unreported_levels_are_covered ragged
  exact ⟨heven, (hcovered heven _).trans (by decide +kernel), hragged, hreported hragged⟩

end TileLevel
