import TileLevel.RuleTable
import TileLevel.TokenMatrix

/-!
# From Tokens to Placements

A level is read row by row and from left to right, up to the width of its first row, and every token
that has a rule gives its commands. Cells missing from a short row give none, and what lies beyond
the first row's width is not read. Reading can stop after any command and be taken up again.

## Main definitions

- `Placements`: the state of a half-read level
- `Placements.next`: the next command
- `Placements.take`, `Placements.collect`: the next commands, and all that are left
- `RuleTable.map`: all commands of a level
-/

namespace TileLevel

/-! ## §1 Half-read levels -/

/-- A cell with a rule, and those of its emissions that have not been handed out. -/
structure OpenCell where
  column : Nat
  row : Nat
  emissions : List Emission
deriving DecidableEq, Repr

/-- A level that has been read in part. -/
structure Placements where
  table : RuleTable
  matrix : TokenMatrix
  /-- The width of the first row, up to which every row is read -/
  columnBound : Nat
  /-- The row of the next cell to visit -/
  row : Nat := 0
  /-- The column of the next cell to visit -/
  column : Nat := 0
  /-- The cell visited last, if it has a rule -/
  pending : Option OpenCell := none
deriving DecidableEq, Repr

/-- What one turn of the reading loop comes to. -/
inductive Turn where
  /-- A command, or `none` at the end of the level -/
  | answer (command : Option Command) (rest : Placements)
  /-- One more cell has been visited -/
  | visited (rest : Placements)
deriving DecidableEq, Repr

namespace Placements

/-- Visits the next cell and moves on to the one after it in reading order. -/
def visit (p : Placements) : Placements :=
  { p with
    row := if p.column + 1 < p.columnBound then p.row else p.row + 1
    column := if p.column + 1 < p.columnBound then p.column + 1 else 0
    pending := ((p.matrix.get? p.row p.column).bind p.table.lookup).map fun emissions =>
      { column := p.column, row := p.row, emissions } }

/-- One turn of the reading loop: the next emission of the open cell, or else the next cell. -/
def turn (p : Placements) : Turn :=
  match p.pending with
  | some { column, row, emissions := emission :: emissions } =>
    .answer (some (emission.resolve column row))
      { p with pending := some { column, row, emissions } }
  | _ =>
    if p.columnBound = 0 ∨ p.matrix.rowCount ≤ p.row then .answer none { p with pending := none }
    else .visited p.visit

/-! ## §2 The reading loop ends -/

/-- A bound on the cells ahead that becomes smaller from cell to cell. -/
def cellsAhead (p : Placements) : Nat :=
  (p.matrix.rowCount - p.row) * (p.columnBound + 1) + (p.columnBound - p.column)

/-- How many emissions of the open cell have not been handed out. -/
def openEmissions (p : Placements) : Nat :=
  (p.pending.map (·.emissions.length)).getD 0

theorem cellsAhead_visit_lt {p : Placements} (h : p.row < p.matrix.rowCount) :
    p.visit.cellsAhead < p.cellsAhead := by
  obtain ⟨d, hd⟩ : ∃ d, p.matrix.rowCount - p.row = d + 1 :=
    ⟨p.matrix.rowCount - p.row - 1, by omega⟩
  have hd' : p.matrix.rowCount - (p.row + 1) = d := by omega
  unfold cellsAhead visit
  dsimp only
  split
  · omega
  · -- the wrap to the next row gives up a whole row, whatever the column was
    rw [hd, hd', Nat.succ_mul]
    omega

theorem cellsAhead_lt_of_turn {p rest : Placements} (h : p.turn = .visited rest) :
    rest.cellsAhead < p.cellsAhead := by
  unfold turn at h
  split at h
  · cases h
  · split at h
    · cases h
    · rename_i hahead
      cases h
      exact cellsAhead_visit_lt (by omega)

/-- The next command, `none` at the end, and what is left of the level. -/
def next (p : Placements) : Option Command × Placements :=
  match _h : p.turn with
  | .answer command rest => (command, rest)
  | .visited rest => rest.next
termination_by p.cellsAhead
decreasing_by exact cellsAhead_lt_of_turn _h

/-- An answer with a command takes one emission of the open cell and nothing else. -/
theorem openEmissions_of_turn {p rest : Placements} {command : Command}
    (h : p.turn = .answer (some command) rest) :
    rest.cellsAhead = p.cellsAhead ∧ rest.openEmissions < p.openEmissions := by
  unfold turn at h
  split at h
  · rename_i hpending
    cases h
    exact ⟨rfl, by simp [openEmissions, hpending]⟩
  · split at h <;> cases h

theorem ahead_lt_of_next {p rest : Placements} {command : Command}
    (h : p.next = (some command, rest)) :
    rest.cellsAhead < p.cellsAhead
      ∨ rest.cellsAhead = p.cellsAhead ∧ rest.openEmissions < p.openEmissions := by
  fun_induction next p with
  | case1 p answered left hturn =>
    cases h
    exact .inr (openEmissions_of_turn hturn)
  | case2 p visited hturn ih =>
    have hlt := cellsAhead_lt_of_turn hturn
    have hle := ih h
    omega

/-! ## §3 Many commands -/

/-- Up to `count` commands and what is left of the level. -/
def take (count : Nat) (p : Placements) : List Command × Placements :=
  go count p []
where
  /-- `taken` holds the commands so far, last one first. -/
  go : Nat → Placements → List Command → List Command × Placements
    | 0, p, taken => (taken.reverse, p)
    | count + 1, p, taken =>
      match p.next with
      | (none, rest) => (taken.reverse, rest)
      | (some command, rest) => go count rest (command :: taken)

/-- All commands that are left. -/
def collect (p : Placements) : List Command :=
  go p []
where
  /-- `taken` holds the commands so far, last one first. -/
  go (p : Placements) (taken : List Command) : List Command :=
    match _h : p.next with
    | (none, _) => taken.reverse
    | (some command, rest) => go rest (command :: taken)
  termination_by (p.cellsAhead, p.openEmissions)
  decreasing_by
    rcases ahead_lt_of_next _h with hlt | ⟨heq, hlt⟩
    · exact .left _ _ hlt
    · rw [heq]
      exact .right _ hlt

end Placements

/-! ## §4 Whole levels -/

namespace RuleTable

/-- The commands of a level, to be read one after the other. -/
def placements (table : RuleTable) (matrix : TokenMatrix) : Placements :=
  { table, matrix, columnBound := matrix.columnBound }

/-- The commands of a level, in reading order. -/
def map (table : RuleTable) (matrix : TokenMatrix) : List Command :=
  (table.placements matrix).collect

end RuleTable

end TileLevel
