import Mathlib
import TileLevel.Proofs.Reading
import TileLevel.Proofs.RoundTrip

/-!
# Rows Appended to a Level

Rows put below a level leave everything above them as it is: its tokens, its width, its reports and
its commands. The new rows are numbered on from the old ones and are read up to the width of the old
first row, whatever their own widths are. Texts behave in the same way if the row separator between
them is unbordered.

## Main definitions

- `TokenMatrix.stack`: the rows of two matrices
- `RuleTable.readingBelow`: the commands of rows that are read below others

## Main statements

- `TokenMatrix.parse_append`: the text of a stack
- `TokenMatrix.raggedRows_stack`, `RuleTable.map_stack`: reports and commands of a stack
- `appended_rows_come_after`: what appending text to a level does
-/

namespace TileLevel

/-! ## §1 Stacks -/

namespace TokenMatrix

/-- The rows of two matrices, those of the first above those of the second. -/
def stack (above below : TokenMatrix) : TokenMatrix where
  rows := above.rows ++ below.rows

variable {above below : TokenMatrix} {y : ℕ}

theorem rowCount_stack : (above.stack below).rowCount = above.rowCount + below.rowCount :=
  Array.size_append

theorem rowWidth_stack_above (h : y < above.rowCount) :
    (above.stack below).rowWidth y = above.rowWidth y := by
  rw [rowWidth, stack, Array.getElem?_append_left h, rowWidth]

theorem rowWidth_stack_below (y : ℕ) :
    (above.stack below).rowWidth (above.rowCount + y) = below.rowWidth y := by
  rw [rowWidth, stack, rowCount, Array.getElem?_append_right (Nat.le_add_right ..),
    Nat.add_sub_cancel_left, rowWidth]

theorem get?_stack_above (h : y < above.rowCount) (x : ℕ) :
    (above.stack below).get? y x = above.get? y x := by
  rw [get?, stack, Array.getElem?_append_left h, get?]

theorem get?_stack_below (y x : ℕ) :
    (above.stack below).get? (above.rowCount + y) x = below.get? y x := by
  rw [get?, stack, rowCount, Array.getElem?_append_right (Nat.le_add_right ..),
    Nat.add_sub_cancel_left, get?]

/-- The first row is that of the upper matrix, if this has one. -/
theorem columnBound_stack (h : 0 < above.rowCount) :
    (above.stack below).columnBound = above.columnBound :=
  rowWidth_stack_above h

/-- **Reports of a stack**: those of the upper matrix, and then the lower rows that differ from the
    upper first row. -/
theorem raggedRows_stack (h : 0 < above.rowCount) :
    (above.stack below).raggedRows = above.raggedRows
      ++ ((List.range below.rowCount).filter (below.rowWidth · != above.columnBound)).map
        (above.rowCount + ·) := by
  have habove : ∀ y ∈ List.range above.rowCount,
      ((above.stack below).rowWidth y != above.columnBound)
        = (above.rowWidth y != above.columnBound) := by
    intro y hy
    rw [rowWidth_stack_above (List.mem_range.mp hy)]
  simp only [raggedRows, rowCount_stack, columnBound_stack h]
  rw [List.range_add, List.filter_append, List.filter_map, List.filter_congr habove]
  simp only [Function.comp_def, rowWidth_stack_below]

end TokenMatrix

/-! ## §2 Commands of a stack -/

namespace RuleTable

/-- The commands of the rows of a matrix that are read up to a width below `top` other rows. -/
def readingBelow (table : RuleTable) (top width : ℕ) (m : TokenMatrix) : List Command :=
  (List.range m.rowCount).flatMap fun row =>
    (List.range width).flatMap fun column =>
      match (m.get? row column).bind table.lookup with
      | some emissions => emissions.map (·.resolve column (top + row))
      | none => []

variable {table : RuleTable} {above below : TokenMatrix}

theorem rowCommands_stack_above {row : ℕ} (h : row < above.rowCount) :
    table.rowCommands (above.stack below) row = table.rowCommands above row := by
  have hfirst : 0 < above.rowCount := Nat.zero_lt_of_lt h
  simp only [rowCommands_eq_flatMap, TokenMatrix.columnBound_stack hfirst]
  apply List.flatMap_congr
  intro column _
  rw [cellCommands_eq_elim, TokenMatrix.get?_stack_above h, cellCommands_eq_elim]

/-- **Commands of a stack**: those of the upper matrix, and then those of the lower rows. -/
theorem readingOrder_stack (h : 0 < above.rowCount) :
    table.readingOrder (above.stack below)
      = table.readingOrder above ++ table.readingBelow above.rowCount above.columnBound below := by
  rw [readingOrder_eq_flatMap, TokenMatrix.rowCount_stack, List.range_add, List.flatMap_append,
    List.flatMap_map]
  congr 1
  · apply List.flatMap_congr
    intro row hrow
    exact rowCommands_stack_above (List.mem_range.mp hrow)
  · -- a lower row keeps its tokens, and its number is counted on from the upper rows
    simp only [readingBelow, rowCommands_eq_flatMap, TokenMatrix.columnBound_stack h]
    apply List.flatMap_congr
    intro row _
    apply List.flatMap_congr
    intro column _
    rw [cellCommands_eq_elim, TokenMatrix.get?_stack_below]
    cases (below.get? row column).bind table.lookup <;> rfl

theorem map_stack (h : 0 < above.rowCount) :
    table.map (above.stack below)
      = table.map above ++ table.readingBelow above.rowCount above.columnBound below := by
  rw [map_eq_readingOrder, map_eq_readingOrder, readingOrder_stack h]

end RuleTable

/-! ## §3 Texts -/

namespace TokenMatrix

open Text

variable {separators : Separators}

theorem rowCount_parse_pos (separators : Separators) (text : String) :
    0 < (parse separators text).rowCount := by
  have hpieces := splitOn_ne_nil separators.row.toList text.toList
  simpa [rowCount, rows_parse, List.length_pos_iff] using hpieces

/-- **The text of a stack**: an unbordered row separator between two texts separates their rows. -/
theorem parse_append (hrow : separators.row ≠ "") (hborder : Unbordered separators.row.toList)
    (a b : String) :
    parse separators (a ++ separators.row ++ b)
      = (parse separators a).stack (parse separators b) := by
  have hne : separators.row.toList ≠ [] := by simpa using hrow
  have hrows : (parse separators (a ++ separators.row ++ b)).rows
      = (parse separators a).rows ++ (parse separators b).rows := by
    simp only [rows_parse, String.toList_append]
    rw [splitOn_append hne hborder, List.map_append, List.append_toArray]
  exact congrArg TokenMatrix.mk hrows

end TokenMatrix

/-- **Appended rows come after.** Behind an unbordered row separator, appended text gives rows below
    those of the level. The width stays, and reports and commands begin with those of the level: the
    commands of the new rows follow, numbered on and cut at the old width. -/
theorem appended_rows_come_after (separators : Separators) (hrow : separators.row ≠ "")
    (hborder : Text.Unbordered separators.row.toList) (a b : String) (table : RuleTable) :
    let above := TokenMatrix.parse separators a
    let below := TokenMatrix.parse separators b
    let whole := TokenMatrix.parse separators (a ++ separators.row ++ b)
    whole.rows = above.rows ++ below.rows
      ∧ whole.columnBound = above.columnBound
      ∧ above.raggedRows <+: whole.raggedRows
      ∧ table.map whole
        = table.map above ++ table.readingBelow above.rowCount above.columnBound below := by
  intro above below whole
  have hwhole : whole = above.stack below := TokenMatrix.parse_append hrow hborder a b
  have hfirst : 0 < above.rowCount := TokenMatrix.rowCount_parse_pos separators a
  rw [hwhole]
  refine ⟨rfl, TokenMatrix.columnBound_stack hfirst, ?_, RuleTable.map_stack hfirst⟩
  rw [TokenMatrix.raggedRows_stack hfirst]
  exact List.prefix_append _ _

/-- Halves of a separator on both of its sides, and new rows that are numbered on and cut. -/
theorem appended_rows_come_after_halves :
    let separators : Separators := {}
    let a := "O\r\nO O\r"
    let b := "\n\r\n* O"
    let table := RuleTable.standard .defaultSpawn
    let whole := TokenMatrix.parse separators (a ++ separators.row ++ b)
    separators.row ≠ "" ∧ Text.Unbordered separators.row.toList
      ∧ whole.rows = #[#["O"], #["O", "O\r"], #["\n"], #["*", "O"]]
      ∧ whole.columnBound = 1 ∧ [1] <+: whole.raggedRows
      ∧ table.map whole = [⟨.floorValid, .floor 0 0⟩, ⟨.floorValid, .floor 0 1⟩]
        ++ [⟨.floorValid, .floor 0 3⟩, ⟨.playerSpawn, .defaultSpawn⟩] := by
  intro separators a b table whole
  have hrow : separators.row ≠ "" := by decide
  have hborder : Text.Unbordered separators.row.toList := by decide
  obtain ⟨hrows, hbound, hragged, hmap⟩ := appended_rows_come_after separators hrow hborder a b table
  have hreport : (TokenMatrix.parse separators a).raggedRows = [1] := by decide
  refine ⟨hrow, hborder, ?_, ?_, ?_, ?_⟩
  · exact hrows.trans (by decide)
  · exact hbound.trans (by decide)
  · rwa [hreport] at hragged
  · rw [hmap, RuleTable.map_eq_readingOrder]
    decide +kernel

end TileLevel
