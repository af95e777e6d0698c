import Mathlib
import TileLevel.Proofs.Splitting
import TileLevel.TokenMatrix

/-!
# Levels as Text and Back

A text can be cut into tokens with any separators and loses nothing. The other way round, a matrix
can be written so that reading gives something else, and `TokenMatrix.Legible` says which matrices
are safe.

## Main statements

- `parse_loses_nothing`: a text is what its tokens are written as
- `parse_toText_eq_iff_legible`: which matrices are what their text is read as
-/

namespace TileLevel.TokenMatrix

open Text

variable {separators : Separators}

/-! ## §1 Rows -/

/-- The tokens of a row of text. -/
def readRow (separators : Separators) (row : List Char) : Array String :=
  ((splitOn [separators.token] row).map String.ofList).toArray

theorem rows_parse (text : String) :
    (parse separators text).rows =
      ((splitOn separators.row.toList text.toList).map (readRow separators)).toArray := rfl

private theorem map_toList_ofList (pieces : List (List Char)) :
    (pieces.map String.ofList).map String.toList = pieces := by
  simp [Function.comp_def]

private theorem map_ofList_toList (tokens : List String) :
    (tokens.map String.toList).map String.ofList = tokens := by
  simp [Function.comp_def]

theorem rowText_readRow (separators : Separators) (row : List Char) :
    rowText separators (readRow separators row) = row := by
  rw [rowText, readRow, map_toList_ofList, joinWith_splitOn]

/-- The tokens of a row are what its text is read as, if there are any and the separator is not in
    them. -/
theorem readRow_rowText {row : Array String} (hrow : row ≠ #[])
    (hfree : ∀ token ∈ row, separators.token ∉ token.toList) :
    readRow separators (rowText separators row) = row := by
  have hpieces : splitOn [separators.token] (rowText separators row)
      = row.toList.map String.toList := by
    apply splitOn_joinWith (List.cons_ne_nil _ _) (unbordered_singleton _)
    · simpa using hrow
    · intro piece hpiece
      obtain ⟨token, htoken, rfl⟩ := List.mem_map.mp hpiece
      rw [List.singleton_infix_iff]
      exact hfree token (Array.mem_toList_iff.mp htoken)
  rw [readRow, hpieces, map_ofList_toList, Array.toArray_toList]

/-! ## §2 From text to tokens and back -/

/-- Writing the tokens of a text with the separators it was read with gives the text. -/
theorem toText_parse (separators : Separators) (text : String) :
    (parse separators text).toText separators = text := by
  have hrows : (parse separators text).rows.toList.map (rowText separators)
      = splitOn separators.row.toList text.toList := by
    simp [rows_parse, rowText_readRow, Function.comp_def]
  rw [toText, hrows, joinWith_splitOn, String.ofList_toList]

/-- **Reading loses nothing**, whatever the separators: a text is what its tokens are written as,
    and no two texts have the same tokens. -/
theorem parse_loses_nothing :
    (∀ separators text, (parse separators text).toText separators = text)
      ∧ (∀ text, (parse {} text).toText {} = text)
      ∧ ∀ separators, Function.Injective (parse separators) := by
  refine ⟨toText_parse, toText_parse {}, ?_⟩
  intro separators a b hab
  calc a = (parse separators a).toText separators := (toText_parse separators a).symm
    _ = (parse separators b).toText separators := by rw [hab]
    _ = b := toText_parse separators b

/-! ## §3 From tokens to text and back -/

/-- Matrices that a reader of their text understands as they were meant. -/
structure Legible (separators : Separators) (m : TokenMatrix) : Prop where
  rows_ne_empty : m.rows ≠ #[]
  row_ne_empty : ∀ row ∈ m.rows, row ≠ #[]
  token_free : ∀ row ∈ m.rows, ∀ token ∈ row, separators.token ∉ token.toList
  row_free : ∀ row ∈ m.rows, ¬ separators.row.toList <:+: rowText separators row

/-- What is read from a text is legible. -/
theorem legible_parse (hrow : separators.row ≠ "") (text : String) :
    (parse separators text).Legible separators := by
  have hne : separators.row.toList ≠ [] := by simpa using hrow
  have hrows : ∀ row ∈ (parse separators text).rows,
      ∃ line ∈ splitOn separators.row.toList text.toList, readRow separators line = row := by
    simp [rows_parse]
  constructor
  case rows_ne_empty =>
    -- the empty text has one row too
    simp [rows_parse, splitOn_ne_nil]
  case row_ne_empty =>
    intro row hmem
    obtain ⟨line, -, rfl⟩ := hrows row hmem
    simp [readRow, splitOn_ne_nil]
  case token_free =>
    intro row hmem token htoken
    obtain ⟨line, -, rfl⟩ := hrows row hmem
    simp only [readRow, List.mem_toArray, List.mem_map] at htoken
    obtain ⟨piece, hpiece, rfl⟩ := htoken
    have hfree := not_isInfix_of_mem_splitOn (List.cons_ne_nil _ _) hpiece
    rwa [List.singleton_infix_iff, ← String.toList_ofList (l := piece)] at hfree
  case row_free =>
    intro row hmem
    obtain ⟨line, hline, rfl⟩ := hrows row hmem
    rw [rowText_readRow]
    exact not_isInfix_of_mem_splitOn hne hline

/-- A legible matrix is what its text is read as, if the row separator is unbordered. -/
theorem parse_toText {m : TokenMatrix} (hrow : separators.row ≠ "")
    (hborder : Unbordered separators.row.toList) (hm : m.Legible separators) :
    parse separators (m.toText separators) = m := by
  have hlines : splitOn separators.row.toList (m.toText separators).toList
      = m.rows.toList.map (rowText separators) := by
    rw [toText, String.toList_ofList]
    apply splitOn_joinWith _ hborder
    · simpa using hm.rows_ne_empty
    · intro line hline
      obtain ⟨row, hmem, rfl⟩ := List.mem_map.mp hline
      exact hm.row_free row (Array.mem_toList_iff.mp hmem)
    · simpa using hrow
  -- row by row, the inner split undoes the inner join
  have hrows : (m.rows.toList.map (rowText separators)).map (readRow separators)
      = m.rows.toList := by
    rw [List.map_map, List.map_congr_left (g := id), List.map_id]
    intro row hmem
    have hmem := Array.mem_toList_iff.mp hmem
    exact readRow_rowText (hm.row_ne_empty row hmem) (hm.token_free row hmem)
  have heq : (parse separators (m.toText separators)).rows = m.rows := by
    rw [rows_parse, hlines, hrows, Array.toArray_toList]
  exact congrArg TokenMatrix.mk heq

/-- A row contains a word without the token separator just when one of its tokens does. -/
theorem isInfix_rowText_iff {word : List Char} {row : Array String} (hne : word ≠ [])
    (htoken : separators.token ∉ word) :
    word <:+: rowText separators row ↔ ∃ token ∈ row, word <:+: token.toList := by
  rw [rowText, isInfix_joinWith_singleton_iff hne htoken]
  simp

/-- **What survives being written and read back**, if the row separator is unbordered: the legible
    matrices and no others. Where the row separator does not contain the token separator, the rows
    of a matrix do not contain it just when the tokens do not. -/
theorem parse_toText_eq_iff_legible (separators : Separators) (hrow : separators.row ≠ "")
    (hborder : Unbordered separators.row.toList) (m : TokenMatrix) :
    (parse separators (m.toText separators) = m ↔ m.Legible separators)
      ∧ (separators.token ∉ separators.row.toList →
        ((∀ row ∈ m.rows, ¬ separators.row.toList <:+: rowText separators row)
          ↔ ∀ row ∈ m.rows, ∀ token ∈ row, ¬ separators.row.toList <:+: token.toList)) := by
  constructor
  · constructor
    · -- a matrix that comes back was read from a text
      intro hsame
      rw [← hsame]
      exact legible_parse hrow (m.toText separators)
    · exact parse_toText hrow hborder
  · intro htoken
    simp only [isInfix_rowText_iff (by simpa using hrow) htoken, not_exists, not_and]

/-- A token may end in half of a row separator, and the next row may begin with the other half. -/
theorem parse_toText_eq_iff_legible_halves :
    let m : TokenMatrix := { rows := #[#["O", "*\r"], #["\n"]] }
    (({} : Separators).row ≠ "" ∧ Unbordered ({} : Separators).row.toList
        ∧ ({} : Separators).token ∉ ({} : Separators).row.toList)
      ∧ TokenMatrix.parse {} (m.toText {}) = m
      ∧ ∀ row ∈ m.rows, ∀ token ∈ row, ¬ ({} : Separators).row.toList <:+: token.toList := by
  intro m
  have hrow : ({} : Separators).row ≠ "" := by decide
  have hborder : Unbordered ({} : Separators).row.toList := by decide
  have htoken : ({} : Separators).token ∉ ({} : Separators).row.toList := by decide
  obtain ⟨hsame, hfree⟩ := parse_toText_eq_iff_legible {} hrow hborder m
  have hrowFree : ∀ row ∈ m.rows, ¬ ({} : Separators).row.toList <:+: rowText {} row := by decide
  refine ⟨⟨hrow, hborder, htoken⟩, hsame.mpr ?_, (hfree htoken).mp hrowFree⟩
  constructor
  case rows_ne_empty => decide
  case row_ne_empty => decide
  case token_free => decide
  case row_free => exact hrowFree

/-- Two rows that a bordered separator does not keep apart. -/
example : parse { row := "aa" } (toText { row := "aa" } { rows := #[#["a"], #["b"]] })
    = { rows := #[#[""], #["ab"]] } := by decide

end TileLevel.TokenMatrix
