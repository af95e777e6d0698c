import TileLevel.Text.Split

/-!
# Token Matrices

A level is a block of text: rows of tokens, with one separator between rows and one between the
tokens of a row. Reading never fails and never judges the shape. The width of the first row bounds
every row when the level is mapped; rows of another width are only reported.

## Main definitions

- `Separators`: what stands between rows and between tokens
- `TokenMatrix.parse`, `TokenMatrix.toText`: from text and back
- `TokenMatrix.get?`, `TokenMatrix.columnBound`, `TokenMatrix.raggedRows`: the shape
-/

namespace TileLevel

/-- What separates the rows of a level and the tokens of a row: a line end and a space by default.
    -/
structure Separators where
  row : String := "\r\n"
  token : Char := ' '
deriving DecidableEq, Repr

/-- Rows of tokens, the top one first, and from left to right in a row. -/
structure TokenMatrix where
  rows : Array (Array String)
deriving DecidableEq, Repr

namespace TokenMatrix

/-! ## §1 Shape -/

def rowCount (m : TokenMatrix) : Nat :=
  m.rows.size

/-- The width of a row, zero for one that is not there. -/
def rowWidth (m : TokenMatrix) (y : Nat) : Nat :=
  (m.rows[y]?.map Array.size).getD 0

/-- The width of the first row. Every row is read up to it. -/
def columnBound (m : TokenMatrix) : Nat :=
  m.rowWidth 0

/-- The token in a row and column, if the row is long enough. -/
def get? (m : TokenMatrix) (y x : Nat) : Option String :=
  m.rows[y]?.bind (·[x]?)

/-- The rows whose width differs from that of the first row, in ascending order. -/
def raggedRows (m : TokenMatrix) : List Nat :=
  (List.range m.rowCount).filter fun y => m.rowWidth y != m.columnBound

/-! ## §2 Text -/

/-- Reads a level. Splitting is literal: a line feed alone stays in its token when rows end in two
    characters, and two adjacent spaces have an empty token between them. -/
def parse (separators : Separators) (text : String) : TokenMatrix where
  rows :=
    ((Text.splitOn separators.row.toList text.toList).map fun row =>
      ((Text.splitOn [separators.token] row).map String.ofList).toArray).toArray

def rowText (separators : Separators) (row : Array String) : List Char :=
  Text.joinWith [separators.token] (row.toList.map String.toList)

/-- Writes a level. No separator follows the last row. -/
def toText (separators : Separators) (m : TokenMatrix) : String :=
  .ofList (Text.joinWith separators.row.toList (m.rows.toList.map (rowText separators)))

end TokenMatrix

end TileLevel
