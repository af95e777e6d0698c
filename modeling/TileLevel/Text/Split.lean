/-!
# Splitting and Joining Text

Text is cut at every occurrence of a separator, from the left, and no two occurrences overlap.
Cutting at the empty separator gives every character a piece of its own between two empty pieces.

## Main definitions

- `splitOn`: the pieces between the separators, of which there is always at least one
- `joinWith`: the pieces with the separator between them
-/

namespace TileLevel.Text

/-- Cuts the rest of a text at a separator that is not empty. `done` holds the finished pieces, last
    one first, `piece` the open one, last character first, and `skip` how many characters of a
    separator are still to be passed over. -/
def splitFrom (sep : List Char) (done : List (List Char)) (piece : List Char) (skip : Nat) :
    List Char → List (List Char)
  | [] => (piece.reverse :: done).reverse
  | c :: rest =>
    match skip with
    | skip + 1 => splitFrom sep done piece skip rest
    | 0 =>
      if sep.isPrefixOf (c :: rest) then
        splitFrom sep (piece.reverse :: done) [] (sep.length - 1) rest
      else splitFrom sep done (c :: piece) 0 rest

/-- The pieces of a text between the occurrences of a separator. -/
def splitOn (sep text : List Char) : List (List Char) :=
  if sep = [] then [] :: (text.map ([·]) ++ [[]]) else splitFrom sep [] [] 0 text

/-- The pieces with the separator between them. -/
def joinWith (sep : List Char) (pieces : List (List Char)) : List Char :=
  (pieces.intersperse sep).flatten

end TileLevel.Text
