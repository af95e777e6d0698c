/-!
# Ranges of Code Points

A character property is kept as the ranges of code points that have it. Looking a character up
halves the table until one range is left.
-/

namespace TileLevel.Text

/-- Ranges of code points, both ends included, ascending and apart from each other. -/
abbrev CodeRanges := Array (Nat × Nat)

namespace CodeRanges

/-- Looks for `code` among the ranges numbered from `low` up to `high`, which halves at each of at
    most `steps` steps. -/
def holdsBetween (ranges : CodeRanges) (code : Nat) : (steps low high : Nat) → Bool
  | 0, _, _ => false
  | steps + 1, low, high =>
    if low < high then
      let middle := (low + high) / 2
      match ranges[middle]? with
      | none => false
      | some (first, last) =>
        if code < first then ranges.holdsBetween code steps low middle
        else if last < code then ranges.holdsBetween code steps (middle + 1) high
        else true
    else false

def holds (ranges : CodeRanges) (c : Char) : Bool :=
  ranges.holdsBetween c.toNat (ranges.size.log2 + 1) 0 ranges.size

end CodeRanges

end TileLevel.Text
