import TileLevel.Single.Shortest

/-!
# Numerals

How the shortest decimal of a number is written down: positional, with zeros up to the point, or
with an exponent. A `NumeralStyle` holds the decisions, and each text format has one.
-/

namespace TileLevel.Single

/-- The decisions of a decimal format. -/
structure NumeralStyle where
  /-- Which of two shortest decimals that are equally near is written -/
  tie : TieRule
  /-- The exponents of the first digit that are written out in zeros; `none` means all of them -/
  positional : Option (Int × Int)
  /-- What follows the digits of a whole number -/
  wholeEnding : List Char
deriving DecidableEq, Repr

namespace Decimal

def leadingExponent (decimal : Decimal) : Int :=
  (Nat.toDigits 10 decimal.digits).length - 1 + decimal.exponent

/-- All digits at their places around the point. -/
def writePositional (wholeEnding : List Char) (decimal : Decimal) : List Char :=
  let digits := Nat.toDigits 10 decimal.digits
  let fraction := (-decimal.exponent).toNat
  if fraction = 0 then digits ++ List.replicate decimal.exponent.toNat '0' ++ wholeEnding
  else if fraction < digits.length then
    digits.take (digits.length - fraction) ++ '.' :: digits.drop (digits.length - fraction)
  else '0' :: '.' :: (List.replicate (fraction - digits.length) '0' ++ digits)

/-- One digit before the point and the exponent behind, always with its sign. -/
def writeScientific (decimal : Decimal) : List Char :=
  let exponent := decimal.leadingExponent
  let digits := match Nat.toDigits 10 decimal.digits with
    | first :: second :: rest => first :: '.' :: second :: rest
    | digits => digits
  digits ++ 'e' :: (if exponent < 0 then '-' else '+') :: Nat.toDigits 10 exponent.natAbs

end Decimal

/-- A magnitude in a style. -/
def Magnitude.write (style : NumeralStyle) (m : Magnitude) : List Char :=
  if m.units = 0 then '0' :: style.wholeEnding
  else
    let decimal := m.shortest style.tie
    match style.positional with
    | none => decimal.writePositional style.wholeEnding
    | some (least, greatest) =>
      if least ≤ decimal.leadingExponent ∧ decimal.leadingExponent ≤ greatest then
        decimal.writePositional style.wholeEnding
      else decimal.writeScientific

/-- A signed magnitude in a style. Negative zero keeps its sign. -/
def writeSigned (style : NumeralStyle) (negative : Bool) (m : Magnitude) : List Char :=
  if negative then '-' :: m.write style else m.write style

/-- Coordinates in messages: every digit at its place, nothing after whole numbers, and the upper of
    two decimals that are equally near. -/
def messageStyle : NumeralStyle where
  tie := .up
  positional := none
  wholeEnding := []

def display : Single → String
  | .finite negative m => .ofList (writeSigned messageStyle negative m)
  | .infinite negative => if negative then "-inf" else "inf"
  | .nan => "NaN"

end TileLevel.Single
