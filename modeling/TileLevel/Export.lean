import TileLevel.FileSystem
import TileLevel.Placement
import TileLevel.Single.Numeral
import TileLevel.Text.Split

/-!
# Exported Commands

The commands of a level as a JSON array, one object for each command in their order, with the
members `kind`, `x`, `y` and `z`, two spaces of indentation for each level and no line end after the
last line. A coordinate that is not finite is written `null`; the numerals of the others are left to
a printer.

## Main definitions

- `NumberPrinter`: what writes the numerals
- `Export.toJson`: the text
- `Export.write`: the text in a file
-/

namespace TileLevel

/-- Writes finite numbers, each given by its sign and magnitude. The printer is not part of this
    library; it may give up, and tells why. -/
class NumberPrinter where
  print : (negative : Bool) → Single.Magnitude → Except String String

/-- Why an export failed. -/
inductive ExportError where
  /-- The text could not be made. -/
  | serialize (cause : String)
  /-- The text could not be written to the path. -/
  | write (path : String) (cause : FileError)
deriving DecidableEq, Repr

def ExportError.message : ExportError → String
  | .serialize cause => "Serialization failed: " ++ cause
  | .write path cause => "Cannot write " ++ path ++ ": " ++ cause.message

namespace Export

/-! ## §1 The text -/

section

variable [NumberPrinter]

def coordinateText : Single → Except String (List Char)
  | .finite negative m => (NumberPrinter.print negative m).map String.toList
  | .infinite _ => .ok "null".toList
  | .nan => .ok "null".toList

def memberText (name value : List Char) : List Char :=
  "    \"".toList ++ name ++ "\": ".toList ++ value

/-- The object of a command whose coordinates are written so. -/
def objectText (kind : Kind) (x y z : List Char) : List Char :=
  "  \x7b\n".toList
    ++ Text.joinWith ",\n".toList
      [ memberText ['k', 'i', 'n', 'd'] ('"' :: kind.name.toList ++ ['"'])
      , memberText ['x'] x
      , memberText ['y'] y
      , memberText ['z'] z ]
    ++ "\n  \x7d".toList

def commandText (command : Command) : Except String (List Char) := do
  let x ← coordinateText command.position.x
  let y ← coordinateText command.position.y
  let z ← coordinateText command.position.z
  return objectText command.kind x y z

def arrayText : (objects : List (List Char)) → List Char
  | [] => "[]".toList
  | objects => "[\n".toList ++ Text.joinWith ",\n".toList objects ++ "\n]".toList

def toJson (commands : List Command) : Except ExportError String :=
  match commands.mapM commandText with
  | .error cause => .error (.serialize cause)
  | .ok objects => .ok (.ofList (arrayText objects))

/-! ## §2 The file -/

variable {Files : Type} [FileSystem Files]

def write (files : Files) (path : String) (commands : List Command) :
    Except ExportError Unit × Files :=
  match toJson commands with
  | .error failure => (.error failure, files)
  | .ok text =>
    match FileSystem.write files path text.toUTF8 with
    | (.ok _, files) => (.ok (), files)
    | (.error cause, files) => (.error (.write path cause), files)

end

/-! ## §3 Shortest numerals -/

/-- Coordinates in exported text: whole numbers end in `.0`, the first digit's exponent is written
    out from `-6` to `12`, and of two decimals that are equally near the even one is taken. -/
def coordinateStyle : Single.NumeralStyle where
  tie := .toEven
  positional := some (-6, 12)
  wholeEnding := ['.', '0']

/-- Prints the shortest numerals that are read as the number. -/
instance shortestNumerals : NumberPrinter where
  print negative m := .ok (.ofList (Single.writeSigned coordinateStyle negative m))

end Export

end TileLevel
