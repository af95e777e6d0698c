import TileLevel.FileSystem
import TileLevel.Summary

/-!
# Levels

A level file is read as a whole, split into tokens and mapped to commands. A file that cannot be
read or is not UTF-8 gives no level at all.

## Main definitions

- `LevelConfig`: the level read first, the separators and where the player starts
- `Level.load`: a level from a file
-/

namespace TileLevel

/-! ## §1 Configuration -/

structure LevelConfig where
  levelPath : String := "successful_boards_ascii.txt"
  separators : Separators := {}
  /-- Where the player starts, whichever cell holds the peg -/
  spawn : Position := .defaultSpawn
deriving DecidableEq, Repr

/-! ## §2 Errors -/

inductive LoadError where
  | unavailable (path : String) (cause : FileError)
  | invalidEncoding (path : String)
deriving DecidableEq, Repr

def LoadError.message : LoadError → String
  | .unavailable path cause => "Cannot read level " ++ path ++ ": " ++ cause.message
  | .invalidEncoding path => "Level is not valid UTF-8: " ++ path

/-! ## §3 Loading -/

/-- A level's tokens and commands, and where they come from. -/
structure Level where
  matrix : TokenMatrix
  commands : List Command
  source : String
deriving DecidableEq, Repr

namespace Level

def summary (level : Level) : LevelSummary :=
  .describe level.matrix level.commands

variable {Files : Type} [FileSystem Files]

def readText (files : Files) (path : String) : Except LoadError String :=
  match FileSystem.read files path with
  | .error cause => .error (.unavailable path cause)
  | .ok bytes =>
    match String.fromUTF8? bytes with
    | none => .error (.invalidEncoding path)
    | some text => .ok text

def ofText (separators : Separators) (table : RuleTable) (source text : String) : Level :=
  let matrix := TokenMatrix.parse separators text
  { matrix, commands := table.map matrix, source }

def loadWith (files : Files) (config : LevelConfig) (table : RuleTable) (path : String) :
    Except LoadError Level :=
  match readText files path with
  | .error e => .error e
  | .ok text => .ok (ofText config.separators table ("level:" ++ path) text)

/-- The level in a file, mapped with the rules of the puzzle. -/
def load (files : Files) (config : LevelConfig) (path : String) : Except LoadError Level :=
  loadWith files config (.standard config.spawn) path

end Level

end TileLevel
