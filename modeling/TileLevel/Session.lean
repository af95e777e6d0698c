import TileLevel.Deck
import TileLevel.Export
import TileLevel.Preview

/-!
# Sessions

A session shows one level at a time. It is in command mode until a level is loaded, and shows the
level after that; keys scroll the level, and the command deck loads, exports and ends. What goes
wrong is told in the status line and changes nothing else.

## Main definitions

- `Session`: the mode, the level on show, the status and what has been typed
- `Session.handle`: the answer to an event, together with the files it leaves
- `Session.press`, `Session.type`, `Session.submit`: keys and typed commands
-/

namespace TileLevel

/-! ## §1 State -/

inductive Mode where
  /-- Input goes to the command deck; no level need be loaded -/
  | command
  /-- A level is on show -/
  | preview
  | quit
deriving DecidableEq, Repr

structure Session where
  config : LevelConfig
  mode : Mode := .command
  preview : Option Preview := none
  /-- The path of the level on show -/
  currentPath : Option String := none
  /-- What has been typed at the command deck, last character first -/
  typed : List Char := []
  status : Option String := none
deriving DecidableEq, Repr

namespace Session

variable {Files : Type} [FileSystem Files]

def start (config : LevelConfig) : Session :=
  { config }

def input (s : Session) : String :=
  .ofList s.typed.reverse

def helpText : String :=
  "@<path> load level | :r reload | :w <path> export JSON | :q quit | ':' command deck"

def noLevelText : String :=
  "No level loaded"

/-- The mode that a session comes back to: a session that ends stays so. -/
def restingMode (s : Session) : Mode :=
  match s.mode with
  | .quit => .quit
  | _ => if s.preview.isSome then .preview else .command

/-! ## §2 Events -/

def warn (message : String) (s : Session) : Session :=
  { s with
    status := some <| match s.status with
      | some status => status ++ " | Warning: " ++ message
      | none => "Warning: " ++ message }

/-- Shows a level that has been loaded from a path. -/
def present (path : String) (level : Level) (s : Session) : Session :=
  let preview := Preview.ofLevel level
  let shown :=
    { s with
      status := some ("Loaded " ++ level.source ++ ": " ++ toString level.commands.length
        ++ " placements")
      preview := some preview
      currentPath := some path
      mode := .preview }
  preview.warnings.foldl (fun s message => s.warn message) shown

/-- Loads the level at a path. On an error the level on show stays. -/
def load (files : Files) (path : String) (s : Session) : Session :=
  match Level.load files s.config path with
  | .ok level => s.present path level
  | .error e => { s with status := some ("Error: " ++ e.message), mode := s.restingMode }

def reload (files : Files) (s : Session) : Session :=
  match s.currentPath with
  | some path => s.load files path
  | none => { s with status := some noLevelText }

section

variable [NumberPrinter]

/-- Writes the commands of the level on show to a path. -/
def exportTo (files : Files) (path : String) (s : Session) : Session × Files :=
  match s.preview with
  | none => ({ s with status := some noLevelText }, files)
  | some preview =>
    let commands := preview.level.commands
    let (outcome, files) := Export.write files path commands
    let status := match outcome with
      | .ok _ => "Exported " ++ toString commands.length ++ " commands to " ++ path
      | .error e => "Error: " ++ e.message
    ({ s with status := some status }, files)

/-- Answers an event. Only an export changes the files. -/
def handle (files : Files) (event : Event) (s : Session) : Session × Files :=
  match event with
  | .loadFile path => (s.load files path, files)
  | .reload => (s.reload files, files)
  | .exportTo path => s.exportTo files path
  | .quit => ({ s with mode := .quit }, files)
  | .help => ({ s with status := some helpText }, files)
  | .warning message => (s.warn message, files)
  | .invalidCommand input =>
    ({ s with status := some ("Unknown command: '" ++ input ++ "' (:h for help)") }, files)

end

def loadDefault (files : Files) (s : Session) : Session :=
  s.load files s.config.levelPath

/-! ## §3 Keys -/

def scroll (rows columns : Int) (s : Session) : Session :=
  { s with preview := s.preview.map (·.scrollBy rows columns) }

def press (key : Char) (s : Session) : Session :=
  match key with
  | ':' => { s with typed := [], mode := .command }
  | 'q' => { s with mode := .quit }
  | 'h' => s.scroll 0 (-1)
  | 'l' => s.scroll 0 1
  | 'k' => s.scroll (-1) 0
  | 'j' => s.scroll 1 0
  | _ => s

/-! ## §4 The command deck -/

def type (c : Char) (s : Session) : Session :=
  { s with typed := c :: s.typed }

/-- Takes the last typed character back. -/
def erase (s : Session) : Session :=
  { s with typed := s.typed.tail }

def cancel (s : Session) : Session :=
  { s with typed := [], mode := s.restingMode }

def submit [NumberPrinter] (files : Files) (s : Session) : Session × Files :=
  handle files (DeckCommand.parse s.input).event { s with typed := [], mode := s.restingMode }

end Session

end TileLevel
