import Mathlib
import TileLevel.Session

/-!
# Runs of a Session

A session is used through a handful of operations, and nothing is known about their order or about
the files, which may be others at every step. All that an operation can do to the level on show is
to load one, if it asks for a file that can be read, or to scroll.

## Main definitions

- `Operation`, `Session.perform`: what can be done to a session
- `Step`, `Session.run`: operations one after the other, each with the files it finds
- `Session.reading?`, `Session.readings`: the level texts that are read

## Main statements

- `Session.handle_of_reading`, `Session.handle_of_no_reading`: what an event can do
- `Session.perform_loads`, `Session.perform_keeps`: what an operation can do to the level on show
- `Session.mode_perform`: the mode that an operation leaves when it loads nothing
-/

namespace TileLevel

/-! ## §1 Operations -/

/-- What can be done to a session. -/
inductive Operation where
  | handle (event : Event)
  | press (key : Char)
  | scroll (rows columns : Int)
  /-- One character at the command deck -/
  | type (c : Char)
  | erase
  | cancel
  | submit
  | loadDefault
deriving DecidableEq, Repr

/-- An operation and the files that it finds. -/
structure Step (Files : Type) where
  files : Files
  operation : Operation
deriving DecidableEq

/-- A level text and the path it was read from. -/
structure Reading where
  path : String
  text : String
deriving DecidableEq, Repr

namespace Reading

variable {Files : Type} [FileSystem Files]

/-- What is read from a path, if it can be read. -/
def from? (files : Files) (path : String) : Option Reading :=
  match Level.readText files path with
  | .ok text => some { path, text }
  | .error _ => none

/-- The level of a text, mapped with the rules of the puzzle. -/
def level (config : LevelConfig) (reading : Reading) : Level :=
  .ofText config.separators (.standard config.spawn) ("level:" ++ reading.path) reading.text

variable {files : Files} {path : String} {reading : Reading}

theorem path_of_from? (h : from? files path = some reading) : reading.path = path := by
  unfold from? at h
  split at h
  case h_1 =>
    cases h
    rfl
  case h_2 => cases h

/-- What can be read is loaded. -/
theorem load_eq_ok (h : from? files path = some reading) (config : LevelConfig) :
    Level.load files config path = .ok (reading.level config) := by
  unfold from? at h
  split at h
  case h_1 text htext =>
    cases h
    simp only [Level.load, Level.loadWith, htext]
    rfl
  case h_2 => cases h

/-- What cannot be read is not loaded. -/
theorem load_eq_error (h : from? files path = none) (config : LevelConfig) :
    ∃ error, Level.load files config path = .error error := by
  unfold from? at h
  split at h
  case h_1 => cases h
  case h_2 error herror => exact ⟨error, by simp only [Level.load, Level.loadWith, herror]⟩

end Reading

namespace Session

variable {Files : Type} [FileSystem Files]

section

variable [NumberPrinter]

/-- The session and the files after an operation. -/
def perform (files : Files) (operation : Operation) (s : Session) : Session × Files :=
  match operation with
  | .handle event => s.handle files event
  | .press key => (s.press key, files)
  | .scroll rows columns => (s.scroll rows columns, files)
  | .type c => (s.type c, files)
  | .erase => (s.erase, files)
  | .cancel => (s.cancel, files)
  | .submit => s.submit files
  | .loadDefault => (s.loadDefault files, files)

/-- The session after some steps. What a step does to its files need not reach the next one. -/
def run (s : Session) : List (Step Files) → Session
  | [] => s
  | step :: steps => (s.perform step.files step.operation).1.run steps

end

/-! ### What is read -/

/-- The event that an operation raises, if it raises one. -/
def event? (s : Session) : Operation → Option Event
  | .handle event => some event
  | .submit => some (DeckCommand.parse s.input).event
  | .loadDefault => some (.loadFile s.config.levelPath)
  | _ => none

/-- The path that an event asks to load a level from. -/
def pathOf? (s : Session) : Event → Option String
  | .loadFile path => some path
  | .reload => s.currentPath
  | _ => none

/-- What an event reads when it loads a level successfully. -/
def eventReading? (s : Session) (files : Files) (event : Event) : Option Reading :=
  (s.pathOf? event).bind (Reading.from? files)

/-- What an operation reads when it loads a level successfully. -/
def reading? (s : Session) (files : Files) (operation : Operation) : Option Reading :=
  (s.event? operation).bind (s.eventReading? files)

/-- The successful loads of a run, the last one at the end. -/
def readings [NumberPrinter] (s : Session) : List (Step Files) → List Reading
  | [] => []
  | step :: steps =>
    (s.reading? step.files step.operation).toList
      ++ (s.perform step.files step.operation).1.readings steps

variable {s : Session} {files : Files}

/-! ## §2 Loads -/

/-- What the status says of a level on show: where it came from and how many commands it has, and
    then each warning. -/
def announcement (preview : Preview) : String :=
  preview.warnings.foldl (fun status message => status ++ " | Warning: " ++ message)
    ("Loaded " ++ preview.level.source ++ ": " ++ toString preview.level.commands.length
      ++ " placements")

/-- Warnings are added to the status and to nothing else. -/
theorem foldl_warn_eq (messages : List String) {status : String} (h : s.status = some status) :
    messages.foldl (fun s message => s.warn message) s =
      { s with
        status := some (messages.foldl (fun status message => status ++ " | Warning: " ++ message)
          status) } := by
  induction messages generalizing s status with
  | nil => rw [List.foldl_nil, List.foldl_nil, ← h]
  | cons message messages ih =>
    have hwarned : (s.warn message).status = some (status ++ " | Warning: " ++ message) := by
      simp only [warn, h]
    rw [List.foldl_cons, List.foldl_cons, ih hwarned]
    rfl

/-- **Showing a level** sets all that there is to know of it, and the status says nothing else. -/
theorem present_eq (path : String) (level : Level) (s : Session) :
    s.present path level =
      { s with
        status := some (announcement (.ofLevel level)), preview := some (.ofLevel level)
        currentPath := some path, mode := .preview } :=
  foldl_warn_eq (Preview.ofLevel level).warnings rfl

theorem load_of_ok {path : String} {level : Level}
    (h : Level.load files s.config path = .ok level) :
    s.load files path = s.present path level := by
  simp only [load, h]

theorem load_of_error {path : String} {error : LoadError}
    (h : Level.load files s.config path = .error error) :
    s.load files path =
      { s with status := some ("Error: " ++ error.message), mode := s.restingMode } := by
  simp only [load, h]

theorem reload_of_path {path : String} (hpath : s.currentPath = some path) :
    s.reload files = s.load files path := by
  simp only [reload, hpath]

theorem reload_of_no_path (hpath : s.currentPath = none) :
    s.reload files = { s with status := some noLevelText } := by
  simp only [reload, hpath]

theorem load_of_reading {path : String} {reading : Reading}
    (h : Reading.from? files path = some reading) :
    s.load files path = s.present reading.path (reading.level s.config) := by
  rw [Reading.path_of_from? h]
  exact load_of_ok (Reading.load_eq_ok h s.config)

theorem load_of_no_reading {path : String} (h : Reading.from? files path = none) :
    ∃ status, s.load files path = { s with status, mode := s.restingMode } := by
  obtain ⟨error, hload⟩ := Reading.load_eq_error h s.config
  exact ⟨_, load_of_error hload⟩

/-! ## §3 Events -/

variable [NumberPrinter]

/-- The mode after an event that loads nothing: an attempt to load leaves the mode that the session
    comes back to. -/
def modeAfterEvent (s : Session) (event : Event) : Mode :=
  if event = .quit then .quit
  else if (s.pathOf? event).isSome then s.restingMode
  else s.mode

/-- An event that asks for no path changes the status and, if it ends the session, the mode. -/
theorem handle_of_no_path {event : Event} (h : s.pathOf? event = none) :
    ∃ status, (s.handle files event).1 = { s with status, mode := s.modeAfterEvent event } := by
  unfold modeAfterEvent
  rw [h]
  cases event with
  | loadFile path => cases h
  | reload =>
    exact ⟨_, reload_of_no_path h⟩
  | exportTo path =>
    unfold handle exportTo
    cases s.preview <;> exact ⟨_, rfl⟩
  | quit => exact ⟨_, rfl⟩
  | help => exact ⟨_, rfl⟩
  | warning message => exact ⟨_, rfl⟩
  | invalidCommand input => exact ⟨_, rfl⟩

/-- An event that asks for a path is a load of that path. -/
theorem handle_of_path {event : Event} {path : String} (h : s.pathOf? event = some path) :
    (s.handle files event).1 = s.load files path := by
  cases event with
  | loadFile path' =>
    cases h
    rfl
  | reload => exact reload_of_path h
  | _ => cases h

/-- **An event that reads a level shows it**, whatever was on show. -/
theorem handle_of_reading {event : Event} {reading : Reading}
    (h : s.eventReading? files event = some reading) :
    ∃ status, (s.handle files event).1 =
      { s with status, preview := some (.ofLevel (reading.level s.config)),
               currentPath := some reading.path, mode := .preview } := by
  obtain ⟨path, hpath, hreading⟩ := Option.bind_eq_some_iff.mp h
  rw [handle_of_path hpath, load_of_reading hreading]
  exact ⟨_, present_eq reading.path (reading.level s.config) s⟩

/-- **An event that reads no level** changes the status and the mode and nothing else. -/
theorem handle_of_no_reading {event : Event} (h : s.eventReading? files event = none) :
    ∃ status, (s.handle files event).1 = { s with status, mode := s.modeAfterEvent event } := by
  cases hpath : s.pathOf? event with
  | none => exact handle_of_no_path hpath
  | some path =>
    have hnone : Reading.from? files path = none := by
      rwa [eventReading?, hpath, Option.bind_some] at h
    have hquit : event ≠ .quit := by
      rintro rfl
      cases hpath
    obtain ⟨status, hload⟩ := load_of_no_reading (s := s) hnone
    refine ⟨status, ?_⟩
    rw [handle_of_path hpath, hload, modeAfterEvent, if_neg hquit, hpath]
    rfl

end Session

/-! ## §4 Operations and the level on show -/

/-- A preview as it was before it was scrolled. -/
def Preview.unscrolled (preview : Preview) : Preview :=
  { preview with scroll := (0, 0) }

@[simp]
theorem Preview.unscrolled_scrollBy (rows columns : Int) (preview : Preview) :
    (preview.scrollBy rows columns).unscrolled = preview.unscrolled := rfl

@[simp]
theorem Preview.unscrolled_ofLevel (level : Level) :
    (Preview.ofLevel level).unscrolled = Preview.ofLevel level := rfl

namespace Session

variable {Files : Type} [FileSystem Files] {s : Session} {files : Files} {operation : Operation}

/-- The level on show is as before, but perhaps scrolled. -/
structure KeepsLevel (s after : Session) : Prop where
  config_eq : after.config = s.config
  currentPath_eq : after.currentPath = s.currentPath
  preview_eq : after.preview.map Preview.unscrolled = s.preview.map Preview.unscrolled

/-- The level that was read is on show, unscrolled. -/
structure ShowsLevel (reading : Reading) (s after : Session) : Prop where
  config_eq : after.config = s.config
  mode_eq : after.mode = .preview
  currentPath_eq : after.currentPath = some reading.path
  preview_eq : after.preview = some (.ofLevel (reading.level s.config))

theorem keepsLevel_scroll (rows columns : Int) (s : Session) :
    s.KeepsLevel (s.scroll rows columns) where
  config_eq := rfl
  currentPath_eq := rfl
  preview_eq := by simp [scroll, Function.comp_def]

theorem keepsLevel_press (key : Char) (s : Session) : s.KeepsLevel (s.press key) := by
  unfold press
  split
  case h_3 | h_4 | h_5 | h_6 => exact keepsLevel_scroll ..
  all_goals exact ⟨rfl, rfl, rfl⟩

/-- The session in which the event of an operation is answered: a command that is submitted leaves
    the command deck first. -/
def atEvent (s : Session) : Operation → Session
  | .submit => { s with typed := [], mode := s.restingMode }
  | _ => s

theorem keepsLevel_atEvent (operation : Operation) (s : Session) :
    s.KeepsLevel (s.atEvent operation) := by
  cases operation <;> exact ⟨rfl, rfl, rfl⟩

/-- Leaving the command deck does not change what an event reads. -/
theorem eventReading?_atEvent (operation : Operation) (s : Session) (files : Files)
    (event : Event) :
    (s.atEvent operation).eventReading? files event = s.eventReading? files event := by
  cases operation <;> cases event <;> rfl

section

variable [NumberPrinter]

theorem perform_of_event {event : Event} (h : s.event? operation = some event) :
    (s.perform files operation).1 = ((s.atEvent operation).handle files event).1 := by
  cases operation <;> cases h <;> rfl

/-- **An operation that reads a level shows it**, whatever was on show. -/
theorem perform_loads {reading : Reading} (h : s.reading? files operation = some reading) :
    s.ShowsLevel reading (s.perform files operation).1 := by
  obtain ⟨event, hevent, hreading⟩ := Option.bind_eq_some_iff.mp h
  rw [← eventReading?_atEvent operation s files event] at hreading
  obtain ⟨status, hafter⟩ := handle_of_reading hreading
  have hconfig := (keepsLevel_atEvent operation s).config_eq
  rw [perform_of_event hevent, hafter]
  refine ⟨hconfig, rfl, rfl, ?_⟩
  rw [hconfig]

/-- An operation that raises no event at most scrolls. -/
theorem perform_of_no_event (h : s.event? operation = none) :
    s.KeepsLevel (s.perform files operation).1 := by
  cases operation with
  | press key => exact keepsLevel_press key s
  | scroll rows columns => exact keepsLevel_scroll rows columns s
  | type c => exact ⟨rfl, rfl, rfl⟩
  | erase => exact ⟨rfl, rfl, rfl⟩
  | cancel => exact ⟨rfl, rfl, rfl⟩
  | _ => cases h

/-- The session after an operation whose event reads no level. -/
theorem exists_perform_eq {event : Event} (hevent : s.event? operation = some event)
    (h : s.reading? files operation = none) :
    ∃ status, (s.perform files operation).1 =
      { s.atEvent operation with
        status, mode := (s.atEvent operation).modeAfterEvent event } := by
  have hnone : (s.atEvent operation).eventReading? files event = none := by
    rwa [eventReading?_atEvent, ← Option.bind_some event (s.eventReading? files), ← hevent]
  rw [perform_of_event hevent]
  exact handle_of_no_reading hnone

/-- **An operation that reads no level keeps the one on show**, but may scroll it. -/
theorem perform_keeps (h : s.reading? files operation = none) :
    s.KeepsLevel (s.perform files operation).1 := by
  cases hevent : s.event? operation with
  | none => exact perform_of_no_event hevent
  | some event =>
    obtain ⟨status, hafter⟩ := exists_perform_eq hevent h
    rw [hafter]
    have hkeeps := keepsLevel_atEvent operation s
    exact ⟨hkeeps.config_eq, hkeeps.currentPath_eq, hkeeps.preview_eq⟩

end

/-! ## §5 Operations and the mode -/

/-- The mode after an operation that loads nothing. -/
def modeAfter (s : Session) : Operation → Mode
  | .handle event => s.modeAfterEvent event
  | .press key => if key = ':' then .command else if key = 'q' then .quit else s.mode
  | .cancel => s.restingMode
  | .submit => if DeckCommand.parse s.input = .quit then .quit else s.restingMode
  | .loadDefault => s.restingMode
  | .scroll .. | .type _ | .erase => s.mode

theorem mode_press (key : Char) (s : Session) :
    (s.press key).mode = if key = ':' then .command else if key = 'q' then .quit else s.mode := by
  unfold press
  split
  case h_7 hcolon hquit _ _ _ _ => rw [if_neg hcolon, if_neg hquit]
  all_goals rfl

theorem event_eq_quit_iff (command : DeckCommand) : command.event = .quit ↔ command = .quit := by
  cases command <;> simp [DeckCommand.event]

/-- A session that has come back to a mode comes back to it again. -/
theorem restingMode_atEvent (operation : Operation) (s : Session) :
    (s.atEvent operation).restingMode = s.restingMode := by
  unfold atEvent
  split
  · unfold restingMode
    cases s.mode <;> cases s.preview <;> rfl
  · rfl

/-- **The mode after an operation that reads no level.** -/
theorem mode_perform [NumberPrinter] (h : s.reading? files operation = none) :
    (s.perform files operation).1.mode = s.modeAfter operation := by
  cases operation with
  | handle event =>
    obtain ⟨status, hafter⟩ := exists_perform_eq rfl h
    rw [hafter]
    rfl
  | submit =>
    have hevent : s.event? .submit = some (DeckCommand.parse s.input).event := rfl
    obtain ⟨status, hafter⟩ := exists_perform_eq hevent h
    rw [hafter]
    -- whether the command attempts to load or not, the mode is the one that was come back to
    have hmode : (s.atEvent .submit).mode = s.restingMode := rfl
    simp only [modeAfterEvent, restingMode_atEvent, hmode, ite_self]
    exact if_congr (event_eq_quit_iff _) rfl rfl
  | loadDefault =>
    obtain ⟨status, hafter⟩ := exists_perform_eq rfl h
    rw [hafter]
    rfl
  | press key => exact mode_press key s
  | _ => rfl

end Session

end TileLevel
