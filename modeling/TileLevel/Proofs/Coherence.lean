import Mathlib
import TileLevel.FileTree
import TileLevel.Proofs.Runs

/-!
# What a Session Shows

A session keeps a level in many forms: its tokens, its commands, where it came from, its drawing and
its summary. They all belong to one text, the last one that was read successfully, and to the
configuration that the session started with. Failed loads, keys, the command deck and changes to the
files leave them alone; only how far the view is scrolled can change.

## Main definitions

- `Session.Coherent`: a session that shows the last reading

## Main statements

- `Session.Coherent.perform`, `Session.Coherent.run`: a step and a run keep sessions coherent
- `Session.session_shows_last_reading`: every form of the level on show
-/

namespace TileLevel.Session

variable {Files : Type} [FileSystem Files] {config : LevelConfig} {last : Option Reading}
  {s : Session}

/-! ## §1 Coherent sessions -/

/-- A session that shows, perhaps scrolled, the level of the last reading, if there was one. -/
structure Coherent (config : LevelConfig) (last : Option Reading) (s : Session) : Prop where
  config_eq : s.config = config
  currentPath_eq : s.currentPath = last.map (·.path)
  preview_eq :
    s.preview.map Preview.unscrolled = last.map fun reading => .ofLevel (reading.level config)

theorem coherent_start (config : LevelConfig) : Coherent config none (start config) where
  config_eq := rfl
  currentPath_eq := rfl
  preview_eq := rfl

/-- **One operation** keeps a session coherent: it shows what it reads, or else the same as before. -/
theorem Coherent.perform [NumberPrinter] (h : Coherent config last s) (files : Files)
    (operation : Operation) :
    Coherent config ((s.reading? files operation).or last) (s.perform files operation).1 := by
  cases hreading : s.reading? files operation with
  | some reading =>
    have hshows := perform_loads hreading
    constructor
    case config_eq => rw [hshows.config_eq, h.config_eq]
    case currentPath_eq => exact hshows.currentPath_eq
    case preview_eq => simp [hshows.preview_eq, h.config_eq]
  | none =>
    have hkeeps := perform_keeps hreading
    constructor
    case config_eq => rw [hkeeps.config_eq, h.config_eq]
    case currentPath_eq => exact hkeeps.currentPath_eq.trans h.currentPath_eq
    case preview_eq => exact hkeeps.preview_eq.trans h.preview_eq

/-- **Any run** keeps a session coherent. -/
theorem Coherent.run [NumberPrinter] (h : Coherent config last s) (steps : List (Step Files)) :
    Coherent config ((s.readings steps).getLast?.or last) (s.run steps) := by
  induction steps generalizing s last with
  | nil => exact h
  | cons step steps ih =>
    have hrun := ih (h.perform step.files step.operation)
    -- a later reading takes the place of the one of this step
    have hlast : (s.readings (step :: steps)).getLast?.or last
        = ((s.perform step.files step.operation).1.readings steps).getLast?.or
          ((s.reading? step.files step.operation).or last) := by
      rw [readings, List.getLast?_append, Option.or_assoc]
      cases s.reading? step.files step.operation <;> rfl
    rw [hlast]
    exact hrun

theorem coherent_run [NumberPrinter] (config : LevelConfig) (steps : List (Step Files)) :
    Coherent config ((start config).readings steps).getLast? ((start config).run steps) := by
  have hrun := (coherent_start config).run steps
  rwa [Option.or_none] at hrun

/-! ## §2 The level on show -/

theorem Coherent.isSome_preview_iff (h : Coherent config last s) :
    s.preview.isSome ↔ s.currentPath.isSome := by
  have hpreview := congrArg Option.isSome h.preview_eq
  rw [Option.isSome_map, Option.isSome_map] at hpreview
  rw [hpreview, h.currentPath_eq, Option.isSome_map]

/-- Up to scrolling, the preview is that of the last reading. -/
theorem Coherent.exists_reading (h : Coherent config last s) {preview : Preview}
    (hpreview : s.preview = some preview) :
    ∃ reading scroll, last = some reading
      ∧ preview = { Preview.ofLevel (reading.level config) with scroll } := by
  have hlast := h.preview_eq.symm
  rw [hpreview] at hlast
  obtain ⟨reading, hreading, hlevel⟩ := Option.map_eq_some_iff.mp hlast
  refine ⟨reading, preview.scroll, hreading, ?_⟩
  rw [hlevel]
  rfl

/-- The preview of a level is drawn by delivering the level's commands to a blank canvas, and keeps
    what the delivery was refused for. -/
theorem drawing_ofLevel (level : Level) :
    let delivery := Canvas.sink.instantiateAll level.commands (.forMatrix level.matrix)
    (Preview.ofLevel level).canvas = delivery.2
      ∧ ∀ refusal, (Preview.ofLevel level).sinkError = some refusal ↔ delivery.1 = .error refusal := by
  intro delivery
  refine ⟨rfl, fun refusal => ?_⟩
  simp only [Preview.ofLevel]
  split
  case h_1 count hdelivered => simp [delivery, hdelivered]
  case h_2 refused hdelivered => simp [delivery, hdelivered]

/-- **A session shows the text it read last.** After any run with any files, the configuration is the
    one at the start, the path is that of the last successful load, and there is a preview just when
    there is a path. Tokens, commands, source, summary and drawing of the preview are all those of
    the text that was read then, and an operation that reads nothing changes none of this but how far
    the preview is scrolled. -/
theorem session_shows_last_reading [NumberPrinter] (config : LevelConfig)
    (steps : List (Step Files)) :
    let s := (start config).run steps
    let last := ((start config).readings steps).getLast?
    s.config = config
      ∧ s.currentPath = last.map (·.path)
      ∧ (s.preview.isSome ↔ s.currentPath.isSome)
      ∧ (∀ preview, s.preview = some preview → ∃ reading, last = some reading
          ∧ preview.level.matrix = TokenMatrix.parse config.separators reading.text
          ∧ preview.level.commands
            = (RuleTable.standard config.spawn).map preview.level.matrix
          ∧ preview.level.source = "level:" ++ reading.path
          ∧ preview.summary = LevelSummary.describe preview.level.matrix preview.level.commands
          ∧ let delivery := Canvas.sink.instantiateAll preview.level.commands
              (.forMatrix preview.level.matrix)
            preview.canvas = delivery.2
              ∧ ∀ refusal, preview.sinkError = some refusal ↔ delivery.1 = .error refusal)
      ∧ ∀ (files : Files) operation, s.reading? files operation = none →
        s.KeepsLevel (s.perform files operation).1 := by
  intro s last
  have hcoherent : Coherent config last s := coherent_run config steps
  refine ⟨hcoherent.config_eq, hcoherent.currentPath_eq, hcoherent.isSome_preview_iff, ?level,
    fun _ _ => perform_keeps⟩
  case level =>
    intro preview hpreview
    obtain ⟨reading, scroll, hlast, rfl⟩ := hcoherent.exists_reading hpreview
    exact ⟨reading, hlast, rfl, rfl, rfl, rfl, drawing_ofLevel (reading.level config)⟩

/-- A file that is read, written anew and read again, a file that is not there, and a scroll. -/
theorem session_shows_last_reading_rewritten :
    let old : FileTree := { entries := [(["a"], .file "* O".toUTF8)] }
    let new : FileTree := { entries := [(["a"], .file "O\r\n* █".toUTF8)] }
    let steps : List (Step FileTree) :=
      [⟨old, .handle (.loadFile "a")⟩, ⟨new, .handle (.loadFile "./a")⟩,
        ⟨old, .handle (.loadFile "b")⟩, ⟨{}, .press 'j'⟩]
    let s := (start {}).run steps
    s.currentPath = some "./a"
      ∧ (∃ preview, s.preview = some preview
        ∧ preview.level.matrix = { rows := #[#["O"], #["*", "█"]] }
        ∧ preview.level.source = "level:./a")
      ∧ s.KeepsLevel (s.perform new .erase).1 := by
  intro old new steps s
  obtain ⟨-, hpath, hshown, hlevel, hkeeps⟩ := session_shows_last_reading {} steps
  have hlast : ((start {}).readings steps).getLast? = some ⟨"./a", "O\r\n* █"⟩ := by
    decide +kernel
  rw [hlast] at hpath hlevel
  refine ⟨hpath, ?_, hkeeps new .erase rfl⟩
  obtain ⟨preview, hpreview⟩ := Option.isSome_iff_exists.mp (hshown.mpr (by rw [hpath]; rfl))
  obtain ⟨reading, hreading, hmatrix, -, hsource, -⟩ := hlevel preview hpreview
  cases hreading
  exact ⟨preview, hpreview, hmatrix.trans (by decide), hsource.trans (by decide)⟩

end TileLevel.Session
