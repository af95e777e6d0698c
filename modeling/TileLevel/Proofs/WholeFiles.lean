import Mathlib
import TileLevel.FileTree
import TileLevel.Level
import TileLevel.Proofs.RoundTrip

/-!
# Levels Hold Whole Files

A file is loaded as a whole or not at all. If its bytes are the UTF-8 form of a text, the level
holds all of them: its tokens and their separators, written out and encoded again, are the bytes of
the file, whatever stands at the beginning and between the lines. If they are not, or if there is no
file to read, there is no level, and the error says which of the two it was.

## Main definitions

- `Level.Holds`: the level of a text

## Main statements

- `fromUTF8?_eq_some_iff`, `fromUTF8?_eq_none_iff`: what is decoded
- `Level.readText_eq_ok_iff`, `Level.readText_eq_error_iff`: what is read
- `Level.load_is_all_or_nothing`: what is loaded
-/

namespace TileLevel

/-! ## §1 Decoding -/

theorem fromUTF8?_eq_some_iff {bytes : ByteArray} {text : String} :
    String.fromUTF8? bytes = some text ↔ bytes = text.toUTF8 := by
  unfold String.fromUTF8?
  constructor
  · intro h
    split at h
    case isTrue hvalid =>
      cases h
      rfl
    case isFalse => cases h
  · rintro rfl
    rw [String.toUTF8_eq_toByteArray, dif_pos text.isValidUTF8]
    rfl

theorem fromUTF8?_eq_none_iff {bytes : ByteArray} :
    String.fromUTF8? bytes = none ↔ ¬ bytes.IsValidUTF8 := by
  unfold String.fromUTF8?
  split <;> simp_all

namespace Level

variable {Files : Type} [FileSystem Files] {files : Files} {path : String}

/-! ## §2 Reading -/

/-- **What is read** is the text whose UTF-8 form is in the file. -/
theorem readText_eq_ok_iff {text : String} :
    readText files path = .ok text ↔ FileSystem.read files path = .ok text.toUTF8 := by
  unfold readText
  cases FileSystem.read files path with
  | error cause => simp
  | ok bytes =>
    rw [Except.ok.injEq, ← fromUTF8?_eq_some_iff]
    dsimp only
    cases String.fromUTF8? bytes <;> simp

theorem readText_eq_error_iff {error : LoadError} :
    readText files path = .error error ↔
      (∃ cause, FileSystem.read files path = .error cause ∧ error = .unavailable path cause)
        ∨ ∃ bytes, FileSystem.read files path = .ok bytes ∧ ¬ bytes.IsValidUTF8
          ∧ error = .invalidEncoding path := by
  unfold readText
  cases FileSystem.read files path with
  | error cause => simp [eq_comm]
  | ok bytes =>
    dsimp only
    cases hdecoded : String.fromUTF8? bytes with
    | none =>
      have hinvalid := fromUTF8?_eq_none_iff.mp hdecoded
      simp [hinvalid, eq_comm]
    | some text =>
      have hvalid : bytes.IsValidUTF8 := by
        rw [fromUTF8?_eq_some_iff.mp hdecoded]
        exact text.isValidUTF8
      simp [hvalid]

/-! ## §3 Loading -/

/-- A level that holds a text: all of it is in the tokens and their separators, and the commands are
    those that a table has for the tokens. -/
structure Holds (level : Level) (separators : Separators) (table : RuleTable) (path text : String) :
    Prop where
  matrix : level.matrix = .parse separators text
  toText : level.matrix.toText separators = text
  commands : level.commands = table.map level.matrix
  source : level.source = "level:" ++ path

theorem holds_iff {level : Level} {separators : Separators} {table : RuleTable} {text : String} :
    level.Holds separators table path text ↔
      level = ofText separators table ("level:" ++ path) text := by
  constructor
  · rintro ⟨hmatrix, -, hcommands, hsource⟩
    rw [hmatrix] at hcommands
    cases level
    exact (Level.mk.injEq ..).mpr ⟨hmatrix, hcommands, hsource⟩
  · rintro rfl
    exact ⟨rfl, TokenMatrix.toText_parse separators text, rfl, rfl⟩

variable {config : LevelConfig} {table : RuleTable}

theorem loadWith_eq_ok_iff {level : Level} :
    loadWith files config table path = .ok level ↔
      ∃ text : String, FileSystem.read files path = .ok text.toUTF8
        ∧ level.Holds config.separators table path text := by
  simp only [← readText_eq_ok_iff, holds_iff]
  unfold loadWith
  cases readText files path <;> simp [eq_comm]

/-- A file that holds a text is loaded. -/
theorem loadWith_of_read {text : String} (h : FileSystem.read files path = .ok text.toUTF8)
    (config : LevelConfig) (table : RuleTable) :
    loadWith files config table path
      = .ok (ofText config.separators table ("level:" ++ path) text) :=
  loadWith_eq_ok_iff.mpr ⟨text, h, holds_iff.mpr rfl⟩

theorem loadWith_eq_error_iff {error : LoadError} :
    loadWith files config table path = .error error ↔ readText files path = .error error := by
  unfold loadWith
  cases readText files path <;> simp

/-- **Loading is all or nothing, and loses nothing.** There is a level just when there is a file and
    its bytes are UTF-8, and then it holds the text whose form they are, to the last byte. Without a
    file, or with other bytes, there is an error that says so and names the path. By default a level
    has the commands that the default rules have for the tokens of its text. -/
theorem load_is_all_or_nothing (files : Files) (config : LevelConfig) (table : RuleTable)
    (path : String) :
    ((∃ level, loadWith files config table path = .ok level) ↔
        ∃ bytes, FileSystem.read files path = .ok bytes ∧ bytes.IsValidUTF8)
      ∧ (∀ level, loadWith files config table path = .ok level ↔
          ∃ text : String, FileSystem.read files path = .ok text.toUTF8
            ∧ level.Holds config.separators table path text)
      ∧ (∀ error, loadWith files config table path = .error error ↔
          (∃ cause, FileSystem.read files path = .error cause ∧ error = .unavailable path cause)
            ∨ ∃ bytes, FileSystem.read files path = .ok bytes ∧ ¬ bytes.IsValidUTF8
              ∧ error = .invalidEncoding path)
      ∧ ∀ text : String, FileSystem.read files path = .ok text.toUTF8 →
          load files {} path = loadWith files {} default path
            ∧ (load files {} path).map Level.commands
                = .ok ((default : RuleTable).map (.parse {} text)) := by
  refine ⟨?loaded, fun level => loadWith_eq_ok_iff, fun error => ?failed, ?standard⟩
  case loaded =>
    constructor
    · rintro ⟨level, hlevel⟩
      obtain ⟨text, hread, -⟩ := loadWith_eq_ok_iff.mp hlevel
      exact ⟨text.toUTF8, hread, text.isValidUTF8⟩
    · rintro ⟨bytes, hread, hvalid⟩
      -- bytes that are UTF-8 are decoded, and only to the text whose form they are
      obtain ⟨text, htext⟩ : ∃ text, String.fromUTF8? bytes = some text := by
        rw [← Option.ne_none_iff_exists']
        exact fun hnone => fromUTF8?_eq_none_iff.mp hnone hvalid
      rw [fromUTF8?_eq_some_iff.mp htext] at hread
      exact ⟨_, loadWith_of_read hread config table⟩
  case failed => rw [loadWith_eq_error_iff, readText_eq_error_iff]
  case standard =>
    intro text hread
    -- the start that a configuration has by default is the one of the default rules
    have hload : load files {} path = loadWith files {} default path := rfl
    refine ⟨hload, ?_⟩
    rw [hload, loadWith_of_read hread]
    rfl

/-- A file with a byte order mark and a lone line feed, and one with bytes that are no text. -/
theorem load_is_all_or_nothing_marked :
    let text := "\uFEFF* O\nO\r\n█"
    let files : FileTree :=
      { entries := [(["a"], .file text.toUTF8), (["b"], .file ⟨#[79, 32, 255, 254]⟩)] }
    FileSystem.read files "a" = .ok text.toUTF8
      ∧ (load files {} "a").map Level.commands = .ok ((default : RuleTable).map (.parse {} text))
      ∧ (∀ level, loadWith files {} default "a" = .ok level →
          (level.matrix.toText {}).toUTF8 = text.toUTF8
            ∧ level.matrix = { rows := #[#["\uFEFF*", "O\nO"], #["█"]] })
      ∧ loadWith files {} default "b" = .error (.invalidEncoding "b") := by
  intro text files
  have hread : FileSystem.read files "a" = .ok text.toUTF8 := by decide +kernel
  obtain ⟨-, hlevel, -, hstandard⟩ := load_is_all_or_nothing files {} default "a"
  obtain ⟨-, -, herror, -⟩ := load_is_all_or_nothing files {} default "b"
  refine ⟨hread, (hstandard text hread).2, ?level, (herror _).mpr (.inr ?error)⟩
  case level =>
    intro level hloaded
    obtain ⟨text', hread', hholds⟩ := (hlevel level).mp hloaded
    obtain rfl : text = text' := by
      rw [hread, Except.ok.injEq] at hread'
      exact String.toByteArray_inj.mp hread'
    rw [hholds.toText, hholds.matrix]
    exact ⟨rfl, by decide +kernel⟩
  case error => exact ⟨⟨#[79, 32, 255, 254]⟩, by decide +kernel⟩

end Level

end TileLevel
