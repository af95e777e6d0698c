import Mathlib
import TileLevel.Proofs.Coherence
import TileLevel.Proofs.Exported
import TileLevel.Proofs.Loads
import TileLevel.Proofs.Reading
import TileLevel.Proofs.Typing
import TileLevel.Proofs.WrittenFiles

/-!
# Exports Write What Is on Show

An export writes the commands of the level on show, as they were when its text was read: it reads no
file, so it does not matter what has become of the level's own file since, and even that file may be
written over. Of the session an export changes the status and nothing else, and of the files no more
than writing one file at the path does.

## Main statements

- `Session.exportTo_of_level`, `Session.exportTo_of_no_level`: what an export does
- `Session.perform_submit_of_export`: the command that exports
- `Session.export_writes_what_is_on_show`: exports in every session that a run leads to
-/

namespace TileLevel.Session

variable {Files : Type} [FileSystem Files] {s : Session} {files : Files} {path : String}

/-! ## §1 An export -/

section

variable {commands : List Command}

/-- Without a text nothing is written. -/
theorem write_of_no_text [NumberPrinter] {failure : ExportError}
    (h : Export.toJson commands = .error failure) (files : Files) (path : String) :
    Export.write files path commands = (.error failure, files) := by
  simp only [Export.write, h]

/-- A text is written as one file, and what the system says of it is told with the path. -/
theorem write_of_text [NumberPrinter] {json : String} (h : Export.toJson commands = .ok json)
    (files : Files) (path : String) :
    Export.write files path commands =
      ((FileSystem.write files path json.toUTF8).1.mapError (.write path),
        (FileSystem.write files path json.toUTF8).2) := by
  simp only [Export.write, h]
  cases FileSystem.write files path json.toUTF8 with
  | mk outcome after => cases outcome <;> rfl

end

theorem exportTo_of_no_level [NumberPrinter] (h : s.preview = none) (files : Files) (path : String) :
    s.exportTo files path = ({ s with status := some noLevelText }, files) := by
  simp only [exportTo, h]

/-- What the status says of an export. -/
def exportText (path : String) (commands : List Command) : Except ExportError Unit → String
  | .ok _ => "Exported " ++ toString commands.length ++ " commands to " ++ path
  | .error failure => "Error: " ++ failure.message

/-- **An export of a level** writes its commands and tells how many they are, or why they cannot be
    written. -/
theorem exportTo_of_level [NumberPrinter] {preview : Preview} (h : s.preview = some preview)
    (files : Files) (path : String) :
    s.exportTo files path =
      let (outcome, after) := Export.write files path preview.level.commands
      ({ s with status := some (exportText path preview.level.commands outcome) }, after) := by
  simp only [exportTo, h]
  cases Export.write files path preview.level.commands with
  | mk outcome after => cases outcome <;> rfl

/-- The text of an export that the system refused. -/
theorem errorText_eq (path : String) (cause : FileError) :
    "Error: " ++ (ExportError.write path cause).message
      = "Error: Cannot write " ++ path ++ ": " ++ cause.message := by
  have hmessage : (ExportError.write path cause).message
      = "Cannot write " ++ path ++ ": " ++ cause.message := rfl
  have hprefix : "Error: " ++ "Cannot write " = "Error: Cannot write " := by decide
  rw [hmessage, ← hprefix]
  simp only [String.append_assoc]

/-- An export changes the status and nothing else of the session. -/
theorem exists_exportTo_fst_eq [NumberPrinter] (s : Session) (files : Files) (path : String) :
    ∃ status, (s.exportTo files path).1 = { s with status := some status } := by
  rcases Option.eq_none_or_eq_some s.preview with hnone | ⟨preview, hpreview⟩
  · rw [exportTo_of_no_level hnone]
    exact ⟨_, rfl⟩
  · rw [exportTo_of_level hpreview]
    exact ⟨_, rfl⟩

/-- **The command that exports** leaves the command deck and does what the event does. -/
theorem perform_submit_of_export [NumberPrinter] (h : DeckCommand.parse s.input = .exportTo path)
    (files : Files) :
    s.perform files .submit =
      ({ (s.exportTo files path).1 with typed := [], mode := s.restingMode },
        (s.exportTo files path).2) := by
  have hcommand : s.perform files .submit = (s.atEvent .submit).exportTo files path := by
    rw [submit_eq, h]
    rfl
  -- an export asks for the preview only, and leaving the command deck keeps that
  have hkept : (s.atEvent .submit).preview = s.preview := rfl
  rw [hcommand]
  rcases Option.eq_none_or_eq_some s.preview with hnone | ⟨preview, hpreview⟩
  · rw [exportTo_of_no_level hnone, exportTo_of_no_level (hkept.trans hnone)]
    rfl
  · rw [exportTo_of_level hpreview, exportTo_of_level (hkept.trans hpreview)]
    rfl

/-! ## §2 Exports in a run -/

/-- **An export writes what is on show** and touches nothing else. In every session that a run leads
    to, with whatever files, an export to a path changes the status and nothing else; as a command
    it is taken from the command deck besides, and the session comes back to its resting mode.
    Without a level it writes no file and tells so. With a level, the commands are those of the text
    that was read last, whatever was done to the session or its files since. If they have no text,
    no file is written and the status is the error. If they have one, all that is done to the files is
    to write it to the path. Where that succeeds, it is what the file at the path holds, and the
    status tells how many commands they are; else the status is the error. -/
theorem export_writes_what_is_on_show [NumberPrinter] [LawfulFileSystem Files] (config : LevelConfig)
    (steps : List (Step Files)) (files : Files) (path : String) :
    let s := (start config).run steps
    let last := ((start config).readings steps).getLast?
    let direct := s.perform files (.handle (.exportTo path))
    (∃ status, direct.1 = { s with status := some status })
      ∧ (DeckCommand.parse s.input = .exportTo path →
        s.perform files .submit =
          ({ direct.1 with typed := [], mode := s.restingMode }, direct.2))
      ∧ (path ≠ "" → Text.IsTrimmed path.toList → s.input = ":w " ++ path →
        DeckCommand.parse s.input = .exportTo path)
      ∧ (s.preview = none →
        last = none ∧ direct = ({ s with status := some "No level loaded" }, files))
      ∧ ∀ preview, s.preview = some preview → ∃ reading, last = some reading ∧
        let commands := (RuleTable.standard config.spawn).map
          (TokenMatrix.parse config.separators reading.text)
        preview.level.commands = commands ∧
          match Export.toJson commands with
          | .error failure =>
            direct.1.status = some ("Error: " ++ failure.message) ∧ direct.2 = files
              ∧ ∃ cause, failure.message = "Serialization failed: " ++ cause
          | .ok json =>
            direct.2 = (FileSystem.write files path json.toUTF8).2 ∧
              match (FileSystem.write files path json.toUTF8).1 with
              | .ok _ =>
                FileSystem.read direct.2 path = .ok json.toUTF8
                  ∧ direct.1.status
                    = some ("Exported " ++ toString commands.length ++ " commands to " ++ path)
              | .error cause =>
                direct.1.status
                  = some ("Error: Cannot write " ++ path ++ ": " ++ cause.message) := by
  intro s last direct
  have hcoherent : Coherent config last s := coherent_run config steps
  refine ⟨exists_exportTo_fst_eq s files path, fun hread => perform_submit_of_export hread files,
    ?typed, ?none, ?level⟩
  case typed =>
    intro hne htrimmed hinput
    rw [hinput]
    exact (DeckCommand.parse_write hne htrimmed).1
  case none =>
    intro hpreview
    -- without a preview there was no reading
    have hlast := hcoherent.preview_eq
    rw [hpreview] at hlast
    exact ⟨Option.map_eq_none_iff.mp hlast.symm, exportTo_of_no_level hpreview files path⟩
  case level =>
    intro preview hpreview
    obtain ⟨reading, scroll, hlast, rfl⟩ := hcoherent.exists_reading hpreview
    refine ⟨reading, hlast, rfl, ?_⟩
    have hdirect : direct = _ := exportTo_of_level hpreview files path
    have hcommands : (Preview.ofLevel (reading.level config)).level.commands
        = (reading.level config).commands := rfl
    cases hjson : Export.toJson ((RuleTable.standard config.spawn).map
        (TokenMatrix.parse config.separators reading.text)) with
    | error failure =>
      have hnone : Export.write files path (reading.level config).commands
          = (.error failure, files) := write_of_no_text hjson files path
      obtain ⟨cause, rfl⟩ := Export.exists_cause_of_toJson_eq_error hjson
      rw [hdirect, hcommands, hnone]
      exact ⟨rfl, rfl, cause, rfl⟩
    | ok json =>
      have hwritten : Export.write files path (reading.level config).commands = _ :=
        write_of_text hjson files path
      rw [hdirect, hcommands, hwritten]
      refine ⟨rfl, ?_⟩
      cases hanswer : FileSystem.write files path json.toUTF8 with
      | mk outcome after =>
        cases outcome with
        | ok _ => exact ⟨LawfulFileSystem.read_write hanswer, rfl⟩
        | error cause => exact congrArg some (errorText_eq path cause)

/-- A level that is scrolled, whose file is written anew and then cannot be read again. A command
    exports it over its own file, by way of the root; another export runs out of room. -/
theorem export_writes_what_is_on_show_over_its_file :
    let old : FileTree :=
      { entries := [(["l"], .directory), (["l", "a"], .file "* O".toUTF8)]
        workingDirectory := ["l"] }
    let new : FileTree := { old with
      entries := [(["l"], .directory), (["l", "a"], .file "O █ O".toUTF8)], room := some 300 }
    let steps : List (Step FileTree) :=
      [⟨old, .handle (.loadFile "a")⟩, ⟨new, .press 'l'⟩, ⟨{}, .handle (.loadFile "a")⟩,
        ⟨new, .press ':'⟩] ++ ":w ../l/a".toList.map fun c => ⟨new, .type c⟩
    let s := (start {}).run steps
    let after := s.perform new .submit
    let short : FileTree := { new with room := some 100 }
    let text := "[\n  \x7b\n    \"kind\": \"FloorValid\",\n    \"x\": 0.0,\n    \"y\": 0.0,\n"
      ++ "    \"z\": 0.0\n  \x7d,\n  \x7b\n    \"kind\": \"PlayerSpawn\",\n    \"x\": 0.0,\n"
      ++ "    \"y\": 0.5,\n    \"z\": 0.0\n  \x7d,\n  \x7b\n    \"kind\": \"FloorValid\",\n"
      ++ "    \"x\": 1.0,\n    \"y\": 0.0,\n    \"z\": 0.0\n  \x7d\n]"
    DeckCommand.parse s.input = .exportTo "../l/a"
      ∧ after.1.status = some "Exported 3 commands to ../l/a"
      ∧ after.1.preview = s.preview
      ∧ after.2.read "../l/a" = .ok text.toUTF8
      ∧ (s.perform short (.handle (.exportTo "b"))).1.status
        = some "Error: Cannot write b: No space left on device (os error 28)"
      ∧ (s.perform new (.handle (.exportTo ".."))).1.status
        = some "Error: Cannot write ..: Is a directory (os error 21)" := by
  intro old new steps s after short text
  have hread : DeckCommand.parse s.input = .exportTo "../l/a" := by decide +kernel
  have hlast : ((start {}).readings steps).getLast? = some ⟨"a", "* O"⟩ := by decide +kernel
  obtain ⟨⟨_, hkept⟩, hsubmit, -, hempty, hlevel⟩ :=
    export_writes_what_is_on_show {} steps new "../l/a"
  obtain ⟨-, -, -, -, hcramped⟩ := export_writes_what_is_on_show {} steps short "b"
  obtain ⟨-, -, -, -, hfaulty⟩ := export_writes_what_is_on_show {} steps new ".."
  obtain ⟨preview, hpreview⟩ : ∃ preview, s.preview = some preview := by
    apply Option.ne_none_iff_exists'.mp
    intro hnone
    have hunread := (hempty hnone).1
    rw [hlast] at hunread
    cases hunread
  -- the last reading is that of the old file
  have hold {holds : Reading → Prop}
      (h : ∃ reading, ((start {}).readings steps).getLast? = some reading ∧ holds reading) :
      holds ⟨"a", "* O"⟩ := by
    obtain ⟨reading, hsome, hholds⟩ := h
    cases hlast.symm.trans hsome
    exact hholds
  have hcommands : (RuleTable.standard .defaultSpawn).map (TokenMatrix.parse {} "* O") =
      [{ kind := .floorValid, position := .floor 0 0 },
        { kind := .playerSpawn, position := .defaultSpawn },
        { kind := .floorValid, position := .floor 1 0 }] := by
    rw [RuleTable.map_eq_readingOrder]
    decide +kernel
  have hjson : Export.toJson ((RuleTable.standard .defaultSpawn).map
      (TokenMatrix.parse {} "* O")) = .ok text := by
    rw [hcommands]
    decide +kernel
  have hwritten := (hold (hlevel preview hpreview)).2
  have hshort := (hold (hcramped preview hpreview)).2
  have hrefused := (hold (hfaulty preview hpreview)).2
  have hroom : (FileSystem.write new "../l/a" text.toUTF8).1 = .ok () := by decide +kernel
  have hfull : (FileSystem.write short "b" text.toUTF8).1 = .error .noSpace := by decide +kernel
  have hparent : (FileSystem.write new ".." text.toUTF8).1 = .error .isADirectory := by
    decide +kernel
  rw [hjson] at hwritten hshort hrefused
  simp only [hroom] at hwritten
  simp only [hfull] at hshort
  simp only [hparent] at hrefused
  have hafter : after = _ := hsubmit hread
  rw [hafter]
  refine ⟨hread, ?status, ?preview, hwritten.2.1, hshort.2.trans (by decide),
    hrefused.2.trans (by decide)⟩
  case status =>
    refine hwritten.2.2.trans ?_
    rw [hcommands]
    decide
  case preview => exact (congrArg Session.preview hkept :)

end TileLevel.Session
