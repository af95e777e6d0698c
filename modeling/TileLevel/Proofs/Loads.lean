import Mathlib
import TileLevel.Proofs.Coherence

/-!
# Loads that Fail and Loads that Succeed

A load is asked for by an event, by a reload, by the default level or by a command. If it fails, all
that was loaded before stays, and only the status tells of it. If it succeeds, nothing of what was
before stays but the configuration and what has been typed: the status begins anew, so the warnings
that are added to it are those of the new level alone.

## Main definitions

- `Session.Requests`: the operations that ask for a load, and the path they ask for

## Main statements

- `Session.perform_of_requests`: such an operation is a load
- `Session.failed_load_keeps_level`: what a load that fails leaves
- `Session.load_forgets_the_past`: what a load that succeeds leaves, and loads done twice
-/

namespace TileLevel.Session

variable {Files : Type} [FileSystem Files] {config : LevelConfig} {s : Session} {files : Files}
  {operation : Operation} {path : String}

/-! ## §1 Operations that load -/

/-- The operations that ask for a load, and the path that they ask for. -/
inductive Requests (s : Session) : Operation → String → Prop where
  | loadFile (path : String) : Requests s (.handle (.loadFile path)) path
  | reload {path : String} (hpath : s.currentPath = some path) : Requests s (.handle .reload) path
  | loadDefault : Requests s .loadDefault s.config.levelPath
  /-- The command that loads a path -/
  | submitLoad {path : String} (hread : DeckCommand.parse s.input = .loadFile path) :
    Requests s .submit path
  /-- The command that reloads -/
  | submitReload {path : String} (hread : DeckCommand.parse s.input = .reload)
    (hpath : s.currentPath = some path) : Requests s .submit path

theorem submit_eq [NumberPrinter] (s : Session) (files : Files) :
    s.perform files .submit =
      (s.atEvent .submit).handle files (DeckCommand.parse s.input).event := rfl

/-- **An operation that asks for a load** is one, after the command deck has been left if it is a
    command. The files stay as they are. -/
theorem perform_of_requests [NumberPrinter] (h : s.Requests operation path) (files : Files) :
    s.perform files operation = ((s.atEvent operation).load files path, files) := by
  cases h with
  | loadFile => rfl
  | loadDefault => rfl
  | reload hpath => exact congrArg (·, files) (reload_of_path hpath)
  | submitLoad hread =>
    -- the command deck is left before the command is carried out
    rw [submit_eq, hread]
    rfl
  | submitReload hread hpath =>
    rw [submit_eq, hread]
    exact congrArg (·, files) (reload_of_path (s := s.atEvent .submit) hpath)

/-- An operation asks for a path just when its event does. -/
theorem requests_iff :
    s.Requests operation path ↔ (s.event? operation).bind s.pathOf? = some path := by
  constructor
  · intro h
    cases h with
    | loadFile | loadDefault => rfl
    | reload hpath => exact hpath
    | submitLoad hread => simp [event?, hread, DeckCommand.event, pathOf?]
    | submitReload hread hpath => simp [event?, hread, DeckCommand.event, pathOf?, hpath]
  · intro h
    cases operation with
    | handle event =>
      cases event with
      | loadFile path' =>
        cases h
        exact .loadFile path
      | reload => exact .reload h
      | _ => cases h
    | submit =>
      cases hread : DeckCommand.parse s.input with
      | loadFile path' =>
        simp only [event?, hread, DeckCommand.event, pathOf?, Option.bind_some] at h
        cases h
        exact .submitLoad hread
      | reload =>
        simp only [event?, hread, DeckCommand.event, pathOf?, Option.bind_some] at h
        exact .submitReload hread h
      | _ => simp [event?, hread, DeckCommand.event, pathOf?] at h
    | loadDefault =>
      cases h
      exact .loadDefault
    | _ => cases h

/-! ## §2 Loads that fail -/

/-- The mode that a session comes back to, by what it was and what it has. -/
theorem restingMode_eq (s : Session) :
    s.restingMode =
      if s.mode = .quit then .quit else if s.preview.isSome then .preview else .command := by
  unfold restingMode
  cases s.mode <;> rfl

theorem config_atEvent (operation : Operation) (s : Session) :
    (s.atEvent operation).config = s.config :=
  (keepsLevel_atEvent operation s).config_eq

theorem typed_atEvent (operation : Operation) (s : Session) :
    (s.atEvent operation).typed = if operation = .submit then [] else s.typed := by
  cases operation <;> rfl

theorem from?_of_error {error : LoadError} (h : Level.load files config path = .error error) :
    Reading.from? files path = none := by
  apply Option.eq_none_iff_forall_ne_some.mpr
  intro reading hreading
  simp [Reading.load_eq_ok hreading] at h

/-- What asks for a load that fails reads nothing. -/
theorem reading?_of_error {error : LoadError} (h : s.Requests operation path)
    (hload : Level.load files s.config path = .error error) :
    s.reading? files operation = none := by
  -- what is read is read from the path that is asked for
  have hbind : s.reading? files operation
      = ((s.event? operation).bind s.pathOf?).bind (Reading.from? files) := by
    rw [Option.bind_assoc]
    rfl
  rw [hbind, requests_iff.mp h, Option.bind_some, from?_of_error hload]

/-- **An operation whose load fails** changes the status and the mode, and a command is taken from
    the command deck. -/
theorem perform_of_error [NumberPrinter] {error : LoadError} (h : s.Requests operation path)
    (hload : Level.load files s.config path = .error error) :
    s.perform files operation =
      ({ s with
          status := some ("Error: " ++ error.message)
          typed := if operation = .submit then [] else s.typed
          mode := s.restingMode }, files) := by
  have hat : Level.load files (s.atEvent operation).config path = .error error := by
    rwa [config_atEvent]
  rw [perform_of_requests h, load_of_error hat, restingMode_atEvent, ← typed_atEvent]
  cases operation <;> rfl

/-- A reload without a path tells so and does nothing else. -/
theorem perform_reload_of_no_path [NumberPrinter] (hpath : s.currentPath = none) (files : Files) :
    s.perform files (.handle .reload) = ({ s with status := some noLevelText }, files) :=
  congrArg (·, files) (reload_of_no_path hpath)

/-- The command that reloads, without a path, leaves the command deck besides. -/
theorem perform_submit_of_no_path [NumberPrinter] (hread : DeckCommand.parse s.input = .reload)
    (hpath : s.currentPath = none) (files : Files) :
    s.perform files .submit =
      ({ s with status := some noLevelText, typed := [], mode := s.restingMode }, files) := by
  rw [submit_eq, hread]
  exact congrArg (·, files) (reload_of_no_path (s := s.atEvent .submit) hpath)

/-- As long as nothing is read, a reload asks for the level that was loaded last. -/
theorem Coherent.requests_reload_iff {last : Option Reading} (h : Coherent config last s) :
    s.Requests (.handle .reload) path ↔ last.map (·.path) = some path := by
  rw [requests_iff, ← h.currentPath_eq]
  rfl

/-- **A load that fails keeps the level on show.** In every session that a run leads to, an operation
    that asks for a load which fails changes the status, which gives the error, and the mode, which
    is the one that the session comes back to; a command that is submitted is taken from the command
    deck. A reload without a path gives an error as well and, as an event, keeps the mode. All else
    stays, whatever the files, and as long as no load succeeds a reload asks for the level that was
    loaded last. -/
theorem failed_load_keeps_level [NumberPrinter] (config : LevelConfig) (steps : List (Step Files)) :
    let s := (start config).run steps
    (∀ (files : Files) operation path error, s.Requests operation path →
        Level.load files s.config path = .error error →
        s.reading? files operation = none
          ∧ s.perform files operation =
            ({ s with
                status := some ("Error: " ++ error.message)
                typed := if operation = .submit then [] else s.typed
                mode := if s.mode = .quit then .quit
                  else if s.preview.isSome then .preview else .command }, files))
      ∧ (s.currentPath = none → ∀ files : Files,
        s.perform files (.handle .reload) = ({ s with status := some noLevelText }, files)
          ∧ (DeckCommand.parse s.input = .reload → s.perform files .submit =
            ({ s with
                status := some noLevelText
                typed := []
                mode := if s.mode = .quit then .quit else .command }, files)))
      ∧ ∀ later : List (Step Files), s.readings later = [] → ∀ path,
        (s.run later).Requests (.handle .reload) path ↔
          ((start config).readings steps).getLast?.map (·.path) = some path := by
  intro s
  have hcoherent : Coherent config ((start config).readings steps).getLast? s :=
    coherent_run config steps
  refine ⟨?failed, ?noPath, ?later⟩
  case failed =>
    intro files operation path error hrequests hload
    rw [← restingMode_eq]
    exact ⟨reading?_of_error hrequests hload, perform_of_error hrequests hload⟩
  case noPath =>
    intro hpath files
    refine ⟨perform_reload_of_no_path hpath files, fun hread => ?_⟩
    -- without a path there is no level to come back to
    have hpreview : s.preview.isSome = false := by
      have hiff := hcoherent.isSome_preview_iff
      rw [hpath] at hiff
      simpa using hiff
    rw [perform_submit_of_no_path hread hpath files, restingMode_eq, hpreview]
    rfl
  case later =>
    intro later hnone path
    have hlater := hcoherent.run later
    -- nothing was read since, so the last reading is still that of the steps before
    rw [hnone, List.getLast?_nil, Option.none_or] at hlater
    exact hlater.requests_reload_iff

/-- A session with a level has ended, and a file that is not there is asked for at the command
    deck. -/
theorem failed_load_keeps_level_ended :
    let files : FileTree := { entries := [(["a"], .file "O O".toUTF8)] }
    let steps : List (Step FileTree) :=
      [⟨files, .handle (.loadFile "a")⟩, ⟨{}, .press ':'⟩, ⟨{}, .type '@'⟩, ⟨{}, .type 'b'⟩,
        ⟨{}, .handle .quit⟩]
    let s := (start {}).run steps
    let after := (s.perform ({} : FileTree) .submit).1
    s.Requests .submit "b"
      ∧ after.status = some "Error: Cannot read level b: No such file or directory (os error 2)"
      ∧ after.preview = s.preview
      ∧ after.mode = .quit
      ∧ after.Requests (.handle .reload) "a" := by
  intro files steps s after
  have hrequests : s.Requests .submit "b" := .submitLoad (by decide +kernel)
  have hload : Level.load ({} : FileTree) s.config "b" = .error (.unavailable "b" .notFound) := rfl
  obtain ⟨hfailed, -, hlater⟩ := failed_load_keeps_level {} steps
  obtain ⟨hnone, hperform⟩ := hfailed ({} : FileTree) .submit "b" _ hrequests hload
  have hafter : after = _ := congrArg Prod.fst hperform
  refine ⟨hrequests, ?status, ?preview, ?mode, ?reload⟩
  case status =>
    rw [hafter]
    decide
  case preview => rw [hafter]
  case mode =>
    rw [hafter]
    rfl
  case reload =>
    have hreadings : s.readings [⟨({} : FileTree), .submit⟩] = [] := by
      rw [readings, hnone]
      rfl
    apply (hlater [⟨({} : FileTree), .submit⟩] hreadings "a").mpr
    decide +kernel

/-! ## §3 Loads that succeed -/

/-- A session with the same input has the same characters typed. -/
theorem typed_eq_of_input_eq {t : Session} (h : s.input = t.input) : s.typed = t.typed := by
  have hreversed := String.ofList_injective h
  exact List.reverse_injective hreversed

/-- **A load that succeeds** sets everything but the configuration and what has been typed. -/
theorem load_eq_of_ok {level : Level} (h : Level.load files s.config path = .ok level) :
    s.load files path =
      { config := s.config
        mode := .preview
        preview := some (.ofLevel level)
        currentPath := some path
        typed := s.typed
        status := some (announcement (.ofLevel level)) } := by
  rw [load_of_ok h, present_eq]

theorem config_load (s : Session) (files : Files) (path : String) :
    (s.load files path).config = s.config := by
  cases h : Level.load files s.config path with
  | ok level => rw [load_eq_of_ok h]
  | error error => rw [load_of_error h]

theorem typed_load (s : Session) (files : Files) (path : String) :
    (s.load files path).typed = s.typed := by
  cases h : Level.load files s.config path with
  | ok level => rw [load_eq_of_ok h]
  | error error => rw [load_of_error h]

/-- The path of a session stays if it is loaded again, also if that fails. -/
theorem currentPath_load (hpath : s.currentPath = some path) :
    (s.load files path).currentPath = some path := by
  cases h : Level.load files s.config path with
  | ok level => rw [load_eq_of_ok h]
  | error error =>
    rw [load_of_error h]
    exact hpath

/-- The mode that a failed load leaves is the one that another failed load leaves. -/
theorem restingMode_restingMode (s : Session) (status : Option String) :
    { s with status, mode := s.restingMode }.restingMode = s.restingMode :=
  restingMode_atEvent .submit s

/-- **A load done twice** does the same as once, whether it succeeds or fails. -/
theorem load_load (s : Session) (files : Files) (path : String) :
    (s.load files path).load files path = s.load files path := by
  -- the configuration stays, so the second load has the outcome of the first
  cases h : Level.load files s.config path with
  | ok level =>
    have hagain : Level.load files (s.load files path).config path = .ok level := by
      rwa [config_load]
    rw [load_eq_of_ok hagain, config_load, typed_load, ← load_eq_of_ok h]
  | error error =>
    have hagain : Level.load files (s.load files path).config path = .error error := by
      rwa [config_load]
    rw [load_of_error hagain, load_of_error h, restingMode_restingMode]

/-- **A reload done twice** does the same as once. -/
theorem reload_reload (s : Session) (files : Files) :
    (s.reload files).reload files = s.reload files := by
  cases hpath : s.currentPath with
  | some path =>
    rw [reload_of_path hpath, reload_of_path (currentPath_load hpath), load_load]
  | none =>
    have hagain : (s.reload files).currentPath = none := by
      rw [reload_of_no_path hpath]
      exact hpath
    rw [reload_of_no_path hagain, reload_of_no_path hpath]

/-- What is loaded from a path depends on the file there and on no other one. -/
theorem load_congr {files' : Files} (h : FileSystem.read files path = FileSystem.read files' path)
    (config : LevelConfig) : Level.load files config path = Level.load files' config path := by
  simp only [Level.load, Level.loadWith, Level.readText, h]

theorem config_run [NumberPrinter] (config : LevelConfig) (steps : List (Step Files)) :
    ((start config).run steps).config = config :=
  (coherent_run config steps).config_eq

/-- **A load that succeeds forgets the past.** Take two sessions of one configuration, whatever was
    done in them and with whatever files. If the same has been typed in both and a path can be loaded
    and holds the same for both, the load leaves them equal in every field: on show, unscrolled, with
    the status, the level and the path of this load alone. So a load that is done twice does the same
    as once, a reload likewise, and a reload is a load of the path of the session. -/
theorem load_forgets_the_past [NumberPrinter] (config : LevelConfig)
    (steps₁ steps₂ : List (Step Files)) (files₁ files₂ : Files) (path : String) :
    let s := (start config).run steps₁
    let t := (start config).run steps₂
    (s.input = t.input → FileSystem.read files₁ path = FileSystem.read files₂ path →
        ∀ level, Level.load files₁ config path = .ok level →
          (s.handle files₁ (.loadFile path)).1 = (t.handle files₂ (.loadFile path)).1
            ∧ (s.handle files₁ (.loadFile path)).1 =
              { config
                mode := .preview
                preview := some (.ofLevel level)
                currentPath := some path
                typed := s.typed
                status := some (announcement (.ofLevel level)) }
            ∧ (Preview.ofLevel level).scroll = (0, 0))
      ∧ (let once := s.handle files₁ (.loadFile path)
        once.1.handle once.2 (.loadFile path) = once)
      ∧ (let once := s.handle files₁ .reload
        once.1.handle once.2 .reload = once)
      ∧ (s.currentPath = some path →
        s.handle files₁ .reload = s.handle files₁ (.loadFile path)) := by
  intro s t
  have hs : s.config = config := config_run config steps₁
  have ht : t.config = config := config_run config steps₂
  refine ⟨?forgets, ?twice, ?reloaded, ?reload⟩
  case forgets =>
    intro hinput hread level hlevel
    have hload₁ : Level.load files₁ s.config path = .ok level := by rwa [hs]
    have hload₂ : Level.load files₂ t.config path = .ok level := by
      rwa [ht, ← load_congr hread]
    -- either session after the load is written out without the session before it
    have hleft : (s.handle files₁ (.loadFile path)).1 = _ := load_eq_of_ok hload₁
    have hright : (t.handle files₂ (.loadFile path)).1 = _ := load_eq_of_ok hload₂
    rw [hs] at hleft
    rw [ht, ← typed_eq_of_input_eq hinput] at hright
    exact ⟨hleft.trans hright.symm, hleft, rfl⟩
  case twice => exact congrArg (·, files₁) (load_load s files₁ path)
  case reloaded => exact congrArg (·, files₁) (reload_reload s files₁)
  case reload => exact fun hpath => congrArg (·, files₁) (reload_of_path hpath)

/-- A session that showed a level with warnings and has ended, and one in which nothing was done. -/
theorem load_forgets_the_past_warned :
    let ragged : FileTree := { entries := [(["a"], .file "* O\r\nO".toUTF8)] }
    let plain : FileTree := { entries := [(["a"], .file "O".toUTF8), (["b"], .directory)] }
    let other : FileTree := { entries := [(["a"], .file "O".toUTF8)] }
    let steps : List (Step FileTree) :=
      [⟨ragged, .handle (.loadFile "a")⟩, ⟨ragged, .press 'j'⟩, ⟨{}, .press ':'⟩, ⟨{}, .press 'q'⟩]
    let s := (start {}).run steps
    s.mode = .quit
      ∧ (s.handle plain (.loadFile "a")).1 = ((start {}).handle other (.loadFile "a")).1
      ∧ (s.handle plain (.loadFile "a")).1.mode = .preview
      ∧ s.handle plain .reload = s.handle plain (.loadFile "a") := by
  intro ragged plain other steps s
  have hread : plain.read "a" = other.read "a" := by decide +kernel
  have hreading : Reading.from? plain "a" = some ⟨"a", "O"⟩ := by decide +kernel
  have hpath : s.currentPath = some "a" :=
    (coherent_run {} steps).currentPath_eq.trans (by decide +kernel)
  obtain ⟨hforgets, -, -, hreload⟩ := load_forgets_the_past {} steps [] plain other "a"
  obtain ⟨hsame, hafter, -⟩ := hforgets rfl hread _ (Reading.load_eq_ok hreading {})
  refine ⟨rfl, hsame, ?_, hreload hpath⟩
  rw [hafter]

end TileLevel.Session
