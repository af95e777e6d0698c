import Mathlib
import TileLevel.FileTree
import TileLevel.Proofs.Runs

/-!
# How the Mode of a Session Changes

A session is on show only while it has a level, and a level once loaded is never lost. It ends only
when it is told to, leaves the board for the command deck only at the key for it, and once ended it
starts again only at that key or with a level that has been read.

## Main definitions

- `Session.Ends`: the operations that end a session
- `Session.Grounded`: a session on show has a level

## Main statements

- `Session.Grounded.perform`, `Session.Grounded.run`: steps and runs keep sessions grounded
- `Session.modes_change_only_so`: what each operation can do to the mode
-/

namespace TileLevel.Session

variable {Files : Type} [FileSystem Files] {s : Session} {files : Files} {operation : Operation}

/-! ## §1 The mode that a session comes back to -/

theorem restingMode_eq_quit_iff : s.restingMode = .quit ↔ s.mode = .quit := by
  unfold restingMode
  cases s.mode <;> cases s.preview <;> simp

theorem restingMode_eq_preview (h : s.restingMode = .preview) : s.preview.isSome := by
  unfold restingMode at h
  cases hpreview : s.preview with
  | some preview => rfl
  | none =>
    rw [hpreview] at h
    cases hmode : s.mode <;> simp [hmode] at h

/-- A session with a level does not come back to the command deck. -/
theorem restingMode_ne_command (h : s.preview.isSome) : s.restingMode ≠ .command := by
  unfold restingMode
  rw [h]
  cases s.mode <;> simp

/-! ## §2 Operations that load nothing -/

/-- The operations that end a session: the event, the key and the command for it. -/
def Ends (s : Session) (operation : Operation) : Prop :=
  operation = .handle .quit ∨ operation = .press 'q'
    ∨ operation = .submit ∧ DeckCommand.parse s.input = .quit

theorem not_ends_colon : ¬ s.Ends (.press ':') := by
  simp [Ends]

/-- **What an operation that loads nothing does to the mode**: it ends the session, goes to the
    command deck by the key for it, or leaves the session where it is or comes back to. -/
theorem modeAfter_cases (s : Session) (operation : Operation) :
    (s.Ends operation ∧ s.modeAfter operation = .quit)
      ∨ (operation = .press ':' ∧ s.modeAfter operation = .command)
      ∨ (¬ s.Ends operation ∧ operation ≠ .press ':'
        ∧ (s.modeAfter operation = s.restingMode ∨ s.modeAfter operation = s.mode)) := by
  cases operation with
  | handle event =>
    by_cases hquit : event = .quit
    · exact .inl ⟨.inl (congrArg _ hquit), if_pos hquit⟩
    · -- an attempt to load comes back, other events leave the mode as it is
      refine .inr (.inr ⟨by simp [Ends, hquit], by simp, ?_⟩)
      simp only [modeAfter, modeAfterEvent, if_neg hquit]
      split
      · exact .inl rfl
      · exact .inr rfl
  | press key =>
    by_cases hcolon : key = ':'
    · exact .inr (.inl ⟨congrArg _ hcolon, if_pos hcolon⟩)
    · by_cases hquit : key = 'q'
      · subst hquit
        exact .inl ⟨.inr (.inl rfl), rfl⟩
      · refine .inr (.inr ⟨by simp [Ends, hquit], by simp [hcolon], .inr ?_⟩)
        simp only [modeAfter, if_neg hcolon, if_neg hquit]
  | submit =>
    by_cases hquit : DeckCommand.parse s.input = .quit
    · exact .inl ⟨.inr (.inr ⟨rfl, hquit⟩), if_pos hquit⟩
    · exact .inr (.inr ⟨by simp [Ends, hquit], by simp, .inl (if_neg hquit)⟩)
  | cancel | loadDefault => exact .inr (.inr ⟨by simp [Ends], by simp, .inl rfl⟩)
  | scroll | type | erase => exact .inr (.inr ⟨by simp [Ends], by simp, .inr rfl⟩)

/-- A session goes on unless it is ended. -/
theorem modeAfter_eq_quit_iff (hmode : s.mode ≠ .quit) :
    s.modeAfter operation = .quit ↔ s.Ends operation := by
  have hresting : s.restingMode ≠ .quit := fun h => hmode (restingMode_eq_quit_iff.mp h)
  rcases modeAfter_cases s operation with
    ⟨hends, hafter⟩ | ⟨rfl, hafter⟩ | ⟨hgoes, -, hafter | hafter⟩
  · simp [hends, hafter]
  · simp [not_ends_colon, hafter]
  · simp [hgoes, hafter, hresting]
  · simp [hgoes, hafter, hmode]

/-- A session that has ended stays so, but for the key of the command deck. -/
theorem modeAfter_of_quit (hmode : s.mode = .quit) :
    s.modeAfter operation = .quit ↔ operation ≠ .press ':' := by
  have hresting : s.restingMode = .quit := restingMode_eq_quit_iff.mpr hmode
  rcases modeAfter_cases s operation with
    ⟨hends, hafter⟩ | ⟨rfl, hafter⟩ | ⟨-, hcolon, hafter | hafter⟩
  · have hcolon : operation ≠ .press ':' := fun h => not_ends_colon (h ▸ hends)
    simp [hafter, hcolon]
  · simp [hafter]
  · simp [hafter, hresting, hcolon]
  · simp [hafter, hmode, hcolon]

/-- A session on show stays there, unless it is ended or sent to the command deck. -/
theorem modeAfter_eq_command_iff (hmode : s.mode = .preview) (hlevel : s.preview.isSome) :
    s.modeAfter operation = .command ↔ operation = .press ':' := by
  have hresting : s.restingMode ≠ .command := restingMode_ne_command hlevel
  rcases modeAfter_cases s operation with
    ⟨hends, hafter⟩ | ⟨rfl, hafter⟩ | ⟨-, hcolon, hafter | hafter⟩
  · have hcolon : operation ≠ .press ':' := fun h => not_ends_colon (h ▸ hends)
    simp [hafter, hcolon]
  · simp [hafter]
  · simp [hafter, hresting, hcolon]
  · simp [hafter, hmode, hcolon]

/-! ## §3 Grounded sessions -/

/-- A session on show has a level to show. -/
def Grounded (s : Session) : Prop :=
  s.mode = .preview → s.preview.isSome

/-- Only a session that comes back to its level, or stays on show, is on show without a load. -/
theorem Grounded.isSome_of_modeAfter (h : s.Grounded) (hshown : s.modeAfter operation = .preview) :
    s.preview.isSome := by
  rcases modeAfter_cases s operation with
    ⟨-, hafter⟩ | ⟨-, hafter⟩ | ⟨-, -, hafter | hafter⟩ <;> rw [hafter] at hshown
  · cases hshown
  · cases hshown
  · exact restingMode_eq_preview hshown
  · exact h hshown

/-- A level is never lost. -/
theorem isSome_preview_perform [NumberPrinter] (h : s.preview.isSome) :
    (s.perform files operation).1.preview.isSome := by
  cases hreading : s.reading? files operation with
  | some reading =>
    rw [(perform_loads hreading).preview_eq]
    rfl
  | none =>
    have hkept := congrArg Option.isSome (perform_keeps hreading).preview_eq
    rw [Option.isSome_map, Option.isSome_map] at hkept
    rw [hkept]
    exact h

/-- **One operation** keeps a session grounded. -/
theorem Grounded.perform [NumberPrinter] (h : s.Grounded) (files : Files) (operation : Operation) :
    (s.perform files operation).1.Grounded := by
  intro hafter
  cases hreading : s.reading? files operation with
  | some reading =>
    rw [(perform_loads hreading).preview_eq]
    rfl
  | none =>
    rw [mode_perform hreading] at hafter
    exact isSome_preview_perform (h.isSome_of_modeAfter hafter)

/-- **Any run** keeps a session grounded. -/
theorem Grounded.run [NumberPrinter] (h : s.Grounded) (steps : List (Step Files)) :
    (s.run steps).Grounded := by
  induction steps generalizing s with
  | nil => exact h
  | cons step steps ih =>
    apply ih
    exact h.perform step.files step.operation

theorem grounded_start (config : LevelConfig) : (start config).Grounded :=
  nofun

/-! ## §4 All changes of the mode -/

/-- What ends a session or goes to the command deck by a key reads no level. -/
theorem reading?_eq_none_of_ends (h : s.Ends operation) : s.reading? files operation = none := by
  rcases h with rfl | rfl | ⟨rfl, hquit⟩
  · rfl
  · rfl
  · simp only [reading?, event?, hquit]
    rfl

/-- **The mode changes only so.** In every session that a run leads to, with any files: a session on
    show has a level, and no operation loses it. A session ends just when it is ended by the event,
    the key or the command for it; it goes from the board to the command deck just at the key for it;
    and when it has ended, it stays so unless that key is pressed or a level is read. -/
theorem modes_change_only_so [NumberPrinter] (config : LevelConfig) (steps : List (Step Files)) :
    let s := (start config).run steps
    (s.mode = .preview → s.preview.isSome)
      ∧ ∀ (files : Files) operation,
        let after := (s.perform files operation).1
        (s.preview.isSome → after.preview.isSome)
        ∧ (s.mode ≠ .quit → (after.mode = .quit ↔ s.Ends operation))
        ∧ (s.mode = .preview → (after.mode = .command ↔ operation = .press ':'))
        ∧ (s.mode = .quit → (after.mode = .quit ↔
            operation ≠ .press ':' ∧ s.reading? files operation = none)) := by
  intro s
  have hgrounded : s.Grounded := (grounded_start config).run steps
  refine ⟨hgrounded, fun files operation => ?_⟩
  cases hreading : s.reading? files operation with
  | some reading =>
    -- a level that is read is on show, which none of the other operations would lead to
    have hshown := (perform_loads hreading).mode_eq
    have hends : ¬ s.Ends operation := by
      intro h
      rw [reading?_eq_none_of_ends h] at hreading
      cases hreading
    have hcolon : operation ≠ .press ':' := by
      rintro rfl
      cases hreading
    simp only [hshown, hends, hcolon]
    exact ⟨isSome_preview_perform, by simp, by simp, by simp⟩
  | none =>
    simp only [mode_perform hreading, and_true]
    exact ⟨isSome_preview_perform, modeAfter_eq_quit_iff,
      fun hmode => modeAfter_eq_command_iff hmode (hgrounded hmode), modeAfter_of_quit⟩

/-- A session that has ended stays so when a load fails, and another load takes it up again. -/
theorem modes_change_only_so_ended :
    let files : FileTree := { entries := [(["a"], .file "O".toUTF8)] }
    let steps : List (Step FileTree) := [⟨{}, .handle (.loadFile "a")⟩, ⟨files, .press 'q'⟩]
    let s := (start {}).run steps
    s.mode = .quit ∧ (s.perform ({} : FileTree) (.handle (.loadFile "a"))).1.mode = .quit
      ∧ (s.perform files .cancel).1.mode = .quit
      ∧ (s.perform files (.handle (.loadFile "a"))).1.mode ≠ .quit := by
  intro files steps s
  have hmode : s.mode = .quit := rfl
  have hchanges := (modes_change_only_so {} steps).2
  have hfailed : s.reading? ({} : FileTree) (.handle (.loadFile "a")) = none := by decide +kernel
  have hread : s.reading? files (.handle (.loadFile "a")) = some ⟨"a", "O"⟩ := by decide +kernel
  refine ⟨hmode, ?_, ?_, ?_⟩
  · exact ((hchanges {} (.handle (.loadFile "a"))).2.2.2 hmode).mpr ⟨by simp, hfailed⟩
  · exact ((hchanges files .cancel).2.2.2 hmode).mpr ⟨by simp, rfl⟩
  · intro hquit
    have hnone := (((hchanges files (.handle (.loadFile "a"))).2.2.2 hmode).mp hquit).2
    exact absurd (hread.symm.trans hnone) (by simp)

end TileLevel.Session
