import Mathlib
import TileLevel.Preview
import TileLevel.Proofs.Drawing

/-!
# The Start Interferes with Nothing Else

A level is mapped twice, with the player starting at two positions of any kind. The two lists of
commands are compared command by command, the two canvases in all but the start: a pair of commands
is taken or refused by both canvases for the same reason, and leaves the same floor on both. So the
start changes no cell, no count and no refusal.

## Main definitions

- `Command.DifferInStart`: commands that differ at most in the start
- `Canvas.SameFloor`: canvases that differ at most in the start

## Main statements

- `RuleTable.map_standard_differInStart`: what the start changes in the commands of a level
- `Canvas.SameFloor.put`: one pair of commands
- `Canvas.SameFloor.deliverFrom`: the delivery of two lists
- `start_interferes_with_nothing_else`: two levels and their previews
-/

namespace TileLevel

/-! ## §1 Commands that differ in the start -/

/-- Pairs of commands for two starts. -/
inductive Command.DifferInStart (start start' : Position) : Command → Command → Prop
  /-- Floor is the same. -/
  | floor {command : Command} (hfloor : command.kind ≠ .playerSpawn) :
      DifferInStart start start' command command
  /-- A start command has the one start or the other. -/
  | start :
      DifferInStart start start' ⟨.playerSpawn, start⟩ ⟨.playerSpawn, start'⟩

theorem Command.DifferInStart.kind_eq {start start' : Position} {a b : Command}
    (h : DifferInStart start start' a b) : a.kind = b.kind := by
  cases h <;> rfl

namespace RuleTable

variable (start start' : Position) (m : TokenMatrix)

theorem cellCommands_standard (row column : ℕ) :
    List.Forall₂ (Command.DifferInStart start start')
      ((standard start).cellCommands m row column)
      ((standard start').cellCommands m row column) := by
  rw [cellCommands_eq_elim, cellCommands_eq_elim]
  cases m.get? row column with
  | none => exact .nil
  | some token =>
    rw [Option.bind_some, Option.bind_some, lookup_standard, lookup_standard]
    split_ifs
    · exact .cons (.floor nofun) (.cons .start .nil)
    · exact .cons (.floor nofun) .nil
    · exact .cons (.floor nofun) .nil
    · exact .nil

/-- **What the start changes in the commands of a level.** -/
theorem map_standard_differInStart :
    List.Forall₂ (Command.DifferInStart start start') ((standard start).map m)
      ((standard start').map m) :=
  forall₂_map (cellCommands_standard start start' m)

end RuleTable

/-- The legend counts kinds, and these are the same. -/
theorem LevelSummary.ofCommands_congr {start start' : Position} {as bs : List Command}
    (h : List.Forall₂ (Command.DifferInStart start start') as bs) :
    ofCommands as = ofCommands bs := by
  have hfrom (summary : LevelSummary) :
      as.foldl countCommand summary = bs.foldl countCommand summary := by
    induction h generalizing summary with
    | nil => rfl
    | cons hcommand _ ih =>
      rw [List.foldl_cons, List.foldl_cons, ih, countCommand, countCommand, hcommand.kind_eq]
  exact hfrom {}

/-! ## §2 Canvases that differ in the start -/

/-- Canvases of one size with the same floor. -/
structure Canvas.SameFloor (a b : Canvas) : Prop where
  width : a.width = b.width
  height : a.height = b.height
  cells : a.cells = b.cells

namespace Canvas.SameFloor

variable {start start' : Position} {a b : Canvas}

theorem cellOf (h : SameFloor a b) : a.cellOf = b.cellOf :=
  cellOf_congr h.width h.height

theorem putSpawn (h : SameFloor a b) (position position' : Position) :
    SameFloor (a.putSpawn position) (b.putSpawn position') where
  width := by simpa using h.width
  height := by simpa using h.height
  cells := by simpa using h.cells

theorem setCell (h : SameFloor a b) (column row : ℕ) (kind : Kind) :
    SameFloor (a.setCell column row kind) (b.setCell column row kind) where
  width := h.width
  height := h.height
  cells := by simp [Canvas.setCell, h.width, h.cells]

/-- The canvases are one, but for the start. -/
theorem eq_with_start (h : SameFloor a b) :
    b = { a with spawn := b.spawn, spawnOffBoard := b.spawnOffBoard } := by
  cases a
  cases b
  obtain ⟨rfl, rfl, rfl⟩ := h
  rfl

/-- **A pair of commands** is taken or refused alike, and leaves the same floor. -/
theorem put (h : SameFloor a b) {command command' : Command}
    (hcommand : Command.DifferInStart start start' command command') :
    (a.put command).1 = (b.put command').1 ∧ SameFloor (a.put command).2 (b.put command').2 := by
  cases hcommand with
  | start => exact ⟨rfl, h.putSpawn start start'⟩
  | floor hfloor =>
    rw [Canvas.put, Canvas.put, if_neg hfloor, if_neg hfloor, h.cellOf]
    cases b.cellOf command.position with
    | ok place => exact ⟨rfl, h.setCell ..⟩
    | error reason => exact ⟨rfl, h⟩

/-- **The delivery of two lists** ends alike and leaves the same floor. -/
theorem deliverFrom (h : SameFloor a b) {commands commands' : List Command}
    (hcommands : List.Forall₂ (Command.DifferInStart start start') commands commands')
    (count : ℕ) :
    (sink.deliverFrom count commands a).1 = (sink.deliverFrom count commands' b).1
      ∧ SameFloor (sink.deliverFrom count commands a).2 (sink.deliverFrom count commands' b).2 := by
  induction hcommands generalizing a b count with
  | nil => exact ⟨rfl, h⟩
  | @cons command command' _ _ hcommand _ ih =>
    obtain ⟨houtcome, hfloor⟩ := h.put hcommand
    rw [Sink.deliverFrom, Sink.deliverFrom]
    -- the sink of a canvas is its `put`
    simp only [sink]
    revert houtcome hfloor
    generalize a.put command = answer
    generalize b.put command' = answer'
    obtain ⟨outcome, canvas⟩ := answer
    obtain ⟨outcome', canvas'⟩ := answer'
    rintro (rfl : outcome = outcome') hfloor
    -- with one answer for both, either both deliveries go on or both end here
    cases outcome with
    | none => exact ih hfloor (count + 1)
    | some refusal => exact ⟨rfl, hfloor⟩

end Canvas.SameFloor

/-! ## §3 Levels and previews -/

/-- **The start interferes with nothing else.** Two levels of one text that are mapped with two
    starts have commands that pair up, the same floor command or a start command in each, and so the
    same legend. Their previews are the same in all but the start on the canvas: cells, legend,
    refusal and scroll position. -/
theorem start_interferes_with_nothing_else (separators : Separators) (source text : String)
    (start start' : Position) :
    let level := Level.ofText separators (.standard start) source text
    let level' := Level.ofText separators (.standard start') source text
    let preview := Preview.ofLevel level
    let preview' := Preview.ofLevel level'
    level' = { level with commands := level'.commands }
      ∧ List.Forall₂ (Command.DifferInStart start start') level.commands level'.commands
      ∧ level'.summary = level.summary
      ∧ preview' =
          { preview with
            level := level'
            canvas :=
              { preview.canvas with
                spawn := preview'.canvas.spawn
                spawnOffBoard := preview'.canvas.spawnOffBoard } } := by
  intro level level' preview preview'
  have hcommands :
      List.Forall₂ (Command.DifferInStart start start') level.commands level'.commands :=
    RuleTable.map_standard_differInStart start start' _
  have hsummary : level'.summary = level.summary := by
    show LevelSummary.describe _ level'.commands = LevelSummary.describe _ level.commands
    simp only [LevelSummary.describe, LevelSummary.ofCommands_congr hcommands]
    rfl
  have hblank : Canvas.SameFloor (.forMatrix level.matrix) (.forMatrix level'.matrix) :=
    ⟨rfl, rfl, rfl⟩
  obtain ⟨houtcome, hfloor⟩ := hblank.deliverFrom hcommands 0
  have hcanvas : Canvas.SameFloor preview.canvas preview'.canvas := hfloor
  have herror : preview'.sinkError = preview.sinkError := by
    simp only [preview, preview', Preview.ofLevel, Sink.instantiateAll, houtcome]
  refine ⟨rfl, hcommands, hsummary, ?_⟩
  exact (Preview.mk.injEq ..).mpr ⟨rfl, hcanvas.eq_with_start, hsummary, herror, rfl⟩

/-- A level with two pegs, mapped with a start on the board and with one that is at no position. -/
theorem start_interferes_with_nothing_else_nan :
    let start : Position := .floor 1 0
    let start' : Position := { Position.defaultSpawn with x := .nan }
    let level := Level.ofText {} (.standard start) "level:a" "* O\r\n█ *"
    let level' := Level.ofText {} (.standard start') "level:a" "* O\r\n█ *"
    let canvas := (Preview.ofLevel level).canvas
    let canvas' := (Preview.ofLevel level').canvas
    level.commands.map (·.kind)
        = [.floorValid, .playerSpawn, .floorValid, .floorObstacle, .floorValid, .playerSpawn]
      ∧ List.Forall₂ (Command.DifferInStart start start') level.commands level'.commands
      ∧ canvas.start = (some (1, 0), false) ∧ canvas'.start = (none, true)
      ∧ canvas'.cells = canvas.cells
      ∧ canvas.cells = #[some .floorValid, some .floorValid, some .floorObstacle, some .floorValid]
      ∧ level'.summary = level.summary := by
  intro start start' level level' canvas canvas'
  obtain ⟨-, hcommands, hsummary, hpreview⟩ :=
    start_interferes_with_nothing_else {} "level:a" "* O\r\n█ *" start start'
  have hcells : canvas'.cells = canvas.cells :=
    (congrArg (fun preview : Preview => preview.canvas.cells) hpreview :)
  -- the commands are read off the two nested loops
  have horder (spawn : Position) :
      (Level.ofText {} (.standard spawn) "level:a" "* O\r\n█ *").commands
        = (RuleTable.standard spawn).readingOrder (.parse {} "* O\r\n█ *") :=
    RuleTable.map_eq_readingOrder _ _
  have hcanvas (spawn : Position) :
      (Preview.ofLevel (Level.ofText {} (.standard spawn) "level:a" "* O\r\n█ *")).canvas
        = (Canvas.sink.instantiateAll
          ((RuleTable.standard spawn).readingOrder (.parse {} "* O\r\n█ *"))
          (.forMatrix (.parse {} "* O\r\n█ *"))).2 := by
    rw [← horder]
    rfl
  refine ⟨?_, hcommands, ?_, ?_, hcells, ?_, hsummary⟩
  · rw [show level.commands = _ from horder start]
    decide +kernel
  · rw [show canvas = _ from hcanvas start]
    decide +kernel
  · rw [show canvas' = _ from hcanvas start']
    decide +kernel
  · rw [show canvas = _ from hcanvas start]
    decide +kernel

end TileLevel
