import Mathlib
import TileLevel.Proofs.Coherence
import TileLevel.Proofs.LastWriter
import TileLevel.Proofs.Legend

/-!
# Delivery Ends at the First Refusal

Whatever a sink does with its commands, a list of them is delivered one after the other until one is
refused. So a list is delivered as its parts are, the later part from where the earlier one leads and
only if nothing was refused there; and what is delivered is the whole list, or else the commands up
to the refused one and nothing after it. The preview of a level is such a delivery: it shows what
comes before the first floor that is on no cell, while its legend counts all commands.

## Main definitions

- `Sink.TakesAll`: commands that a sink takes in turn
- `Sink.logging`: a sink together with what has been delivered to it
- `Command.MissesBoard`: floor that is on no cell of a board

## Main statements

- `Sink.instantiateAll_append`: a list is delivered as its parts are
- `Sink.instantiateAll_eq_ok_iff`, `Sink.instantiateAll_eq_error_iff`: what a delivery comes to
- `Preview.ofLevel_of_first_miss`: a preview up to the first floor that is on no cell
- `delivery_ends_at_first_refusal`: deliveries to any sink, to a recorder and to a preview
-/

namespace TileLevel

namespace Sink

variable {State : Type} {sink : Sink State} {commands : List Command} {s mid t : State}

/-! ## §1 Parts of a list -/

/-- Delivery counts on from any number. -/
theorem deliverFrom_add (sink : Sink State) (base count : ℕ) (commands : List Command) (s : State) :
    sink.deliverFrom (base + count) commands s =
      ((sink.deliverFrom count commands s).1.map (base + ·), (sink.deliverFrom count commands s).2) := by
  induction commands generalizing count s with
  | nil => rfl
  | cons command commands ih =>
    rw [deliverFrom, deliverFrom]
    split
    · exact ih (count + 1) _
    · rfl

/-- The second part is delivered from where the first one leads, if nothing is refused in it. -/
theorem deliverFrom_append (sink : Sink State) (count : ℕ) (a b : List Command) (s : State) :
    sink.deliverFrom count (a ++ b) s =
      match sink.deliverFrom count a s with
      | (.ok count, mid) => sink.deliverFrom count b mid
      | (.error refusal, mid) => (.error refusal, mid) := by
  induction a generalizing count s with
  | nil => rfl
  | cons command a ih =>
    rw [List.cons_append, deliverFrom, deliverFrom]
    split
    · exact ih (count + 1) _
    · rfl

/-- **A list is delivered as its parts are**, and the counts are added. -/
theorem instantiateAll_append (sink : Sink State) (a b : List Command) (s : State) :
    sink.instantiateAll (a ++ b) s =
      match sink.instantiateAll a s with
      | (.ok count, mid) =>
        ((sink.instantiateAll b mid).1.map (count + ·), (sink.instantiateAll b mid).2)
      | (.error refusal, mid) => (.error refusal, mid) := by
  rw [instantiateAll, deliverFrom_append]
  unfold instantiateAll
  split
  case h_1 count mid _ => exact sink.deliverFrom_add count 0 b mid
  case h_2 => rfl

/-! ## §2 Commands taken in turn -/

/-- The commands are taken one after the other, each in the state that the one before it led to. -/
inductive TakesAll (sink : Sink State) : State → List Command → State → Prop where
  | nil (s : State) : TakesAll sink s [] s
  | cons {command : Command} {commands : List Command} {s mid t : State}
    (htaken : sink.instantiate command s = (none, mid)) (hrest : TakesAll sink mid commands t) :
    TakesAll sink s (command :: commands) t

/-- The command is refused, after those before it are taken, and leaves the state `t`. -/
def RefusesAfter (sink : Sink State) (s : State) (before : List Command) (command : Command)
    (refusal : SinkError) (t : State) : Prop :=
  ∃ mid, sink.TakesAll s before mid ∧ sink.instantiate command mid = (some refusal, t)

/-- What is taken in turn is delivered and counted. -/
theorem TakesAll.deliverFrom_eq (h : sink.TakesAll s commands t) (count : ℕ) :
    sink.deliverFrom count commands s = (.ok (count + commands.length), t) := by
  induction h generalizing count with
  | nil s => rfl
  | @cons command commands s mid t htaken hrest ih =>
    rw [deliverFrom, htaken, List.length_cons, Nat.add_comm commands.length, ← Nat.add_assoc]
    exact ih (count + 1)

theorem TakesAll.instantiateAll_eq (h : sink.TakesAll s commands t) :
    sink.instantiateAll commands s = (.ok commands.length, t) := by
  have hdelivered := h.deliverFrom_eq 0
  rwa [Nat.zero_add] at hdelivered

/-- A refusal ends the delivery. -/
theorem RefusesAfter.instantiateAll_eq {before : List Command} {command : Command}
    {refusal : SinkError} (h : sink.RefusesAfter s before command refusal t)
    (after : List Command) :
    sink.instantiateAll (before ++ command :: after) s = (.error refusal, t) := by
  obtain ⟨mid, hbefore, hrefused⟩ := h
  -- delivery goes on where the commands before lead, and ends there
  have hlast : sink.instantiateAll (command :: after) mid = (.error refusal, t) := by
    rw [instantiateAll, deliverFrom, hrefused]
  rw [instantiateAll_append, hbefore.instantiateAll_eq]
  simp only [hlast]
  rfl

/-- **Either all commands are taken in turn, or one of them is the first to be refused.** -/
theorem takesAll_or_refusesAfter (sink : Sink State) (commands : List Command) (s : State) :
    (∃ t, sink.TakesAll s commands t)
      ∨ ∃ before command after, commands = before ++ command :: after
        ∧ ∃ refusal t, sink.RefusesAfter s before command refusal t := by
  induction commands generalizing s with
  | nil => exact .inl ⟨s, .nil s⟩
  | cons command commands ih =>
    cases hanswer : sink.instantiate command s with
    | mk answer mid =>
      cases answer with
      | some refusal =>
        exact .inr ⟨[], command, commands, rfl, refusal, mid, s, .nil s, hanswer⟩
      | none =>
        -- taken, so the rest of the list decides
        rcases ih mid with ⟨t, hall⟩ | ⟨before, refused, after, rfl, refusal, t, last, hbefore, hlast⟩
        · exact .inl ⟨t, .cons hanswer hall⟩
        · exact .inr ⟨command :: before, refused, after, rfl, refusal, t, last,
            .cons hanswer hbefore, hlast⟩

/-- **A delivery succeeds** just when all commands are taken in turn, and counts them. -/
theorem instantiateAll_eq_ok_iff {count : ℕ} :
    sink.instantiateAll commands s = (.ok count, t)
      ↔ sink.TakesAll s commands t ∧ count = commands.length := by
  constructor
  · intro h
    rcases sink.takesAll_or_refusesAfter commands s with
      ⟨t', hall⟩ | ⟨before, command, after, rfl, refusal, t', hrefuses⟩
    · obtain ⟨hcount, rfl⟩ := Prod.mk.inj (h.symm.trans hall.instantiateAll_eq)
      exact ⟨hall, Except.ok.inj hcount⟩
    · cases h.symm.trans (hrefuses.instantiateAll_eq after)
  · rintro ⟨hall, rfl⟩
    exact hall.instantiateAll_eq

/-- **A delivery fails** with the answer to the first command that is refused. -/
theorem instantiateAll_eq_error_iff {refusal : SinkError} :
    sink.instantiateAll commands s = (.error refusal, t)
      ↔ ∃ before command after, commands = before ++ command :: after
        ∧ sink.RefusesAfter s before command refusal t := by
  constructor
  · intro h
    rcases sink.takesAll_or_refusesAfter commands s with
      ⟨t', hall⟩ | ⟨before, command, after, rfl, refusal', t', hrefuses⟩
    · cases h.symm.trans hall.instantiateAll_eq
    · cases h.symm.trans (hrefuses.instantiateAll_eq after)
      exact ⟨before, command, after, rfl, hrefuses⟩
  · rintro ⟨before, command, after, rfl, hrefuses⟩
    exact hrefuses.instantiateAll_eq after

/-! ## §3 What is delivered -/

/-- The sink together with the commands that are delivered to it, refused ones included. -/
def logging (sink : Sink State) : Sink (State × List Command) where
  instantiate command s :=
    ((sink.instantiate command s.1).1, (sink.instantiate command s.1).2, s.2 ++ [command])

theorem TakesAll.logging (h : sink.TakesAll s commands t) (log : List Command) :
    sink.logging.TakesAll (s, log) commands (t, log ++ commands) := by
  induction h generalizing log with
  | nil s =>
    rw [List.append_nil]
    exact .nil (s, log)
  | @cons command commands s mid t htaken hrest ih =>
    -- the log is a parameter, so the induction is on any log
    have hlogged : sink.logging.instantiate command (s, log) = (none, mid, log ++ [command]) := by
      simp only [Sink.logging, htaken]
    rw [List.append_cons]
    exact .cons hlogged (ih (log ++ [command]))

/-- **Up to the first refusal** every command is delivered once and in order. -/
theorem RefusesAfter.logging {before : List Command} {command : Command} {refusal : SinkError}
    (h : sink.RefusesAfter s before command refusal t) :
    sink.logging.RefusesAfter (s, []) before command refusal (t, before ++ [command]) := by
  obtain ⟨mid, hbefore, hrefused⟩ := h
  refine ⟨(mid, before), hbefore.logging [], ?_⟩
  simp only [Sink.logging, hrefused]

/-- A recorder takes everything and keeps it in order. -/
theorem takesAll_recorder (commands : List Command) (recorded : Array Command) :
    recorder.TakesAll recorded commands (recorded ++ commands.toArray) := by
  induction commands generalizing recorded with
  | nil =>
    have hnone : recorder.TakesAll recorded [] recorded := .nil recorded
    simpa using hnone
  | cons command commands ih =>
    have hrest := ih (recorded.push command)
    rw [List.push_append_toArray] at hrest
    exact .cons rfl hrest

end Sink

/-! ## §4 Boards and previews -/

/-- Floor that is on no cell of a board. -/
def Command.MissesBoard (width height : ℕ) (command : Command) : Prop :=
  command.kind ≠ .playerSpawn
    ∧ ∀ column < width, ∀ row < height, ¬ command.position.IsAt column row

namespace Canvas

variable {canvas : Canvas} {commands before : List Command} {command : Command}

theorem takes_iff_not_missesBoard :
    canvas.Takes command ↔ ¬ command.MissesBoard canvas.width canvas.height := by
  rw [takes_iff, Command.MissesBoard]
  push Not
  rw [or_iff_not_imp_left]

theorem takesAll_sink (h : ∀ command ∈ commands, canvas.Takes command) :
    sink.TakesAll canvas commands (canvas.putAll commands) :=
  (Sink.instantiateAll_eq_ok_iff.mp (instantiateAll_of_takes h)).1

/-- A canvas refuses the first command that it does not take and gives the reason. -/
theorem refusesAfter_sink (hbefore : ∀ other ∈ before, canvas.Takes other)
    (hcommand : ¬ canvas.Takes command) :
    ∃ reason, canvas.cellOf command.position = .error reason
      ∧ sink.RefusesAfter canvas before command (.outOfBounds reason.message)
        (canvas.putAll before) := by
  -- what was put before does not move the cells
  have hcellOf := cellOf_putAll before canvas
  have hrefused : ((canvas.putAll before).put command).1 ≠ none := by
    rw [ne_eq, put_fst_eq_none_iff, Takes, hcellOf]
    exact hcommand
  rcases put_cases (canvas.putAll before) command with
    ⟨-, hput⟩ | ⟨_, _, -, -, hput⟩ | ⟨reason, -, hcell, hput⟩
  · exact absurd (congrArg Prod.fst hput) hrefused
  · exact absurd (congrArg Prod.fst hput) hrefused
  · rw [hcellOf] at hcell
    exact ⟨reason, hcell, canvas.putAll before, takesAll_sink hbefore, hput⟩

end Canvas

namespace Preview

/-- A level without a floor command that misses the board is drawn as a whole. -/
theorem ofLevel_of_no_miss {level : Level}
    (h : ∀ command ∈ level.commands, (Canvas.forMatrix level.matrix).Takes command) :
    (ofLevel level).sinkError = none
      ∧ (ofLevel level).canvas = (Canvas.forMatrix level.matrix).putAll level.commands := by
  have hdelivered := Canvas.instantiateAll_of_takes h
  obtain ⟨hcanvas, herror⟩ := Session.drawing_ofLevel level
  rw [hdelivered] at hcanvas herror
  refine ⟨Option.eq_none_iff_forall_ne_some.mpr fun refusal hrefusal => ?_, hcanvas⟩
  cases (herror refusal).mp hrefusal

/-- **Up to the first floor that misses the board** a level is drawn, and that one is the refusal
    that the preview keeps. -/
theorem ofLevel_of_first_miss {m : TokenMatrix} {before after : List Command} {command : Command}
    (hbefore : ∀ other ∈ before, (Canvas.forMatrix m).Takes other)
    (hcommand : ¬ (Canvas.forMatrix m).Takes command) (source : String) :
    let preview :=
      ofLevel { matrix := m, commands := before ++ command :: after, source }
    (∃ reason, (Canvas.forMatrix m).cellOf command.position = .error reason
        ∧ preview.sinkError = some (.outOfBounds reason.message))
      ∧ preview.canvas = (ofLevel { matrix := m, commands := before, source }).canvas := by
  intro preview
  obtain ⟨reason, hreason, hrefuses⟩ := Canvas.refusesAfter_sink hbefore hcommand
  obtain ⟨hcanvas, herror⟩ := Session.drawing_ofLevel preview.level
  have hdelivered : Canvas.sink.instantiateAll preview.level.commands (.forMatrix m)
      = (.error (.outOfBounds reason.message), (Canvas.forMatrix m).putAll before) :=
    hrefuses.instantiateAll_eq after
  have hdrawn : (ofLevel { matrix := m, commands := before, source }).canvas
      = (Canvas.forMatrix m).putAll before := (ofLevel_of_no_miss hbefore).2
  refine ⟨⟨reason, hreason, (herror _).mpr ?_⟩, ?_⟩
  · exact congrArg Prod.fst hdelivered
  · rw [hdrawn]
    exact hcanvas.trans (congrArg Prod.snd hdelivered)

end Preview

/-! ## §5 All together -/

/-- **A delivery ends at the first refusal.** For every sink: a list is delivered as its parts are,
    the second one only if nothing in the first was refused, and counts are added; a delivery
    succeeds just when all commands are taken in turn, and counts them; it fails just when one is
    refused after those before it were taken, with the answer to that one; and just the commands up
    to there are delivered, once and in order. A recorder keeps the list. The preview of a level is
    drawn up to the first floor that is on no cell, keeps the reason why, and counts all commands in
    its legend. -/
theorem delivery_ends_at_first_refusal {State : Type} (sink : Sink State) (s : State)
    (commands : List Command) (m : TokenMatrix) (source : String) :
    let preview := Preview.ofLevel { matrix := m, commands, source }
    let misses := Command.MissesBoard m.columnBound m.rowCount
    (∀ a b, commands = a ++ b → sink.instantiateAll commands s =
        match sink.instantiateAll a s with
        | (.ok count, mid) =>
          ((sink.instantiateAll b mid).1.map (count + ·), (sink.instantiateAll b mid).2)
        | (.error refusal, mid) => (.error refusal, mid))
      ∧ (∀ count t, sink.instantiateAll commands s = (.ok count, t) ↔
          sink.TakesAll s commands t ∧ count = commands.length)
      ∧ (∀ t, sink.TakesAll s commands t →
          sink.logging.instantiateAll commands (s, []) = (.ok commands.length, t, commands))
      ∧ (∀ refusal t, sink.instantiateAll commands s = (.error refusal, t) ↔
          ∃ before command after, commands = before ++ command :: after
            ∧ sink.RefusesAfter s before command refusal t)
      ∧ (∀ before command after, commands = before ++ command :: after → ∀ refusal t,
          sink.RefusesAfter s before command refusal t →
            sink.logging.instantiateAll commands (s, []) = (.error refusal, t, before ++ [command]))
      ∧ Sink.recorder.instantiateAll commands #[] = (.ok commands.length, commands.toArray)
      ∧ ((∀ command ∈ commands, ¬ misses command) →
          preview.sinkError = none ∧ preview.canvas = (Canvas.forMatrix m).putAll commands)
      ∧ (∀ before command after, commands = before ++ command :: after →
          (∀ other ∈ before, ¬ misses other) → misses command →
            (∃ reason, (Canvas.forMatrix m).cellOf command.position = .error reason
              ∧ preview.sinkError = some (.outOfBounds reason.message))
            ∧ preview.canvas
              = (Preview.ofLevel { matrix := m, commands := before, source }).canvas)
      ∧ preview.summary = .describe m commands
      ∧ ∀ kind, preview.summary.count kind = commands.countP (·.kind = kind) := by
  intro preview misses
  have htakes : ∀ command, (Canvas.forMatrix m).Takes command ↔ ¬ misses command :=
    fun _ => Canvas.takes_iff_not_missesBoard
  refine ⟨?parts, fun _ _ => Sink.instantiateAll_eq_ok_iff, ?delivered,
    fun _ _ => Sink.instantiateAll_eq_error_iff, ?refused, ?recorded, ?drawn, ?miss, rfl,
    LevelSummary.count_describe m commands⟩
  case parts =>
    rintro a b rfl
    exact sink.instantiateAll_append a b s
  case delivered =>
    intro t hall
    exact (hall.logging []).instantiateAll_eq
  case refused =>
    rintro before command after rfl refusal t hrefuses
    exact hrefuses.logging.instantiateAll_eq after
  case recorded =>
    have hrecorded := (Sink.takesAll_recorder commands #[]).instantiateAll_eq
    rwa [Array.empty_append] at hrecorded
  case drawn =>
    intro hnone
    apply Preview.ofLevel_of_no_miss
    exact fun command hmem => (htakes command).mpr (hnone command hmem)
  case miss =>
    rintro before command after rfl hbefore hmiss
    apply Preview.ofLevel_of_first_miss
    · exact fun other hmem => (htakes other).mpr (hbefore other hmem)
    · exact fun htaken => (htakes command).mp htaken hmiss

/-- A sink that refuses obstacles, and a board with an obstacle below its only row. -/
theorem delivery_ends_at_first_refusal_obstacle :
    let refusal : SinkError := .unsupported "FloorObstacle"
    let sink := Sink.recorder.refusing fun command =>
      if command.kind = .floorObstacle then some refusal else none
    let tile (column : ℕ) : Command := { kind := .floorValid, position := .floor column 0 }
    let below : Command := { kind := .floorObstacle, position := .floor 0 1 }
    let m : TokenMatrix := { rows := #[#["O", "O"]] }
    let commands := [tile 0, below, tile 1]
    let preview := Preview.ofLevel { matrix := m, commands, source := "below" }
    sink.RefusesAfter #[] [tile 0] below refusal #[tile 0]
      ∧ sink.instantiateAll commands #[] = (.error refusal, #[tile 0])
      ∧ sink.logging.instantiateAll commands (#[], [])
        = (.error refusal, #[tile 0], [tile 0, below])
      ∧ Command.MissesBoard 2 1 below
      ∧ preview.canvas
        = (Preview.ofLevel { matrix := m, commands := [tile 0], source := "below" }).canvas
      ∧ preview.summary.count .floorValid = 2 := by
  intro refusal sink tile below m commands preview
  obtain ⟨-, -, -, herror, hlogged, -, -, hmiss, -, hcount⟩ :=
    delivery_ends_at_first_refusal sink #[] commands m "below"
  have hrefuses : sink.RefusesAfter #[] [tile 0] below refusal #[tile 0] :=
    ⟨#[tile 0], .cons rfl (.nil _), rfl⟩
  have hbefore : ∀ other ∈ [tile 0], ¬ Command.MissesBoard 2 1 other := by
    simp only [List.mem_singleton, forall_eq]
    rintro ⟨-, hnowhere⟩
    exact hnowhere 0 (by decide) 0 (by decide) (by decide +kernel)
  have hbelow : Command.MissesBoard 2 1 below := by
    refine ⟨by decide, ?_⟩
    decide +kernel
  refine ⟨hrefuses, (herror refusal _).mpr ⟨_, below, [tile 1], rfl, hrefuses⟩,
    hlogged [tile 0] below [tile 1] rfl refusal _ hrefuses, hbelow,
    (hmiss [tile 0] below [tile 1] rfl hbefore hbelow).2, (hcount .floorValid).trans ?_⟩
  decide

end TileLevel
