import Mathlib
import TileLevel.Proofs.LastWriter
import TileLevel.Proofs.Loads
import TileLevel.Proofs.Tally
import TileLevel.Proofs.WholeFiles

/-!
# What Is Said of a Loaded Level

The status after a load begins anew: it names the level and counts its commands, and then come the
warnings of the level. There are two. One lists the rows that are not as wide as the first, the other
says that the start is off the board, which is the case when a peg is read and the start is at no
cell. The canvas of a level that is mapped with the rules of the puzzle refuses nothing, so there is no
third one.

## Main statements

- `Session.announcement_eq`: the text of a status, warning by warning
- `RuleTable.spawnOffBoard_iff`: when the start is off the board
- `Level.Holds.drawn`: nothing is refused of a level of a size that the format has
- `Session.status_of_load`: the status after a load that succeeds
- `Session.load_warnings_are_exact`: from the text of a level to the status
-/

namespace TileLevel

/-! ## §1 Texts -/

namespace Session

/-- The text that a warning adds to a status. -/
def warningText (message : String) : String :=
  " | Warning: " ++ message

theorem foldl_warningText (messages : List String) (status : String) :
    messages.foldl (fun status message => status ++ " | Warning: " ++ message) status
      = status ++ String.join (messages.map warningText) := by
  induction messages generalizing status with
  | nil => rw [List.foldl_nil, List.map_nil, String.join_nil, String.append_empty]
  | cons message messages ih =>
    rw [List.foldl_cons, ih, List.map_cons, String.join_cons, warningText, String.append_assoc,
      String.append_assoc, String.append_assoc]

/-- **The text of a status** of a level of which nothing was refused. -/
theorem announcement_eq {preview : Preview} {path : String}
    (hsource : preview.level.source = "level:" ++ path) (herror : preview.sinkError = none) :
    announcement preview =
      "Loaded level:" ++ path ++ ": " ++ toString preview.level.commands.length ++ " placements"
        ++ (if preview.summary.raggedRows ≠ [] then
              " | Warning: rows " ++ Preview.listText preview.summary.raggedRows
                ++ " differ from row 0 width " ++ toString preview.summary.columns
            else "")
        ++ (if preview.canvas.spawnOffBoard then " | Warning: player spawn is outside the board"
            else "") := by
  have htitle : "Loaded " ++ preview.level.source = "Loaded level:" ++ path := by
    rw [hsource, ← String.append_assoc]
    rfl
  -- a preview has up to three warnings, and the one of a refusal is missing here
  simp only [announcement, foldl_warningText, Preview.warnings, herror, List.append_nil,
    List.map_append, String.join_append, htitle, ite_not]
  rw [← String.append_assoc]
  congr 2 <;> split_ifs <;> simp [warningText, String.join_cons, ← String.append_assoc]

end Session

/-! ## §2 The start of a level -/

/-- The rules of the puzzle put every start at the same position. -/
theorem RuleTable.position_of_spawn {m : TokenMatrix} {spawn : Position} {command : Command}
    (h : command ∈ (standard spawn).map m) (hkind : command.kind = .playerSpawn) :
    command.position = spawn := by
  rw [map_eq_readingOrder, mem_readingOrder_iff] at h
  obtain ⟨row, -, column, -, hmem⟩ := h
  obtain ⟨token, emissions, hlookup, emission, hemission, rfl⟩ :=
    exists_emission_of_mem_cellCommands hmem
  rcases emissions_of_lookup_standard hlookup with rfl | rfl | rfl
  · rcases List.mem_pair.mp hemission with rfl | rfl
    · -- the floor under the peg is no start
      cases hkind
    · rfl
  · obtain rfl := List.mem_singleton.mp hemission
    cases hkind
  · obtain rfl := List.mem_singleton.mp hemission
    cases hkind

/-- There is a start command just when a peg is read. -/
theorem RuleTable.isSome_lastStart?_iff (m : TokenMatrix) (spawn : Position) :
    (Canvas.lastStart? ((standard spawn).map m)).isSome
      ↔ ∃ row < m.rowCount, ∃ column < m.columnBound, m.get? row column = some peg := by
  have hcount : (((standard spawn).map m).filter (·.kind = .playerSpawn)).length
      = (m.cellsHolding [peg]).card := by
    rw [← List.countP_eq_length_filter]
    exact countP_map_standard spawn m .playerSpawn
  rw [Canvas.lastStart?, List.getLast?_isSome, ← List.length_pos_iff, hcount, Finset.card_pos]
  constructor
  · rintro ⟨⟨row, column⟩, hmem⟩
    obtain ⟨hrow, hcolumn, token, htoken, hpeg⟩ := TokenMatrix.mem_cellsHolding_iff.mp hmem
    obtain rfl := List.mem_singleton.mp htoken
    exact ⟨row, hrow, column, hcolumn, hpeg⟩
  · rintro ⟨row, hrow, column, hcolumn, hpeg⟩
    have hmem := List.mem_singleton_self peg
    exact ⟨(row, column), TokenMatrix.mem_cellsHolding_iff.mpr ⟨hrow, hcolumn, peg, hmem, hpeg⟩⟩

/-- **The start is off the board** if a peg is read and the start is at no cell. -/
theorem RuleTable.spawnOffBoard_iff (m : TokenMatrix) (spawn : Position) :
    ((Canvas.forMatrix m).putAll ((standard spawn).map m)).spawnOffBoard ↔
      (∃ row < m.rowCount, ∃ column < m.columnBound, m.get? row column = some peg)
        ∧ ∀ column < m.columnBound, ∀ row < m.rowCount, ¬ spawn.IsAt column row := by
  rw [← isSome_lastStart?_iff m spawn]
  have hstart := Canvas.start_putAll (.forMatrix m) ((standard spawn).map m)
  cases hlast : Canvas.lastStart? ((standard spawn).map m) with
  | none =>
    -- no start command, so none that is off the board
    rw [hlast] at hstart
    have hoff : ((Canvas.forMatrix m).putAll ((standard spawn).map m)).spawnOffBoard = false :=
      congrArg Prod.snd hstart
    simp [hoff]
  | some command =>
    have hcommand := List.mem_filter.mp (List.mem_of_getLast? hlast)
    have hposition := position_of_spawn hcommand.1 (of_decide_eq_true hcommand.2)
    have hat := Canvas.startsAt_startAt (.forMatrix m) spawn
    simp only [hlast, hposition] at hstart
    rw [← hstart] at hat
    rw [Option.isSome_some, and_iff_right rfl]
    constructor
    · intro hoff column hcolumn row hrow hcell
      have hon : ((Canvas.forMatrix m).putAll ((standard spawn).map m)).spawnOffBoard = false :=
        congrArg Prod.snd (hat.on_board column hcolumn row hrow hcell)
      rw [hon] at hoff
      cases hoff
    · intro hoff
      exact congrArg Prod.snd (hat.off_board hoff)

/-! ## §3 Loads -/

/-- **The canvas of a level** of a size that the format has exactly takes all commands of the level,
    and so none is refused. -/
theorem Level.Holds.drawn {level : Level} {separators : Separators} {table : RuleTable}
    {path text : String} (h : level.Holds separators table path text)
    (hfixed : table.FixesOnlyStarts) (hrows : level.matrix.rowCount ≤ 2 ^ 24)
    (hcolumns : level.matrix.columnBound ≤ 2 ^ 24) :
    (Preview.ofLevel level).sinkError = none
      ∧ (Preview.ofLevel level).canvas
        = (Canvas.forMatrix level.matrix).putAll (table.map level.matrix) := by
  have hholds : (Canvas.forMatrix level.matrix).Holds level.matrix :=
    Canvas.holds_forMatrix hrows hcolumns
  have hdelivered := hholds.instantiateAll_map hfixed
  rw [← h.commands] at hdelivered ⊢
  constructor
  · simp only [Preview.ofLevel, hdelivered]
  · exact congrArg Prod.snd hdelivered

namespace Session

variable {Files : Type} [FileSystem Files] {s : Session} {files : Files} {operation : Operation}
  {path : String} {level : Level}

/-- **The status after a load that succeeds** is what is said of the level, whatever asks for it. -/
theorem status_of_load [NumberPrinter] (h : s.Requests operation path)
    (hload : Level.load files s.config path = .ok level) :
    (s.perform files operation).1.status = some (announcement (.ofLevel level))
      ∧ (s.perform files operation).1.preview = some (.ofLevel level) := by
  have hat : Level.load files (s.atEvent operation).config path = .ok level := by
    rwa [config_atEvent]
  rw [perform_of_requests h, load_eq_of_ok hat]
  exact ⟨rfl, rfl⟩

/-- **The warnings of a load are exact.** In every session that a run leads to, an operation that
    loads a level of a size that the format has exactly leaves a status that says where the level came
    from and how many commands the text of its file gives. Then it lists, in ascending order, the rows
    that are not as wide as the first one, if there are any, and tells that the start is off the
    board, if a peg stands left of the width and the start is at no cell. Nothing else is said,
    neither of what was before nor of a refusal: there is none. -/
theorem load_warnings_are_exact [NumberPrinter] (config : LevelConfig) (steps : List (Step Files))
    (files : Files) (operation : Operation) (path : String) (level : Level) :
    let s := (start config).run steps
    let after := (s.perform files operation).1
    let m := level.matrix
    s.Requests operation path → Level.load files config path = .ok level →
      m.rowCount ≤ 2 ^ 24 → m.columnBound ≤ 2 ^ 24 →
      ∃ text rows, FileSystem.read files path = .ok text.toUTF8
        ∧ level.Holds config.separators (.standard config.spawn) path text
        ∧ rows.Pairwise (· < ·)
        ∧ (∀ y, y ∈ rows ↔ y < m.rowCount ∧ m.rowWidth y ≠ m.rowWidth 0)
        ∧ after.preview = some (.ofLevel level) ∧ (Preview.ofLevel level).sinkError = none
        ∧ after.status = some
          ("Loaded level:" ++ path ++ ": " ++ toString level.commands.length ++ " placements"
            ++ (if ∃ y < m.rowCount, m.rowWidth y ≠ m.rowWidth 0 then
                  " | Warning: rows " ++ Preview.listText rows ++ " differ from row 0 width "
                    ++ toString (m.rowWidth 0)
                else "")
            ++ (if (∃ row < m.rowCount, ∃ column < m.columnBound,
                    m.get? row column = some RuleTable.peg)
                  ∧ ∀ column < m.columnBound, ∀ row < m.rowCount,
                    ¬ config.spawn.IsAt column row then
                  " | Warning: player spawn is outside the board"
                else "")) := by
  intro s after m hrequests hload hrows hcolumns
  obtain ⟨text, hread, hholds⟩ := Level.loadWith_eq_ok_iff.mp hload
  have hconfig : s.config = config := config_run config steps
  rw [← hconfig] at hload
  obtain ⟨hstatus, hpreview⟩ := status_of_load hrequests hload
  obtain ⟨herror, hdrawn⟩ :=
    hholds.drawn (RuleTable.fixesOnlyStarts_standard config.spawn) hrows hcolumns
  refine ⟨text, m.raggedRows, hread, hholds, m.pairwise_raggedRows,
    fun y => TokenMatrix.mem_raggedRows_iff, hpreview, herror, ?status⟩
  case status =>
    have hragged : (Preview.ofLevel level).summary.raggedRows ≠ []
        ↔ ∃ y < m.rowCount, m.rowWidth y ≠ m.rowWidth 0 := by
      have hlisted : (Preview.ofLevel level).summary.raggedRows = m.raggedRows := rfl
      rw [ne_eq, hlisted, TokenMatrix.raggedRows_eq_nil_iff]
      push Not
      rfl
    have hstray := RuleTable.spawnOffBoard_iff m config.spawn
    rw [← hdrawn] at hstray
    -- the two conditions are those of the statement, the texts are the same
    rw [hstatus, announcement_eq hholds.source herror, if_congr hragged rfl rfl,
      if_congr hstray rfl rfl]
    rfl

/-- A level with a short row and a long one, which is asked for at the command deck while the status
    shows the help text. The start is to the right of all cells. -/
theorem load_warnings_are_exact_stray :
    let config : LevelConfig := { spawn := .floor 5 0 }
    let text := "* O\r\nO\r\n? O *"
    let files : FileTree := { entries := [(["a"], .file text.toUTF8)] }
    let steps : List (Step FileTree) :=
      [⟨{}, .handle .help⟩, ⟨{}, .press ':'⟩, ⟨{}, .type '@'⟩, ⟨{}, .type 'a'⟩]
    let s := (start config).run steps
    s.status = some helpText
      ∧ s.Requests .submit "a"
      ∧ (s.perform files .submit).1.status = some
        ("Loaded level:a: 5 placements | Warning: rows [1, 2] differ from row 0 width 2"
          ++ " | Warning: player spawn is outside the board") := by
  intro config text files steps s
  have hrequests : s.Requests .submit "a" := .submitLoad (by decide +kernel)
  have hreading : Reading.from? files "a" = some ⟨"a", text⟩ := by decide +kernel
  have hload := Reading.load_eq_ok hreading config
  have hmatrix : (Reading.level config ⟨"a", text⟩).matrix
      = { rows := #[#["*", "O"], #["O"], #["?", "O", "*"]] } := by decide +kernel
  obtain ⟨text', rows, -, hholds, hascending, hrows, -, -, hstatus⟩ :=
    load_warnings_are_exact config steps files .submit "a" _ hrequests hload
      (by rw [hmatrix]; decide) (by rw [hmatrix]; decide)
  have hlisted : rows = [1, 2] := by
    -- only one ascending list has these members
    have hragged := hascending.eq_of_mem_iff (TokenMatrix.pairwise_raggedRows _) fun y =>
      (hrows y).trans TokenMatrix.mem_raggedRows_iff.symm
    rw [hragged, hmatrix]
    decide
  have hcount : (Reading.level config ⟨"a", text⟩).commands.length = 5 := by
    rw [hholds.commands, hmatrix, RuleTable.map_eq_readingOrder]
    decide +kernel
  refine ⟨by decide +kernel, hrequests, hstatus.trans ?_⟩
  rw [hmatrix, hlisted, hcount]
  decide +kernel

end Session

end TileLevel
