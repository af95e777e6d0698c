import Mathlib
import TileLevel.Proofs.Coverage
import TileLevel.Proofs.Legend

/-!
# What a Summary Counts

The counts of a summary are numbers of commands, whatever the order of the commands, and every command
is counted under one kind. For a level that is mapped with the rules of the puzzle they are numbers of
cells as well: those left of the first row's width that hold a token of the kind. A peg is counted
twice, as a valid tile and as a start, and what is not read is not counted.

## Main definitions

- `TokenMatrix.cellsHolding`: the cells that hold one of some tokens
- `RuleTable.tokensFor`: the tokens of the puzzle that place a kind

## Main statements

- `LevelSummary.sum_count_ofCommands`, `LevelSummary.ofCommands_perm`: counts of commands
- `TokenMatrix.card_cellsHolding`: cells are as many as the tokens that are read
- `RuleTable.countP_map_standard`: counts of cells
- `summary_counts_commands_and_cells`: both together
-/

namespace TileLevel

/-! ## §1 Counts of commands -/

/-- Every command has one of the four kinds. -/
theorem sum_countP_kind (commands : List Command) :
    (Kind.all.map fun kind => commands.countP (·.kind = kind)).sum = commands.length := by
  induction commands with
  | nil => rfl
  | cons command commands ih =>
    simp only [Kind.all, List.map_cons, List.map_nil, List.sum_cons, List.sum_nil] at ih ⊢
    cases hkind : command.kind <;> simp [hkind] <;> omega

namespace LevelSummary

/-- **Every command is counted once.** -/
theorem sum_count_ofCommands (commands : List Command) :
    (Kind.all.map (ofCommands commands).count).sum = commands.length := by
  rw [← sum_countP_kind commands, funext (count_ofCommands commands)]

theorem floorTiles_add_spawns (commands : List Command) :
    (ofCommands commands).floorTiles + (ofCommands commands).spawns = commands.length := by
  rw [← sum_count_ofCommands commands]
  simp only [Kind.all, List.map_cons, List.map_nil, List.sum_cons, List.sum_nil, floorTiles, count]
  omega

/-- **Counts add up** over lists put together. -/
theorem count_ofCommands_append (commands others : List Command) (kind : Kind) :
    (ofCommands (commands ++ others)).count kind
      = (ofCommands commands).count kind + (ofCommands others).count kind := by
  rw [count_ofCommands, count_ofCommands, count_ofCommands, List.countP_append]

theorem countCommand_right_comm (summary : LevelSummary) (a b : Command) :
    (summary.countCommand a).countCommand b = (summary.countCommand b).countCommand a := by
  unfold countCommand
  cases a.kind <;> cases b.kind <;> rfl

/-- **The order of commands** does not matter to a summary. -/
theorem ofCommands_perm {commands others : List Command} (h : commands.Perm others) :
    ofCommands commands = ofCommands others := by
  have : RightCommutative countCommand := ⟨countCommand_right_comm⟩
  exact h.foldl_eq _

end LevelSummary

/-! ## §2 Cells that hold a token -/

namespace TokenMatrix

variable {m : TokenMatrix}

/-- The cells left of the first row's width that hold one of some tokens. -/
def cellsHolding (m : TokenMatrix) (tokens : List String) : Finset (ℕ × ℕ) :=
  (Finset.range m.rowCount ×ˢ Finset.range m.columnBound).filter fun (row, column) =>
    ∃ token ∈ tokens, m.get? row column = some token

theorem mem_cellsHolding_iff {tokens : List String} {row column : ℕ} :
    (row, column) ∈ m.cellsHolding tokens ↔ row < m.rowCount ∧ column < m.columnBound
      ∧ ∃ token ∈ tokens, m.get? row column = some token := by
  simp [cellsHolding, and_assoc]

/-- A token that comes before another one stands in another cell. -/
theorem Entry.Before.place_ne {a b : Entry} (h : a.Before b) :
    (a.row, a.column) ≠ (b.row, b.column) := by
  rintro heq
  obtain ⟨hrow, hcolumn⟩ := Prod.mk.inj heq
  rcases h with hlt | ⟨-, hlt⟩ <;> omega

/-- **The cells that hold some tokens** are as many as these tokens among those that are read. -/
theorem card_cellsHolding (m : TokenMatrix) (tokens : List String) :
    (m.cellsHolding tokens).card =
      (m.entries.filter (·.column < m.columnBound)).countP (·.token ∈ tokens) := by
  rw [List.countP_eq_length_filter, List.filter_filter]
  set held := m.entries.filter
    fun entry => decide (entry.token ∈ tokens) && decide (entry.column < m.columnBound) with hheld
  have hnodup : (held.map fun entry => (entry.row, entry.column)).Nodup := by
    rw [List.nodup_iff_pairwise_ne, List.pairwise_map]
    exact (m.pairwise_entries.filter _).imp Entry.Before.place_ne
  have hcells : m.cellsHolding tokens
      = (held.map fun entry => (entry.row, entry.column)).toFinset := by
    ext ⟨row, column⟩
    simp only [mem_cellsHolding_iff, hheld, List.mem_toFinset, List.mem_map, List.mem_filter,
      Bool.and_eq_true, decide_eq_true_eq, Prod.mk.injEq]
    constructor
    · rintro ⟨-, hcolumn, token, htokens, htoken⟩
      exact ⟨⟨row, column, token⟩, ⟨mem_entries_iff.mpr htoken, htokens, hcolumn⟩, rfl, rfl⟩
    · rintro ⟨entry, ⟨hentry, htokens, hcolumn⟩, rfl, rfl⟩
      exact ⟨row_lt_of_mem_entries hentry, hcolumn, entry.token, htokens,
        mem_entries_iff.mp hentry⟩
  rw [hcells, List.toFinset_card_of_nodup hnodup, List.length_map]

end TokenMatrix

/-! ## §3 Counts of cells -/

/-- Lists for the elements of a list, each of which has one hit or none. -/
theorem countP_flatMap_eq {α β : Type} {l : List α} {f : α → List β} {hit : β → Bool}
    {has : α → Bool} (h : ∀ a ∈ l, (f a).countP hit = if has a then 1 else 0) :
    (l.flatMap f).countP hit = l.countP has := by
  induction l with
  | nil => rfl
  | cons a l ih =>
    have hrest : ∀ b ∈ l, (f b).countP hit = if has b then 1 else 0 :=
      fun b hb => h b (List.mem_cons_of_mem a hb)
    rw [List.flatMap_cons, List.countP_append, h a List.mem_cons_self, ih hrest, List.countP_cons,
      Nat.add_comm]

namespace RuleTable

/-- The tokens of the puzzle that place something of a kind. -/
def tokensFor : Kind → List String
  | .floorValid => [peg, hole]
  | .floorObstacle => [out]
  | .floorCheckpoint => []
  | .playerSpawn => [peg]

/-- A token of the puzzle places one thing of each of its kinds. -/
theorem countP_entryCommands_standard (spawn : Position) (kind : Kind)
    (entry : TokenMatrix.Entry) :
    ((standard spawn).entryCommands entry).countP (·.kind = kind) =
      if entry.token ∈ tokensFor kind then 1 else 0 := by
  rw [entryCommands, lookup_standard]
  by_cases hpeg : entry.token = peg
  · rw [if_pos hpeg, hpeg]
    cases kind <;> rfl
  by_cases hhole : entry.token = hole
  · rw [if_neg hpeg, if_pos hhole, hhole]
    cases kind <;> rfl
  by_cases hout : entry.token = out
  · rw [if_neg hpeg, if_neg hhole, if_pos hout, hout]
    cases kind <;> rfl
  · -- any other token has no rule
    rw [if_neg hpeg, if_neg hhole, if_neg hout]
    cases kind <;> simp [tokensFor, hpeg, hhole, hout]

/-- **The commands of each kind** are as many as the cells that hold a token for it. -/
theorem countP_map_standard (spawn : Position) (m : TokenMatrix) (kind : Kind) :
    ((standard spawn).map m).countP (·.kind = kind) = (m.cellsHolding (tokensFor kind)).card := by
  rw [map_eq_flatMap_entries, TokenMatrix.card_cellsHolding]
  apply countP_flatMap_eq
  intro entry _
  simpa using countP_entryCommands_standard spawn kind entry

end RuleTable

/-! ## §4 All together -/

/-- **A summary counts commands and cells.** For any commands, each count is the number of commands
    of its kind, and all four together are the number of commands; they add up over lists put
    together and are the same in any order. For a level mapped with the rules of the puzzle, the
    valid tiles are the cells left of the width that hold a peg or a hole, the obstacles those that
    are out, the starts those that hold a peg, and there are no checkpoints. -/
theorem summary_counts_commands_and_cells (commands others : List Command) (m : TokenMatrix)
    (spawn : Position) :
    let summary := LevelSummary.ofCommands commands
    let described := LevelSummary.describe m ((RuleTable.standard spawn).map m)
    (∀ kind, summary.count kind = commands.countP (·.kind = kind))
      ∧ (∀ kind, (LevelSummary.describe m commands).count kind = summary.count kind)
      ∧ (Kind.all.map summary.count).sum = commands.length
      ∧ summary.floorTiles + summary.spawns = commands.length
      ∧ (∀ kind, (LevelSummary.ofCommands (commands ++ others)).count kind
        = summary.count kind + (LevelSummary.ofCommands others).count kind)
      ∧ (commands.Perm others → LevelSummary.ofCommands others = summary)
      ∧ described.valid = (m.cellsHolding [RuleTable.peg, RuleTable.hole]).card
      ∧ described.obstacles = (m.cellsHolding [RuleTable.out]).card
      ∧ described.spawns = (m.cellsHolding [RuleTable.peg]).card
      ∧ described.checkpoints = 0 := by
  intro summary described
  have hcells : ∀ kind, described.count kind = (m.cellsHolding (RuleTable.tokensFor kind)).card := by
    intro kind
    rw [LevelSummary.count_describe, RuleTable.countP_map_standard]
  refine ⟨LevelSummary.count_ofCommands commands, ?described,
    LevelSummary.sum_count_ofCommands commands, LevelSummary.floorTiles_add_spawns commands,
    LevelSummary.count_ofCommands_append commands others,
    fun hperm => (LevelSummary.ofCommands_perm hperm).symm, hcells .floorValid,
    hcells .floorObstacle, hcells .playerSpawn, ?checkpoints⟩
  case described =>
    intro kind
    rw [LevelSummary.count_describe, LevelSummary.count_ofCommands]
  case checkpoints =>
    have hnone : m.cellsHolding (RuleTable.tokensFor .floorCheckpoint) = ∅ := by
      simp [TokenMatrix.cellsHolding, RuleTable.tokensFor]
    exact (hcells .floorCheckpoint).trans (by rw [hnone, Finset.card_empty])

/-- A level with a short row and a long one, whose commands are also counted backwards. -/
theorem summary_counts_commands_and_cells_ragged :
    let m : TokenMatrix := { rows := #[#["*", "O"], #["█"], #["?", "*", "*"]] }
    let commands := (RuleTable.standard .defaultSpawn).map m
    commands.Perm commands.reverse
      ∧ LevelSummary.ofCommands commands.reverse = LevelSummary.ofCommands commands
      ∧ (LevelSummary.describe m commands).valid = 3
      ∧ (LevelSummary.describe m commands).obstacles = 1
      ∧ (LevelSummary.describe m commands).spawns = 2 := by
  intro m commands
  have hperm : commands.Perm commands.reverse := (List.reverse_perm commands).symm
  obtain ⟨-, -, -, -, -, hsame, hvalid, hobstacles, hspawns, -⟩ :=
    summary_counts_commands_and_cells commands commands.reverse m .defaultSpawn
  refine ⟨hperm, hsame hperm, ?_, ?_, ?_⟩
  · exact hvalid.trans (by decide)
  · exact hobstacles.trans (by decide)
  · exact hspawns.trans (by decide)

end TileLevel
