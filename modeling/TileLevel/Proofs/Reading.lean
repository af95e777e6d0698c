import Mathlib
import TileLevel.Mapping

/-!
# The Reading Order

Reading a level one command at a time gives what two nested loops over its rows and columns give.
The proof ties each state of a half-read level to the commands that are still to come: those of the
open cell, those of the rest of its row and those of the rows below. One turn of the reading loop
leaves them as they are or takes the first of them away.

## Main definitions

- `RuleTable.readingOrder`: the two nested loops
- `Placements.unread`: the commands to come in a state of reading
- `Placements.Coherent`: the states that reading can be in

## Main statements

- `Placements.turn_accounts`, `Placements.next_accounts`: what a turn and a call do to the commands
  to come
- `RuleTable.map_eq_readingOrder`: reading a whole level
- `placements_refine_readingOrder`: reading a level in any portions
-/

namespace TileLevel

/-! ## §1 Two nested loops -/

namespace RuleTable

/-- The commands of a cell: none for a missing cell or a token without a rule. -/
def cellCommands (table : RuleTable) (m : TokenMatrix) (row column : Nat) : List Command :=
  match (m.rows[row]?.bind (·[column]?)).bind table.lookup with
  | some emissions => emissions.map (·.resolve column row)
  | none => []

/-- The commands of a row, up to the size of the first row. -/
def rowCommands (table : RuleTable) (m : TokenMatrix) (row : Nat) : List Command :=
  (List.range (m.rows[0]?.elim 0 Array.size)).flatMap (table.cellCommands m row)

/-- The commands of all rows. -/
def readingOrder (table : RuleTable) (m : TokenMatrix) : List Command :=
  (List.range m.rows.size).flatMap (table.rowCommands m)

variable {table : RuleTable} {m : TokenMatrix} {row column : Nat}

theorem cellCommands_eq_elim (table : RuleTable) (m : TokenMatrix) (row column : Nat) :
    table.cellCommands m row column =
      ((m.get? row column).bind table.lookup).elim [] (·.map (·.resolve column row)) := by
  unfold cellCommands TokenMatrix.get?
  cases (m.rows[row]?.bind (·[column]?)).bind table.lookup <;> rfl

/-- The bound that reading keeps is the size of the first row. -/
theorem rowCommands_eq_flatMap (table : RuleTable) (m : TokenMatrix) (row : Nat) :
    table.rowCommands m row =
      (List.range m.columnBound).flatMap (table.cellCommands m row) := by
  unfold rowCommands TokenMatrix.columnBound TokenMatrix.rowWidth
  cases m.rows[0]? <;> rfl

theorem readingOrder_eq_flatMap (table : RuleTable) (m : TokenMatrix) :
    table.readingOrder m = (List.range m.rowCount).flatMap (table.rowCommands m) := rfl

/-! ### Parts of a level -/

/-- The commands of a row from a column on. -/
def restOfRow (table : RuleTable) (m : TokenMatrix) (row column : Nat) : List Command :=
  (List.range' column (m.columnBound - column)).flatMap (table.cellCommands m row)

/-- The commands of the rows from one on. -/
def restOfRows (table : RuleTable) (m : TokenMatrix) (row : Nat) : List Command :=
  (List.range' row (m.rowCount - row)).flatMap (table.rowCommands m)

theorem restOfRow_eq_cons (h : column < m.columnBound) :
    table.restOfRow m row column
      = table.cellCommands m row column ++ table.restOfRow m row (column + 1) := by
  obtain ⟨width, hwidth⟩ : ∃ width, m.columnBound - column = width + 1 :=
    ⟨m.columnBound - column - 1, by omega⟩
  have hwidth' : m.columnBound - (column + 1) = width := by omega
  rw [restOfRow, restOfRow, hwidth, hwidth', List.range'_succ, List.flatMap_cons]

theorem restOfRow_eq_nil (h : m.columnBound ≤ column) : table.restOfRow m row column = [] := by
  simp [restOfRow, Nat.sub_eq_zero_of_le h]

theorem restOfRow_zero : table.restOfRow m row 0 = table.rowCommands m row := by
  rw [restOfRow, rowCommands_eq_flatMap, Nat.sub_zero, List.range_eq_range']

theorem restOfRows_eq_cons (h : row < m.rowCount) :
    table.restOfRows m row = table.rowCommands m row ++ table.restOfRows m (row + 1) := by
  obtain ⟨height, hheight⟩ : ∃ height, m.rowCount - row = height + 1 :=
    ⟨m.rowCount - row - 1, by omega⟩
  have hheight' : m.rowCount - (row + 1) = height := by omega
  rw [restOfRows, restOfRows, hheight, hheight', List.range'_succ, List.flatMap_cons]

theorem restOfRows_eq_nil (h : m.rowCount ≤ row) : table.restOfRows m row = [] := by
  simp [restOfRows, Nat.sub_eq_zero_of_le h]

theorem restOfRows_zero : table.restOfRows m 0 = table.readingOrder m := by
  rw [restOfRows, readingOrder_eq_flatMap, Nat.sub_zero, List.range_eq_range']

theorem rowCommands_eq_nil (h : m.columnBound = 0) : table.rowCommands m row = [] := by
  simp [rowCommands_eq_flatMap, h]

end RuleTable

namespace Placements

variable {p : Placements}

/-! ## §2 The commands to come -/

/-- The commands of the open cell that have not been handed out. -/
def openCommands (p : Placements) : List Command :=
  match p.pending with
  | some cell => cell.emissions.map (·.resolve cell.column cell.row)
  | none => []

/-- The commands of the cells that have not been visited. -/
def aheadCommands (p : Placements) : List Command :=
  if p.row < p.matrix.rowCount then
    p.table.restOfRow p.matrix p.row p.column ++ p.table.restOfRows p.matrix (p.row + 1)
  else []

/-- The commands to come. -/
def unread (p : Placements) : List Command :=
  p.openCommands ++ p.aheadCommands

/-- The states that reading can be in: the bound is that of the level, and the next cell is below
    it. -/
structure Coherent (p : Placements) : Prop where
  bound_eq : p.columnBound = p.matrix.columnBound
  column_lt : 0 < p.columnBound → p.column < p.columnBound

theorem coherent_placements (table : RuleTable) (m : TokenMatrix) :
    (table.placements m).Coherent where
  bound_eq := rfl
  column_lt h := h

theorem unread_placements (table : RuleTable) (m : TokenMatrix) :
    (table.placements m).unread = table.readingOrder m := by
  unfold unread openCommands aheadCommands RuleTable.placements
  dsimp only
  rw [List.nil_append, ← RuleTable.restOfRows_zero, RuleTable.restOfRow_zero]
  split
  case isTrue h => rw [RuleTable.restOfRows_eq_cons h]
  case isFalse h => rw [RuleTable.restOfRows_eq_nil (by omega)]

/-- At the end no cell is ahead. -/
theorem aheadCommands_eq_nil (hp : p.Coherent)
    (hend : p.columnBound = 0 ∨ p.matrix.rowCount ≤ p.row) : p.aheadCommands = [] := by
  unfold aheadCommands
  split
  case isFalse => rfl
  case isTrue hrow =>
    -- rows are left, so it is the bound that leaves no cell
    have hbound : p.matrix.columnBound = 0 := by
      rw [← hp.bound_eq]
      omega
    rw [RuleTable.restOfRow_eq_nil (by omega), RuleTable.restOfRows, List.nil_append]
    simp [RuleTable.rowCommands_eq_nil hbound]

theorem coherent_visit (hp : p.Coherent) : p.visit.Coherent where
  bound_eq := hp.bound_eq
  column_lt h := by
    simp only [visit] at h ⊢
    split <;> omega

/-- Visiting a cell opens it, and the cells behind it stay ahead. -/
theorem unread_visit (hp : p.Coherent) (hbound : p.columnBound ≠ 0)
    (hrow : p.row < p.matrix.rowCount) : p.visit.unread = p.aheadCommands := by
  have hcolumn : p.column < p.matrix.columnBound := by
    rw [← hp.bound_eq]
    exact hp.column_lt (by omega)
  -- a cell without a rule and one with an empty rule are both opened without commands
  have hopen : p.visit.openCommands = p.table.cellCommands p.matrix p.row p.column := by
    rw [RuleTable.cellCommands_eq_elim]
    unfold openCommands visit
    cases (p.matrix.get? p.row p.column).bind p.table.lookup <;> rfl
  have hahead : p.visit.aheadCommands
      = p.table.restOfRow p.matrix p.row (p.column + 1)
        ++ p.table.restOfRows p.matrix (p.row + 1) := by
    unfold aheadCommands visit
    dsimp only
    rw [hp.bound_eq]
    by_cases hnext : p.column + 1 < p.matrix.columnBound
    · -- the next cell is in the same row
      simp only [if_pos hnext, if_pos hrow]
    · -- the next cell is the first one of the row below, if there is one
      simp only [if_neg hnext, RuleTable.restOfRow_zero]
      rw [RuleTable.restOfRow_eq_nil (by omega), List.nil_append]
      split
      case isTrue h => rw [RuleTable.restOfRows_eq_cons h]
      case isFalse h => rw [RuleTable.restOfRows_eq_nil (by omega)]
  rw [unread, hopen, hahead, aheadCommands, if_pos hrow, RuleTable.restOfRow_eq_cons hcolumn,
    List.append_assoc]

end Placements

/-! ## §3 One turn, one call -/

/-- A turn accounts for the commands to come: its answer is the first of them, if there is one, and
    the others are still to come. -/
def Turn.Accounts (commands : List Command) : Turn → Prop
  | .answer command rest =>
    rest.Coherent ∧ command = commands.head? ∧ rest.unread = commands.tail
  | .visited rest => rest.Coherent ∧ rest.unread = commands

namespace Placements

variable {p : Placements}

private theorem openCommands_eq_nil
    (hnone : ∀ column row emission emissions,
      p.pending = some { column, row, emissions := emission :: emissions } → False) :
    p.openCommands = [] := by
  unfold openCommands
  split
  case h_2 => rfl
  case h_1 cell hpending =>
    cases hemissions : cell.emissions with
    | nil => rfl
    | cons emission emissions =>
      refine (hnone cell.column cell.row emission emissions ?_).elim
      rw [hpending, ← hemissions]

/-- **One turn** accounts for the commands to come. -/
theorem turn_accounts (hp : p.Coherent) : p.turn.Accounts p.unread := by
  unfold turn
  split
  case h_1 column row emission emissions hpending =>
    -- the open cell has an emission left, which is the first command to come
    refine ⟨⟨hp.bound_eq, hp.column_lt⟩, ?_, ?_⟩
    · simp [unread, openCommands, hpending]
    · simp [unread, openCommands, aheadCommands, hpending]
  case h_2 hnone =>
    have hopen := openCommands_eq_nil hnone
    split
    case isTrue hend =>
      -- nothing is ahead either
      have hahead := aheadCommands_eq_nil hp hend
      have hunread : p.unread = [] := by rw [unread, hopen, hahead, List.append_nil]
      rw [hunread]
      exact ⟨⟨hp.bound_eq, hp.column_lt⟩, rfl, hahead⟩
    case isFalse hmore =>
      -- one more cell is visited: what it puts is now open, but still to come
      rw [not_or, Nat.not_le] at hmore
      obtain ⟨hbound, hrow⟩ := hmore
      constructor
      · exact coherent_visit hp
      · rw [unread_visit hp hbound hrow, unread, hopen, List.nil_append]

/-- **One call**: the loop ends with an answer that accounts for the commands to come. -/
theorem next_accounts (hp : p.Coherent) : (Turn.answer p.next.1 p.next.2).Accounts p.unread := by
  fun_induction next p with
  | case1 p command rest hturn =>
    have haccounts := turn_accounts hp
    rwa [hturn] at haccounts
  | case2 p rest hturn ih =>
    -- a visit leaves the commands to come as they are, so the next turns account for them
    have haccounts := turn_accounts hp
    rw [hturn] at haccounts
    obtain ⟨hrest, hunread⟩ := haccounts
    rw [← hunread]
    exact ih hrest

theorem coherent_next (hp : p.Coherent) : p.next.2.Coherent :=
  (next_accounts hp).1

theorem next_eq_head? (hp : p.Coherent) : p.next.1 = p.unread.head? :=
  (next_accounts hp).2.1

theorem unread_next (hp : p.Coherent) : p.next.2.unread = p.unread.tail :=
  (next_accounts hp).2.2

theorem unread_eq_cons_of_next {rest : Placements} {command : Command} (hp : p.Coherent)
    (h : p.next = (some command, rest)) : rest.Coherent ∧ p.unread = command :: rest.unread := by
  have haccounts := next_accounts hp
  rw [h] at haccounts
  obtain ⟨hrest, hhead, htail⟩ := haccounts
  obtain ⟨commands, hcommands⟩ := List.head?_eq_some_iff.mp hhead.symm
  rw [hcommands, List.tail_cons] at htail
  exact ⟨hrest, by rw [hcommands, htail]⟩

theorem unread_eq_nil_of_next {rest : Placements} (hp : p.Coherent) (h : p.next = (none, rest)) :
    rest.Coherent ∧ p.unread = [] ∧ rest.unread = [] := by
  have haccounts := next_accounts hp
  rw [h] at haccounts
  obtain ⟨hrest, hhead, htail⟩ := haccounts
  have hnil : p.unread = [] := List.head?_eq_none_iff.mp hhead.symm
  rw [hnil] at htail
  exact ⟨hrest, hnil, htail⟩

/-! ## §4 The loop ends -/

/-- The loop behind a call, given up after some turns. -/
def nextWithin : Nat → Placements → Option (Option Command × Placements)
  | 0, _ => none
  | turns + 1, p =>
    match p.turn with
    | .answer command rest => some (command, rest)
    | .visited rest => nextWithin turns rest

/-- The loop need not be given up after more turns than there are cells ahead. -/
theorem nextWithin_eq_next {turns : Nat} (h : p.cellsAhead < turns) :
    p.nextWithin turns = some p.next := by
  fun_induction next p generalizing turns with
  | case1 p command rest hturn =>
    obtain ⟨turns, rfl⟩ := Nat.exists_eq_add_one_of_ne_zero (Nat.ne_zero_of_lt h)
    rw [nextWithin, hturn]
  | case2 p rest hturn ih =>
    obtain ⟨turns, rfl⟩ := Nat.exists_eq_add_one_of_ne_zero (Nat.ne_zero_of_lt h)
    rw [nextWithin, hturn]
    have hlt := cellsAhead_lt_of_turn hturn
    apply ih
    omega

/-! ## §5 Many calls -/

/-- The state after some calls. -/
def after : Nat → Placements → Placements
  | 0, p => p
  | calls + 1, p => after calls p.next.2

theorem coherent_after (hp : p.Coherent) (calls : Nat) : (p.after calls).Coherent := by
  induction calls generalizing p with
  | zero => exact hp
  | succ calls ih => exact ih (coherent_next hp)

/-- **Any number of calls**: each takes one command away, until none is left. -/
theorem unread_after (hp : p.Coherent) (calls : Nat) :
    (p.after calls).unread = p.unread.drop calls := by
  induction calls generalizing p with
  | zero => rfl
  | succ calls ih => rw [after, ih (coherent_next hp), unread_next hp, List.drop_tail]

private theorem collect_go_eq (hp : p.Coherent) (taken : List Command) :
    collect.go p taken = taken.reverse ++ p.unread := by
  fun_induction collect.go p taken with
  | case1 p taken rest hnext =>
    have ⟨_, hnil, _⟩ := unread_eq_nil_of_next hp hnext
    rw [hnil, List.append_nil]
  | case2 p taken command rest hnext ih =>
    have ⟨hrest, hcons⟩ := unread_eq_cons_of_next hp hnext
    rw [ih hrest, hcons, List.reverse_cons, List.append_assoc, List.singleton_append]

theorem collect_eq_unread (hp : p.Coherent) : p.collect = p.unread := by
  rw [collect, collect_go_eq hp, List.reverse_nil, List.nil_append]

private theorem take_go_spec (hp : p.Coherent) (count : Nat) (taken : List Command) :
    (take.go count p taken).1 = taken.reverse ++ p.unread.take count
      ∧ (take.go count p taken).2.Coherent
      ∧ (take.go count p taken).2.unread = p.unread.drop count := by
  fun_induction take.go count p taken with
  | case1 p taken => exact ⟨by simp, hp, rfl⟩
  | case2 p taken count rest hnext =>
    -- the end of the level comes before the count is reached
    have ⟨hrest, hnil, hrestNil⟩ := unread_eq_nil_of_next hp hnext
    rw [hnil, hrestNil]
    exact ⟨by simp, hrest, rfl⟩
  | case3 p taken count command rest hnext ih =>
    have ⟨hrest, hcons⟩ := unread_eq_cons_of_next hp hnext
    have ⟨hfirst, hothers⟩ := ih hrest
    rw [hcons, List.take_succ_cons, List.drop_succ_cons]
    exact ⟨by simpa using hfirst, hothers⟩

theorem take_fst (hp : p.Coherent) (count : Nat) : (p.take count).1 = p.unread.take count := by
  rw [take, (take_go_spec hp count []).1, List.reverse_nil, List.nil_append]

theorem coherent_take (hp : p.Coherent) (count : Nat) : (p.take count).2.Coherent :=
  (take_go_spec hp count []).2.1

theorem unread_take (hp : p.Coherent) (count : Nat) :
    (p.take count).2.unread = p.unread.drop count :=
  (take_go_spec hp count []).2.2

/-- Portions of the given sizes, one after the other, and what is left then. -/
def takeEach : List Nat → Placements → List (List Command) × Placements
  | [], p => ([], p)
  | count :: counts, p =>
    let (portion, rest) := p.take count
    let (portions, rest) := takeEach counts rest
    (portion :: portions, rest)

/-- **Any portions** are cut from the commands to come. -/
theorem takeEach_spec (hp : p.Coherent) (counts : List Nat) :
    (p.takeEach counts).1 = counts.splitLengths p.unread
      ∧ (p.takeEach counts).2.Coherent
      ∧ (p.takeEach counts).2.unread = p.unread.drop counts.sum := by
  induction counts generalizing p with
  | nil => exact ⟨rfl, hp, rfl⟩
  | cons count counts ih =>
    have ⟨hportions, hrest, hunread⟩ := ih (coherent_take hp count)
    rw [unread_take hp] at hportions hunread
    refine ⟨?_, hrest, ?_⟩
    · rw [List.splitLengths_cons, ← hportions, ← take_fst hp]
      rfl
    · rw [List.sum_cons, ← List.drop_drop]
      exact hunread

/-! ## §6 The end stays the end -/

/-- An answer without a command leaves a state that gives the same answer again. -/
theorem turn_of_turn_none {rest : Placements} (h : p.turn = .answer none rest) :
    rest.turn = .answer none rest := by
  unfold turn at h
  split at h
  · cases h
  · split at h
    case isTrue hend =>
      cases h
      simp only [turn, if_pos hend]
    case isFalse => cases h

theorem next_of_next_none {rest : Placements} (h : p.next = (none, rest)) :
    rest.next = (none, rest) := by
  fun_induction next p with
  | case1 p command left hturn =>
    cases h
    rw [next, turn_of_turn_none hturn]
  | case2 p left hturn ih => exact ih h

/-- **Once at the end, always at the end**, from any state at all. -/
theorem next_after_eq_none (h : p.next.1 = none) (calls : Nat) : (p.after calls).next.1 = none := by
  induction calls generalizing p with
  | zero => exact h
  | succ calls ih =>
    have hrest : p.next.2.next = (none, p.next.2) := next_of_next_none (Prod.ext h rfl)
    apply ih
    rw [hrest]

end Placements

/-! ## §7 Whole levels -/

theorem RuleTable.map_eq_readingOrder (table : RuleTable) (m : TokenMatrix) :
    table.map m = table.readingOrder m := by
  have hp := Placements.coherent_placements table m
  rw [RuleTable.map, Placements.collect_eq_unread hp, Placements.unread_placements]

/-- Two tables read a level in one order, so what relates the commands of each cell relates all of
    them. -/
theorem RuleTable.forall₂_map {R : Command → Command → Prop} {a b : RuleTable} {m : TokenMatrix}
    (h : ∀ row column, List.Forall₂ R (a.cellCommands m row column) (b.cellCommands m row column)) :
    List.Forall₂ R (a.map m) (b.map m) := by
  have hsame (numbers : List ℕ) : List.Forall₂ (· = ·) numbers numbers :=
    List.forall₂_refl numbers
  rw [map_eq_readingOrder, map_eq_readingOrder]
  apply List.rel_flatMap (hsame _)
  rintro row _ rfl
  apply List.rel_flatMap (hsame _)
  rintro column _ rfl
  exact h row column

/-- **Reading one by one refines the two nested loops.** The answers to the calls are the commands
    of the loops in their order and `none` after the last; whatever the number of calls, and whatever
    the portions in which commands are taken, those still to come are the rest of that list. Each
    call's loop ends, within one turn more than a bound on the cells ahead, and once a call has
    answered `none`, all later ones do. -/
theorem placements_refine_readingOrder (table : RuleTable) (m : TokenMatrix) :
    table.map m = table.readingOrder m
      ∧ (∀ calls, ((table.placements m).after calls).next.1 = (table.readingOrder m)[calls]?)
      ∧ (∀ calls,
        ((table.placements m).after calls).collect = (table.readingOrder m).drop calls)
      ∧ (∀ counts,
        ((table.placements m).takeEach counts).1 = counts.splitLengths (table.readingOrder m)
          ∧ ((table.placements m).takeEach counts).2.collect
            = (table.readingOrder m).drop counts.sum)
      ∧ (∀ p : Placements, p.nextWithin (p.cellsAhead + 1) = some p.next)
      ∧ ∀ p : Placements, p.next.1 = none → ∀ calls, (p.after calls).next.1 = none := by
  have hp := Placements.coherent_placements table m
  have hunread := Placements.unread_placements table m
  refine ⟨table.map_eq_readingOrder m, ?_, ?_, ?_, ?_, ?_⟩
  · -- the answer to a call is the first of the commands to come
    intro calls
    rw [Placements.next_eq_head? (Placements.coherent_after hp calls),
      Placements.unread_after hp, hunread, List.head?_drop]
  · intro calls
    rw [Placements.collect_eq_unread (Placements.coherent_after hp calls),
      Placements.unread_after hp, hunread]
  · intro counts
    have ⟨hportions, hrest, hleft⟩ := Placements.takeEach_spec hp counts
    rw [hportions, Placements.collect_eq_unread hrest, hleft, hunread]
    exact ⟨rfl, rfl⟩
  · intro p
    apply Placements.nextWithin_eq_next
    exact Nat.lt_succ_self _
  · intro p hnone calls
    exact Placements.next_after_eq_none hnone calls

/-- A level with an unknown token, tokens with an empty rule, a short row and one that is longer than
    the first, taken in portions until nothing is left. -/
theorem placements_refine_readingOrder_portions :
    let spawn : Position := .floor 5 5
    let table := (RuleTable.standard spawn).withRule "~" []
    let start := table.placements ⟨#[#["*", "?", "O"], #["~"], #["█", "~", "O", "O"]]⟩
    let (portions, rest) := start.takeEach [2, 0, 2, 5]
    portions =
        [ [⟨.floorValid, .floor 0 0⟩, ⟨.playerSpawn, spawn⟩], []
        , [⟨.floorValid, .floor 2 0⟩, ⟨.floorObstacle, .floor 0 2⟩]
        , [⟨.floorValid, .floor 2 2⟩] ]
      ∧ rest.collect = []
      ∧ (start.after 3).next.1 = some ⟨.floorObstacle, .floor 0 2⟩
      ∧ (start.after 5).next.1 = none
      ∧ ((start.after 5).after 4).next.1 = none := by
  intro spawn table start
  have horder : table.readingOrder ⟨#[#["*", "?", "O"], #["~"], #["█", "~", "O", "O"]]⟩ =
      [ ⟨.floorValid, .floor 0 0⟩, ⟨.playerSpawn, spawn⟩, ⟨.floorValid, .floor 2 0⟩
      , ⟨.floorObstacle, .floor 0 2⟩, ⟨.floorValid, .floor 2 2⟩ ] := by
    decide +kernel
  obtain ⟨-, hcalls, -, hportions, -, hend⟩ := placements_refine_readingOrder table
    ⟨#[#["*", "?", "O"], #["~"], #["█", "~", "O", "O"]]⟩
  rw [horder] at hcalls hportions
  obtain ⟨hcut, hleft⟩ := hportions [2, 0, 2, 5]
  have hnone : (start.after 5).next.1 = none := hcalls 5
  exact ⟨hcut, hleft, hcalls 3, hnone, hend _ hnone 4⟩

end TileLevel
