import TileLevel.Placement

/-!
# Rule Tables

A rule says what a token places: an ordered list of emissions, which may be empty. A token without a
rule places nothing, which is how comments and decoration pass through a level.

## Main definitions

- `Emission`: one command of a rule, at the cell of the token or at a fixed position
- `RuleTable`: at most one rule for each token
- `RuleTable.standard`: the rules for the tokens of the puzzle
- `RuleTable.agrees`: the same rules up to the equality of numbers
-/

namespace TileLevel

/-! ## §1 Emissions -/

inductive Emission where
  /-- At the floor position of the cell that holds the token -/
  | atCell (kind : Kind)
  /-- At a position of its own, whichever cell holds the token -/
  | fixed (kind : Kind) (position : Position)
deriving DecidableEq, Repr

namespace Emission

/-- The command for a token in a column and row. -/
def resolve (column row : Nat) : Emission → Command
  | .atCell kind => { kind, position := .floor column row }
  | .fixed kind position => { kind, position }

/-- The same emission up to the equality of numbers. -/
def agrees : Emission → Emission → Bool
  | .atCell a, .atCell b => a == b
  | .fixed a p, .fixed b q => a == b && p.agrees q
  | _, _ => false

/-- Lists of one length that agree entry by entry. -/
def listAgrees : List Emission → List Emission → Bool
  | [], [] => true
  | a :: as, b :: bs => a.agrees b && listAgrees as bs
  | _, _ => false

end Emission

/-! ## §2 Tables -/

/-- A rule for each of finitely many tokens. -/
structure RuleTable where
  rules : List (String × List Emission)
  nodup : (rules.map Prod.fst).Nodup
deriving DecidableEq, Repr

namespace RuleTable

/-- Puts a rule in the place of the one for its token, or behind the others. -/
def putRule (token : String) (emissions : List Emission) :
    List (String × List Emission) → List (String × List Emission)
  | [] => [(token, emissions)]
  | rule :: rest =>
    if rule.1 = token then (token, emissions) :: rest else rule :: putRule token emissions rest

private theorem fst_mem_putRule {token t : String} {emissions : List Emission}
    {rules : List (String × List Emission)}
    (h : t ∈ (putRule token emissions rules).map Prod.fst) :
    t = token ∨ t ∈ rules.map Prod.fst := by
  induction rules with
  | nil => simpa [putRule] using h
  | cons rule rest ih =>
    unfold putRule at h
    split at h
    · simp only [List.map_cons, List.mem_cons] at h ⊢
      exact h.elim .inl fun h => .inr (.inr h)
    · simp only [List.map_cons, List.mem_cons] at h ⊢
      exact h.elim (fun h => .inr (.inl h)) fun h => (ih h).imp_right .inr

theorem nodup_putRule {token : String} {emissions : List Emission}
    {rules : List (String × List Emission)} (h : (rules.map Prod.fst).Nodup) :
    ((putRule token emissions rules).map Prod.fst).Nodup := by
  induction rules with
  | nil => simp [putRule]
  | cons rule rest ih =>
    simp only [List.map_cons, List.nodup_cons] at h
    unfold putRule
    split
    · rename_i heq
      simpa only [List.map_cons, List.nodup_cons, ← heq] using h
    · rename_i hne
      simp only [List.map_cons, List.nodup_cons]
      refine ⟨fun hmem => ?_, ih h.2⟩
      exact (fst_mem_putRule hmem).elim hne h.1

def empty : RuleTable where
  rules := []
  nodup := .nil

/-- The emissions of a token, `none` if it has no rule. -/
def lookup (table : RuleTable) (token : String) : Option (List Emission) :=
  table.rules.lookup token

/-- Adds a rule or replaces the one of its token; the emissions that the token had come with it. -/
def insert (table : RuleTable) (token : String) (emissions : List Emission) :
    Option (List Emission) × RuleTable :=
  (table.lookup token,
    { rules := putRule token emissions table.rules, nodup := nodup_putRule table.nodup })

def withRule (table : RuleTable) (token : String) (emissions : List Emission) : RuleTable :=
  (table.insert token emissions).2

def size (table : RuleTable) : Nat :=
  table.rules.length

def isEmpty (table : RuleTable) : Bool :=
  table.rules.isEmpty

/-- The same tokens with agreeing emissions. The order in which rules were added is of no account.
    -/
def agrees (a b : RuleTable) : Bool :=
  a.size == b.size && a.rules.all fun (token, emissions) =>
    match b.lookup token with
    | some others => Emission.listAgrees emissions others
    | none => false

/-! ## §3 The tokens of the puzzle -/

/-- A peg stands on a valid tile; there the player starts. -/
def peg : String := "*"

def hole : String := "O"

/-- A tile that cannot be passed. -/
def out : String := "█"

/-- The rules of the puzzle, with the player starting at `spawn`. -/
def standard (spawn : Position) : RuleTable :=
  empty
    |>.withRule peg [.atCell .floorValid, .fixed .playerSpawn spawn]
    |>.withRule hole [.atCell .floorValid]
    |>.withRule out [.atCell .floorObstacle]

instance : Inhabited RuleTable := ⟨standard .defaultSpawn⟩

end RuleTable

end TileLevel
