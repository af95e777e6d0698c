import Mathlib
import TileLevel.Proofs.Drawing

/-!
# A Rule Table Is Its History

What a table has for a token was put there by the last edit of the token, or else was there before
the first edit. Edits of other tokens have no part in it, so edits of distinct tokens can be made in
any order. A token whose rule is empty has a rule all the same and counts like the others.

## Main definitions

- `RuleTable.Edit`, `RuleTable.editAll`: edits of a table, one after the other
- `RuleTable.answers`: what the edits answer with
- `RuleTable.lastEdit?`: the last of some edits that is one of a token

## Main statements

- `RuleTable.lookup_withRule`, `RuleTable.size_withRule`: what one edit does
- `RuleTable.lookup_editAll`, `RuleTable.getElem?_answers`: what a history of edits does
- `RuleTable.map_congr`: tables with the same rules map levels to the same commands
- `RuleTable.table_is_its_history`: look-ups, answers, size and order of a history
-/

namespace TileLevel.RuleTable

/-! ## §1 Edits -/

/-- An edit of a table. Either kind puts a rule; only an insertion answers. -/
inductive Edit where
  | insert (token : String) (emissions : List Emission)
  | withRule (token : String) (emissions : List Emission)
deriving DecidableEq, Repr

namespace Edit

def token : Edit → String
  | insert token _ | withRule token _ => token

def emissions : Edit → List Emission
  | insert _ emissions | withRule _ emissions => emissions

/-- The table after an edit. -/
def perform (table : RuleTable) : Edit → RuleTable
  | insert token emissions => (table.insert token emissions).2
  | withRule token emissions => table.withRule token emissions

/-- The answer of an edit: none at all, or that of an insertion. -/
def answer? (table : RuleTable) : Edit → Option (Option (List Emission))
  | insert token emissions => some (table.insert token emissions).1
  | withRule _ _ => none

/-- Both kinds of edit leave the same table. -/
theorem perform_eq (table : RuleTable) (edit : Edit) :
    edit.perform table = table.withRule edit.token edit.emissions := by
  cases edit <;> rfl

end Edit

/-- The table after some edits. -/
def editAll (base : RuleTable) (edits : List Edit) : RuleTable :=
  edits.foldl Edit.perform base

/-- What the edits answer with, one after the other. -/
def answers (base : RuleTable) : List Edit → List (Option (Option (List Emission)))
  | [] => []
  | edit :: edits => edit.answer? base :: (edit.perform base).answers edits

/-- The last of some edits that is one of a token. -/
def lastEdit? (token : String) (edits : List Edit) : Option Edit :=
  (edits.filter (·.token = token)).getLast?

variable {table base : RuleTable} {token key : String} {emissions : List Emission}
  {rules : List (String × List Emission)} {edit : Edit} {edits edits' : List Edit}

/-! ## §2 One edit -/

theorem lookup_putRule :
    (putRule key emissions rules).lookup token =
      if token = key then some emissions else rules.lookup token := by
  induction rules with
  | nil => rw [putRule, lookup_cons_eq_ite]
  | cons rule rest ih =>
    obtain ⟨other, others⟩ := rule
    by_cases hkey : other = key
    · -- the rule of the token is replaced where it stands
      rw [putRule, if_pos hkey, lookup_cons_eq_ite, lookup_cons_eq_ite, hkey]
      split_ifs <;> rfl
    · rw [putRule, if_neg hkey, lookup_cons_eq_ite, lookup_cons_eq_ite, ih]
      by_cases htoken : token = other
      · rw [if_pos htoken, if_pos htoken, if_neg (htoken ▸ hkey)]
      · rw [if_neg htoken, if_neg htoken]

theorem length_putRule :
    (putRule key emissions rules).length =
      if (rules.lookup key).isSome then rules.length else rules.length + 1 := by
  induction rules with
  | nil => rfl
  | cons rule rest ih =>
    obtain ⟨other, others⟩ := rule
    by_cases hkey : other = key
    · rw [putRule, if_pos hkey, hkey, List.lookup_cons_self]
      rfl
    · -- the rule is put further behind, or at the very end
      rw [putRule, if_neg hkey, List.length_cons, ih, lookup_cons_eq_ite, if_neg (Ne.symm hkey),
        List.length_cons]
      split_ifs <;> rfl

/-- **An edit** changes the rule of its token and no other one. -/
theorem lookup_withRule (table : RuleTable) (key token : String) (emissions : List Emission) :
    (table.withRule key emissions).lookup token =
      if token = key then some emissions else table.lookup token :=
  lookup_putRule

/-- An edit adds a rule just when its token had none. -/
theorem size_withRule (table : RuleTable) (key : String) (emissions : List Emission) :
    (table.withRule key emissions).size =
      if (table.lookup key).isSome then table.size else table.size + 1 :=
  length_putRule

/-! ## §3 Tokens with a rule -/

theorem mem_map_fst_iff : token ∈ table.rules.map Prod.fst ↔ (table.lookup token).isSome := by
  rw [lookup, List.lookup_isSome_iff, List.mem_map]
  constructor
  · rintro ⟨rule, hrule, rfl⟩
    exact ⟨rule, hrule, beq_self_eq_true _⟩
  · rintro ⟨rule, hrule, htoken⟩
    exact ⟨rule, hrule, (eq_of_beq htoken).symm⟩

/-- **The size of a table** is the number of tokens that have a rule. -/
theorem encard_lookup_isSome (table : RuleTable) :
    {token | (table.lookup token).isSome}.encard = table.size := by
  have hset : {token | (table.lookup token).isSome}
      = ((table.rules.map Prod.fst).toFinset : Set String) := by
    ext token
    rw [Set.mem_ofPred_eq, ← mem_map_fst_iff, Finset.mem_coe, List.mem_toFinset]
  rw [hset, Set.encard_coe_eq_coe_finsetCard, List.toFinset_card_of_nodup table.nodup,
    List.length_map, size]

theorem isEmpty_iff : table.isEmpty ↔ ∀ token, table.lookup token = none := by
  rw [isEmpty, List.isEmpty_iff]
  constructor
  · intro hnil token
    rw [lookup, hnil, List.lookup_nil]
  · intro hnone
    -- a first rule would be found under its own token
    cases hrules : table.rules with
    | nil => rfl
    | cons rule rest =>
      have hfirst := hnone rule.1
      rw [lookup, hrules, List.lookup_cons_self] at hfirst
      cases hfirst

/-! ## §4 Histories -/

/-- The first edit counts for its token if no later one does. -/
theorem lastEdit?_cons :
    lastEdit? token (edit :: edits) =
      (lastEdit? token edits).or (if edit.token = token then some edit else none) := by
  unfold lastEdit?
  rw [List.filter_cons]
  by_cases htoken : edit.token = token
  · rw [if_pos (decide_eq_true htoken), List.getLast?_cons, if_pos htoken]
    cases (edits.filter (·.token = token)).getLast? <;> rfl
  · rw [if_neg (by simpa using htoken), if_neg htoken, Option.or_none]

/-- **What a history of edits leaves** for a token is what the last edit of the token put. -/
theorem lookup_editAll (base : RuleTable) (edits : List Edit) (token : String) :
    (base.editAll edits).lookup token =
      ((lastEdit? token edits).map Edit.emissions).or (base.lookup token) := by
  induction edits generalizing base with
  | nil => rfl
  | cons edit edits ih =>
    have hfirst : (edit.perform base).lookup token =
        ((if edit.token = token then some edit else none).map Edit.emissions).or
          (base.lookup token) := by
      rw [Edit.perform_eq, lookup_withRule]
      by_cases htoken : edit.token = token
      · rw [if_pos htoken.symm, if_pos htoken]
        rfl
      · rw [if_neg (Ne.symm htoken), if_neg htoken]
        rfl
    calc (base.editAll (edit :: edits)).lookup token
      _ = ((lastEdit? token edits).map Edit.emissions).or ((edit.perform base).lookup token) :=
          ih (edit.perform base)
      _ = ((lastEdit? token (edit :: edits)).map Edit.emissions).or (base.lookup token) := by
          rw [hfirst, lastEdit?_cons, Option.map_or, Option.or_assoc]

/-- **Each answer of a history** is given by the table that the edits before have left. -/
theorem getElem?_answers (base : RuleTable) (edits : List Edit) (i : ℕ) :
    (base.answers edits)[i]? = edits[i]?.map (Edit.answer? (base.editAll (edits.take i))) := by
  induction edits generalizing base i with
  | nil => rfl
  | cons edit edits ih =>
    cases i with
    | zero => rfl
    | succ i => exact ih (edit.perform base) i

/-! ## §5 The order of edits -/

/-- Among edits of distinct tokens, the last edit of a token is the only one. -/
theorem lastEdit?_eq_some_iff (hnodup : (edits.map Edit.token).Nodup) :
    lastEdit? token edits = some edit ↔ edit ∈ edits ∧ edit.token = token := by
  constructor
  · intro hlast
    have hmem := List.mem_of_getLast? hlast
    simpa using hmem
  · rintro ⟨hmem, htoken⟩
    have hfilter : edit ∈ edits.filter (·.token = token) := by simp [hmem, htoken]
    cases hlast : lastEdit? token edits with
    | none =>
      rw [List.getLast?_eq_none_iff.mp hlast] at hfilter
      cases hfilter
    | some other =>
      have hother : other ∈ edits ∧ other.token = token := by
        simpa using List.mem_of_getLast? hlast
      -- two edits of one token, and there is one at most
      rw [List.inj_on_of_nodup_map hnodup hother.1 hmem (hother.2.trans htoken.symm)]

theorem lastEdit?_of_perm (hperm : edits.Perm edits') (hnodup : (edits.map Edit.token).Nodup) :
    lastEdit? token edits = lastEdit? token edits' := by
  have hnodup' : (edits'.map Edit.token).Nodup := (hperm.map Edit.token).nodup_iff.mp hnodup
  ext edit
  rw [lastEdit?_eq_some_iff hnodup, lastEdit?_eq_some_iff hnodup', hperm.mem_iff]

/-- **The order of edits of distinct tokens** does not matter to what a table has for a token. -/
theorem lookup_editAll_of_perm (hperm : edits.Perm edits')
    (hnodup : (edits.map Edit.token).Nodup) (base : RuleTable) (token : String) :
    (base.editAll edits).lookup token = (base.editAll edits').lookup token := by
  rw [lookup_editAll, lookup_editAll, lastEdit?_of_perm hperm hnodup]

/-- **Tables with the same rules** map a level to the same commands. -/
theorem map_congr {a b : RuleTable} (h : ∀ token, a.lookup token = b.lookup token)
    (m : TokenMatrix) : a.map m = b.map m := by
  have hlookup : a.lookup = b.lookup := funext h
  have hcells : a.cellCommands m = b.cellCommands m := by
    funext row column
    rw [cellCommands, cellCommands, hlookup]
  rw [map_eq_readingOrder, map_eq_readingOrder, readingOrder, readingOrder]
  apply List.flatMap_congr
  intro row _
  rw [rowCommands, rowCommands, hcells]

/-! ## §6 All together -/

/-- **A table is its history.** After any edits of any table, a token has the emissions of its last
    edit, or what it had at the start if there was none. Each insertion among the edits answers with
    what its token had just before. The size of the table is the number of tokens with a rule, an
    empty rule included; it grows by one with the first rule of a token and by nothing else, and the
    table is empty if no token has a rule. Edits of distinct tokens, made in another order, leave the
    same rules, and every level is mapped to the same commands. -/
theorem table_is_its_history (base : RuleTable) (edits : List Edit) :
    let table := base.editAll edits
    (∀ token, table.lookup token =
        ((lastEdit? token edits).map Edit.emissions).or (base.lookup token))
      ∧ (∀ i token emissions, edits[i]? = some (.insert token emissions) →
        (base.answers edits)[i]? = some (some ((base.editAll (edits.take i)).lookup token)))
      ∧ {token | (table.lookup token).isSome}.encard = table.size
      ∧ (∀ edit : Edit, (edit.perform table).size =
        if (table.lookup edit.token).isSome then table.size else table.size + 1)
      ∧ (table.isEmpty ↔ ∀ token, table.lookup token = none)
      ∧ ∀ edits', edits.Perm edits' → (edits.map Edit.token).Nodup →
        (∀ token, (base.editAll edits').lookup token = table.lookup token)
          ∧ ∀ m, (base.editAll edits').map m = table.map m := by
  intro table
  refine ⟨lookup_editAll base edits, ?answers, encard_lookup_isSome table, ?size, isEmpty_iff,
    ?order⟩
  case answers =>
    intro i token emissions hedit
    rw [getElem?_answers, hedit]
    rfl
  case size =>
    intro edit
    rw [Edit.perform_eq, size_withRule]
  case order =>
    intro edits' hperm hnodup
    have hlookup : ∀ token, (base.editAll edits').lookup token = table.lookup token := by
      intro token
      exact (lookup_editAll_of_perm hperm hnodup base token).symm
    exact ⟨hlookup, map_congr hlookup⟩

/-- The hole gets an empty rule and the empty token a rule, in either order. -/
theorem table_is_its_history_empty :
    let base := standard .defaultSpawn
    let edits : List Edit := [.insert hole [], .withRule "" [.atCell .floorCheckpoint]]
    let table := base.editAll edits
    edits.Perm edits.reverse ∧ (edits.map Edit.token).Nodup
      ∧ table.lookup hole = some [] ∧ (base.answers edits)[0]? = some (some (base.lookup hole))
      ∧ table.size = 4 ∧ ¬ table.isEmpty
      ∧ ∀ m, (base.editAll edits.reverse).map m = table.map m := by
  intro base edits table
  have hperm : edits.Perm edits.reverse := (List.reverse_perm edits).symm
  have hnodup : (edits.map Edit.token).Nodup := by decide
  obtain ⟨hlookup, hanswers, -, -, hempty, horder⟩ := table_is_its_history base edits
  have hhole : table.lookup hole = some [] := (hlookup hole).trans (by decide)
  refine ⟨hperm, hnodup, hhole, hanswers 0 hole [] rfl, by decide, ?_,
    (horder edits.reverse hperm hnodup).2⟩
  intro hnone
  rw [hempty.mp hnone hole] at hhole
  cases hhole

end TileLevel.RuleTable
