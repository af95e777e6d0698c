import Mathlib
import TileLevel.Proofs.RuleHistory
import TileLevel.Proofs.Values

/-!
# Tables that Compare Equal Map Alike

Tables are compared rule by rule, and their coordinates as numbers: the two zeros are one number, and
`nan` is no number at all. So the comparison is symmetric and transitive, but a table in which `nan`
occurs does not even compare equal to itself. Tables that compare equal place the same things, as far
as a comparison of commands can tell. The converse fails, since a token with an empty rule places as
little as one without a rule.

## Main definitions

- `Single.SameNumber`, `Position.SamePlace`, `Emission.Alike`, `RuleTable.Alike`: what is compared
- `RuleTable.NanFree`: tables that compare equal to themselves

## Main statements

- `Single.agrees_iff`, `Emission.agrees_iff`, `RuleTable.agrees_iff`: each comparison decides its
  relation
- `RuleTable.Alike.map`: tables that are alike map levels alike
- `RuleTable.agreeing_tables_map_alike`: the comparison of tables, its laws and what it promises
-/

namespace TileLevel

/-! ## §1 Numbers -/

/-- The same rational number, or the same infinity. -/
inductive Single.SameNumber : Single → Single → Prop
  | finite {a b : Single} {q : ℚ} (ha : a.value? = some q) (hb : b.value? = some q) :
    SameNumber a b
  | infinite (negative : Bool) : SameNumber (.infinite negative) (.infinite negative)

namespace Single

variable {a b c : Single}

/-- Two signed magnitudes are one rational number if they are equal and have one sign, or are both
    zero. -/
private theorem signed_units_inj {negative negative' : Bool} {units units' : ℕ} :
    (if negative then -1 else 1) * ((units : ℚ) / unitsPerOne)
        = (if negative' then -1 else 1) * ((units' : ℚ) / unitsPerOne)
      ↔ units = units' ∧ (negative = negative' ∨ units = 0) := by
  have hne : (unitsPerOne : ℚ) ≠ 0 := unitsPerOne_pos.ne'
  have hunits : (units : ℚ) / unitsPerOne = units' / unitsPerOne ↔ units = units' := by
    rw [div_left_inj' hne, Nat.cast_inj]
  have hzero : (units : ℚ) / unitsPerOne = 0 ↔ units = 0 := by
    rw [div_eq_zero_iff, or_iff_left hne, Nat.cast_eq_zero]
  -- numbers of opposite signs are one number only if both are zero
  have hopposite : (units : ℚ) / unitsPerOne = -(units' / unitsPerOne)
      ↔ units = units' ∧ units = 0 := by
    have hnonneg : 0 ≤ (units : ℚ) / unitsPerOne := by positivity
    have hnonneg' : 0 ≤ (units' : ℚ) / unitsPerOne := by positivity
    rw [← hunits, ← hzero]
    constructor
    · intro h
      constructor <;> linarith
    · rintro ⟨hsame, hnone⟩
      linarith
  cases negative <;> cases negative'
  case false.false | true.true => simpa using hunits
  case false.true => simpa using hopposite
  case true.false => simpa [neg_eq_iff_eq_neg] using hopposite

/-- **The comparison of numbers** is equality of the numbers that are meant. -/
theorem agrees_iff : a.agrees b ↔ a.SameNumber b := by
  cases a with
  | nan =>
    constructor
    · nofun
    · rintro (⟨ha, -⟩ | _)
      cases ha
  | infinite negative =>
    constructor
    · intro h
      cases b with
      | infinite negative' =>
        obtain rfl : negative = negative' := eq_of_beq h
        exact .infinite negative
      | _ => cases h
    · rintro (⟨ha, -⟩ | _)
      · cases ha
      · exact beq_self_eq_true negative
  | finite negative m =>
    cases b with
    | finite negative' n =>
      have hvalues : SameNumber (.finite negative m) (.finite negative' n)
          ↔ m.units = n.units ∧ (negative = negative' ∨ m.units = 0) := by
        rw [← signed_units_inj]
        constructor
        · rintro ⟨ha, hb⟩
          exact Option.some.inj (ha.trans hb.symm)
        · intro h
          exact .finite (congrArg some h) rfl
      rw [hvalues]
      simp [agrees]
    | _ =>
      constructor
      · nofun
      · rintro ⟨-, hb⟩
        cases hb

theorem SameNumber.symm (h : a.SameNumber b) : b.SameNumber a := by
  cases h with
  | finite ha hb => exact .finite hb ha
  | infinite negative => exact .infinite negative

theorem SameNumber.trans (hab : a.SameNumber b) (hbc : b.SameNumber c) : a.SameNumber c := by
  cases hab with
  | infinite negative => exact hbc
  | finite ha hb =>
    cases hbc with
    | finite hb' hc =>
      rw [hb, Option.some.injEq] at hb'
      subst hb'
      exact .finite ha hc
    | infinite negative => exact .finite ha hb

/-- Only `nan` is not the same number as itself. -/
theorem sameNumber_self_iff : a.SameNumber a ↔ a ≠ .nan := by
  constructor
  · rintro h rfl
    obtain ⟨ha, -⟩ | _ := h
    cases ha
  · intro hnan
    cases a with
    | finite negative m => exact .finite rfl rfl
    | infinite negative => exact .infinite negative
    | nan => exact absurd rfl hnan

theorem ofNat_ne_nan (n : ℕ) : ofNat n ≠ .nan := by
  intro h
  unfold ofNat ofUnitsRatio at h
  split at h <;> cases h

theorem neg_ne_nan (h : a ≠ .nan) : a.neg ≠ .nan := by
  cases a with
  | nan => exact absurd rfl h
  | _ => nofun

end Single

/-! ## §2 Positions, commands and emissions -/

/-- The same numbers for all coordinates. -/
structure Position.SamePlace (p q : Position) : Prop where
  x : p.x.SameNumber q.x
  y : p.y.SameNumber q.y
  z : p.z.SameNumber q.z

/-- No coordinate is `nan`. -/
structure Position.NanFree (p : Position) : Prop where
  x : p.x ≠ .nan
  y : p.y ≠ .nan
  z : p.z ≠ .nan

namespace Position

variable {p q r : Position}

theorem agrees_iff : p.agrees q ↔ p.SamePlace q := by
  simp only [agrees, Bool.and_eq_true, Single.agrees_iff]
  constructor
  · rintro ⟨⟨hx, hy⟩, hz⟩
    exact ⟨hx, hy, hz⟩
  · rintro ⟨hx, hy, hz⟩
    exact ⟨⟨hx, hy⟩, hz⟩

theorem SamePlace.symm (h : p.SamePlace q) : q.SamePlace p :=
  ⟨h.x.symm, h.y.symm, h.z.symm⟩

theorem SamePlace.trans (hpq : p.SamePlace q) (hqr : q.SamePlace r) : p.SamePlace r :=
  ⟨hpq.x.trans hqr.x, hpq.y.trans hqr.y, hpq.z.trans hqr.z⟩

theorem samePlace_self_iff : p.SamePlace p ↔ p.NanFree := by
  constructor
  · rintro ⟨hx, hy, hz⟩
    exact ⟨Single.sameNumber_self_iff.mp hx, Single.sameNumber_self_iff.mp hy,
      Single.sameNumber_self_iff.mp hz⟩
  · rintro ⟨hx, hy, hz⟩
    exact ⟨Single.sameNumber_self_iff.mpr hx, Single.sameNumber_self_iff.mpr hy,
      Single.sameNumber_self_iff.mpr hz⟩

/-- The positions of cells are free of `nan`, also where they are too far away for the format. -/
theorem nanFree_floor (column row : ℕ) : (floor column row).NanFree where
  x := Single.ofNat_ne_nan column
  y := nofun
  z := by
    unfold floor
    dsimp only
    split
    · nofun
    · exact Single.neg_ne_nan (Single.ofNat_ne_nan row)

end Position

theorem Command.agrees_iff {a b : Command} :
    a.agrees b ↔ a.kind = b.kind ∧ a.position.SamePlace b.position := by
  simp only [agrees, Bool.and_eq_true, beq_iff_eq, Position.agrees_iff]

/-- The same kind at the cell of the token, or the same kind at the same place. -/
inductive Emission.Alike : Emission → Emission → Prop
  | atCell (kind : Kind) : Alike (.atCell kind) (.atCell kind)
  | fixed (kind : Kind) {p q : Position} (hplace : p.SamePlace q) :
    Alike (.fixed kind p) (.fixed kind q)

/-- The position of an emission, if it has one of its own, is free of `nan`. -/
def Emission.NanFree (emission : Emission) : Prop :=
  ∀ kind position, emission = .fixed kind position → position.NanFree

namespace Emission

variable {a b c : Emission}

theorem agrees_iff : a.agrees b ↔ a.Alike b := by
  cases a with
  | atCell kind =>
    cases b with
    | atCell kind' =>
      constructor
      · intro h
        obtain rfl : kind = kind' := eq_of_beq h
        exact .atCell kind
      · rintro ⟨⟩
        exact beq_self_eq_true kind
    | fixed => constructor <;> nofun
  | fixed kind p =>
    cases b with
    | atCell => constructor <;> nofun
    | fixed kind' q =>
      simp only [agrees, Bool.and_eq_true, beq_iff_eq, Position.agrees_iff]
      constructor
      · rintro ⟨rfl, hplace⟩
        exact .fixed kind hplace
      · rintro ⟨⟩
        exact ⟨rfl, ‹_›⟩

theorem Alike.symm (h : a.Alike b) : b.Alike a := by
  cases h with
  | atCell kind => exact .atCell kind
  | fixed kind hplace => exact .fixed kind hplace.symm

theorem Alike.trans (hab : a.Alike b) (hbc : b.Alike c) : a.Alike c := by
  cases hab with
  | atCell kind => exact hbc
  | fixed kind hplace =>
    cases hbc with
    | fixed _ hplace' => exact .fixed kind (hplace.trans hplace')

theorem alike_self_iff : a.Alike a ↔ a.NanFree := by
  cases a with
  | atCell kind => exact ⟨fun _ => nofun, fun _ => .atCell kind⟩
  | fixed kind p =>
    constructor
    · rintro (_ | hplace) _ _ ⟨⟩
      exact Position.samePlace_self_iff.mp ‹_›
    · intro h
      exact .fixed kind (Position.samePlace_self_iff.mpr (h kind p rfl))

theorem forall₂_alike_trans {as bs cs : List Emission} (hab : List.Forall₂ Alike as bs)
    (hbc : List.Forall₂ Alike bs cs) : List.Forall₂ Alike as cs := by
  induction hab generalizing cs with
  | nil => exact hbc
  | cons hhead _ ih =>
    cases hbc with
    | cons hhead' htail => exact .cons (hhead.trans hhead') (ih htail)

/-- **Emissions that are alike** give commands that compare equal, in every cell. -/
theorem Alike.agrees_resolve (h : a.Alike b) (column row : ℕ) :
    (a.resolve column row).agrees (b.resolve column row) := by
  rw [Command.agrees_iff]
  cases h with
  | atCell kind => exact ⟨rfl, Position.samePlace_self_iff.mpr (Position.nanFree_floor column row)⟩
  | fixed kind hplace => exact ⟨rfl, hplace⟩

/-- Lists are compared entry by entry, and lists of different lengths differ. -/
theorem listAgrees_iff {as bs : List Emission} :
    listAgrees as bs ↔ List.Forall₂ Alike as bs := by
  induction as generalizing bs with
  | nil => cases bs <;> simp [listAgrees]
  | cons a as ih =>
    cases bs with
    | nil => simp [listAgrees]
    | cons b bs => simp [listAgrees, agrees_iff, ih]

/-! ### Rules -/

/-- No rule in either place, or two rules that are alike entry by entry. -/
abbrev RuleAlike : Option (List Emission) → Option (List Emission) → Prop :=
  Option.Rel (List.Forall₂ Alike)

variable {rule rule' rule'' : Option (List Emission)}

theorem RuleAlike.isSome_iff (h : RuleAlike rule rule') : rule.isSome ↔ rule'.isSome := by
  cases h <;> simp

theorem RuleAlike.symm (h : RuleAlike rule rule') : RuleAlike rule' rule := by
  cases h with
  | none => exact .none
  | some hlists => exact .some (hlists.imp fun _ _ halike => halike.symm).flip

theorem RuleAlike.trans (h : RuleAlike rule rule') (h' : RuleAlike rule' rule'') :
    RuleAlike rule rule'' := by
  cases h with
  | none => exact h'
  | some hlists =>
    cases h' with
    | some hlists' => exact .some (forall₂_alike_trans hlists hlists')

theorem ruleAlike_self_iff :
    RuleAlike rule rule ↔
      ∀ emissions, rule = some emissions → ∀ emission ∈ emissions, emission.NanFree := by
  constructor
  · rintro h emissions rfl emission hemission
    cases h with
    | some hlists => exact alike_self_iff.mp (List.forall₂_same.mp hlists emission hemission)
  · intro h
    cases rule with
    | none => exact .none
    | some emissions =>
      apply Option.Rel.some
      rw [List.forall₂_same]
      intro emission hemission
      exact alike_self_iff.mpr (h emissions rfl emission hemission)

/-- Rules that are alike give commands that compare equal, in every cell. -/
theorem RuleAlike.forall₂_resolve (h : RuleAlike rule rule') (column row : ℕ) :
    List.Forall₂ (fun command other => command.agrees other)
      (rule.elim [] (·.map (·.resolve column row))) (rule'.elim [] (·.map (·.resolve column row))) := by
  cases h with
  | none => exact .nil
  | some hlists =>
    rw [Option.elim_some, Option.elim_some, List.forall₂_map_left_iff, List.forall₂_map_right_iff]
    exact hlists.imp fun _ _ halike => halike.agrees_resolve column row

end Emission

/-! ## §3 Tables -/

/-- Rules for the same tokens, and alike emissions in them, entry by entry. -/
def RuleTable.Alike (a b : RuleTable) : Prop :=
  ∀ token, Emission.RuleAlike (a.lookup token) (b.lookup token)

/-- No position in a rule has a coordinate that is `nan`. -/
def RuleTable.NanFree (table : RuleTable) : Prop :=
  ∀ token emissions, table.lookup token = some emissions →
    ∀ emission ∈ emissions, emission.NanFree

namespace RuleTable

variable {a b c table : RuleTable} {token : String} {emissions : List Emission}

theorem lookup_eq_some_iff_mem :
    table.lookup token = some emissions ↔ (token, emissions) ∈ table.rules := by
  rw [lookup, List.lookup_eq_some_iff]
  constructor
  · rintro ⟨before, after, hrules, -⟩
    rw [hrules]
    exact List.mem_append_right _ List.mem_cons_self
  · intro hmem
    obtain ⟨before, after, hrules⟩ := List.append_of_mem hmem
    refine ⟨before, after, hrules, fun rule hrule => ?_⟩
    -- a rule for the token before this one would be a second rule
    have hnodup := table.nodup
    rw [hrules, List.map_append, List.nodup_append] at hnodup
    have hne := hnodup.2.2 rule.1 (List.mem_map_of_mem hrule) token (by simp)
    simpa using hne.symm

/-- The comparison of the rule for a token. -/
private theorem rule_agrees_iff :
    (match b.lookup token with
      | some others => Emission.listAgrees emissions others
      | none => false) = true
      ↔ Emission.RuleAlike (some emissions) (b.lookup token) := by
  cases b.lookup token with
  | none =>
    constructor <;> nofun
  | some others =>
    rw [Emission.listAgrees_iff]
    constructor
    · exact .some
    · rintro ⟨h⟩
      exact h

/-- Each rule of one table is compared with that of the other, and so are the numbers of rules. -/
private theorem agrees_iff_rules :
    a.agrees b ↔ a.size = b.size ∧ ∀ token emissions, a.lookup token = some emissions →
      Emission.RuleAlike (some emissions) (b.lookup token) := by
  rw [agrees, Bool.and_eq_true, beq_iff_eq, List.all_eq_true]
  apply and_congr_right'
  constructor
  · intro h token emissions hlookup
    exact rule_agrees_iff.mp (h (token, emissions) (lookup_eq_some_iff_mem.mp hlookup))
  · rintro h ⟨token, emissions⟩ hmem
    exact rule_agrees_iff.mpr (h token emissions (lookup_eq_some_iff_mem.mpr hmem))

/-- Tables of one size have the same tokens if one of them has all tokens of the other. -/
theorem perm_tokens (hsize : a.size = b.size)
    (htokens : ∀ token, (a.lookup token).isSome → (b.lookup token).isSome) :
    (a.rules.map Prod.fst).Perm (b.rules.map Prod.fst) := by
  have hsubset : a.rules.map Prod.fst ⊆ b.rules.map Prod.fst := by
    intro token hmem
    exact mem_map_fst_iff.mpr (htokens token (mem_map_fst_iff.mp hmem))
  apply (List.subperm_of_subset a.nodup hsubset).perm_of_length_le
  rw [List.length_map, List.length_map]
  exact hsize.ge

/-- **The comparison of tables** compares them token by token. -/
theorem agrees_iff : a.agrees b ↔ a.Alike b := by
  rw [agrees_iff_rules]
  constructor
  · rintro ⟨hsize, heach⟩ token
    cases ha : a.lookup token with
    | some emissions => exact heach token emissions ha
    | none =>
      -- the other table has as many tokens and all of these, so it has no other token
      have htokens : ∀ token, (a.lookup token).isSome → (b.lookup token).isSome := by
        intro token hsome
        obtain ⟨emissions, hlookup⟩ := Option.isSome_iff_exists.mp hsome
        have hrule := heach token emissions hlookup
        cases hb : b.lookup token with
        | some others => rfl
        | none =>
          rw [hb] at hrule
          cases hrule
      have hmem := (perm_tokens hsize htokens).mem_iff (a := token)
      rw [mem_map_fst_iff, mem_map_fst_iff, ha] at hmem
      cases hb : b.lookup token with
      | none => exact .none
      | some others => simp [hb] at hmem
  · intro h
    constructor
    · have hperm : (a.rules.map Prod.fst).Perm (b.rules.map Prod.fst) := by
        rw [List.perm_ext_iff_of_nodup a.nodup b.nodup]
        intro token
        rw [mem_map_fst_iff, mem_map_fst_iff, (h token).isSome_iff]
      have hlength := hperm.length_eq
      rwa [List.length_map, List.length_map] at hlength
    · intro token emissions hlookup
      rw [← hlookup]
      exact h token

theorem Alike.symm (h : a.Alike b) : b.Alike a :=
  fun token => (h token).symm

theorem Alike.trans (hab : a.Alike b) (hbc : b.Alike c) : a.Alike c :=
  fun token => (hab token).trans (hbc token)

/-- **A table is alike to itself** just when `nan` occurs nowhere in it. -/
theorem alike_self_iff : table.Alike table ↔ table.NanFree :=
  forall_congr' fun _ => Emission.ruleAlike_self_iff

/-! ## §4 Levels -/

/-- The commands of a cell compare equal, whichever of two tables that are alike is used. -/
theorem Alike.cellCommands (h : a.Alike b) (m : TokenMatrix) (row column : ℕ) :
    List.Forall₂ (fun command other => command.agrees other)
      (a.cellCommands m row column) (b.cellCommands m row column) := by
  rw [cellCommands_eq_elim, cellCommands_eq_elim]
  cases m.get? row column with
  | none => exact .nil
  | some token => exact (h token).forall₂_resolve column row

/-- **Tables that are alike** map a level to commands that compare equal, one by one. -/
theorem Alike.map (h : a.Alike b) (m : TokenMatrix) :
    List.Forall₂ (fun command other => command.agrees other) (a.map m) (b.map m) :=
  forall₂_map (h.cellCommands m)

/-! ## §5 All together -/

/-- **Tables that compare equal map alike.** Two tables compare equal just when they have rules for
    the same tokens and, token by token, lists of emissions of one length that are alike in pairs: of
    one form, of one kind, and at positions whose coordinates are the same rational number or the same
    infinity. Positive and negative zero are the same number, and `nan` is the same number as nothing.
    The comparison is symmetric and transitive, and a table compares equal to itself just when no
    coordinate in it is `nan`. Tables that compare equal map every level to lists of commands of one
    length that compare equal in pairs. -/
theorem agreeing_tables_map_alike (a b : RuleTable) :
    (a.agrees b ↔
        ∀ token, Option.Rel (List.Forall₂ Emission.Alike) (a.lookup token) (b.lookup token))
      ∧ (Single.zero.SameNumber Single.zero.neg ∧ ∀ x, ¬ Single.nan.SameNumber x)
      ∧ (a.agrees b → b.agrees a)
      ∧ (∀ c : RuleTable, a.agrees b → b.agrees c → a.agrees c)
      ∧ (a.agrees a ↔ ∀ token emissions, a.lookup token = some emissions →
          ∀ kind position, Emission.fixed kind position ∈ emissions →
            position.x ≠ .nan ∧ position.y ≠ .nan ∧ position.z ≠ .nan)
      ∧ (a.agrees b → ∀ m, (a.map m).length = (b.map m).length
          ∧ List.Forall₂ (fun command other => command.agrees other) (a.map m) (b.map m)) := by
  refine ⟨agrees_iff, ⟨Single.agrees_iff.mp (by decide), ?nan⟩, ?symm, ?trans, ?refl, ?map⟩
  case nan =>
    rintro x ⟨hnan, -⟩
    cases hnan
  case symm =>
    rw [agrees_iff, agrees_iff]
    exact Alike.symm
  case trans =>
    intro c
    rw [agrees_iff, agrees_iff, agrees_iff]
    exact Alike.trans
  case refl =>
    rw [agrees_iff, alike_self_iff]
    constructor
    · intro h token emissions hlookup kind position hmem
      obtain ⟨hx, hy, hz⟩ := h token emissions hlookup _ hmem kind position rfl
      exact ⟨hx, hy, hz⟩
    · rintro h token emissions hlookup _ hmem kind position rfl
      obtain ⟨hx, hy, hz⟩ := h token emissions hlookup kind position hmem
      exact ⟨hx, hy, hz⟩
  case map =>
    rw [agrees_iff]
    intro h m
    have hcommands := h.map m
    exact ⟨hcommands.length_eq, hcommands⟩

/-- Two starts at the two zeros in tables that were made in different orders; a table that lacks an
    empty rule; and a table with a coordinate that is `nan`. -/
theorem agreeing_tables_map_alike_zeros :
    let start (x : Single) : List Emission :=
      [.atCell .floorCheckpoint, .fixed .playerSpawn { Position.defaultSpawn with x }]
    let a := (empty.withRule "-" []).withRule "*" (start .zero)
    let b := (empty.withRule "*" (start Single.zero.neg)).withRule "-" []
    let c := empty.withRule "*" (start .zero)
    let d := empty.withRule "*" (start .nan)
    let m : TokenMatrix := { rows := #[#["*", "-"], #["?", "*"]] }
    a.agrees b ∧ b.agrees a ∧ a.agrees a
      ∧ List.Forall₂ (fun command other => command.agrees other) (a.map m) (b.map m)
      ∧ ¬ a.agrees c ∧ a.map m = c.map m
      ∧ ¬ d.agrees d := by
  intro start a b c d m
  have hagrees : a.agrees b := by decide +kernel
  obtain ⟨-, -, hsymm, htrans, -, hmap⟩ := agreeing_tables_map_alike a b
  refine ⟨hagrees, hsymm hagrees, htrans a hagrees (hsymm hagrees), (hmap hagrees m).2, ?missing,
    ?same, ?nan⟩
  case missing =>
    intro h
    have hrule := (agreeing_tables_map_alike a c).1.mp h "-"
    cases hrule
  case same =>
    rw [map_eq_readingOrder, map_eq_readingOrder]
    decide +kernel
  case nan =>
    intro h
    have hfree := (agreeing_tables_map_alike d d).2.2.2.2.1.mp h "*" (start .nan) (by decide)
    exact (hfree .playerSpawn _ (List.mem_cons_of_mem _ List.mem_cons_self)).1 rfl

end RuleTable

end TileLevel
