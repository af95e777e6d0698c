import Mathlib
import TileLevel.Deck
import TileLevel.Proofs.Trimming

/-!
# The Grammar of the Command Deck

Blanks around an input do not count. What is left means a command just when it is the sign and the
name of one without an argument, the sign and the name of an export with a space and an argument, or
the sign of a load with an argument; any other input is handed back. An argument is trimmed once
more, and since the input was trimmed before, something of it always remains.

## Main definitions

- `DeckCommand.Spells`: the grammar of the commands
- `DeckCommand.Means`: the same with the inputs that spell no command

## Main statements

- `DeckCommand.spells_of_ofTrimmed?`, `DeckCommand.ofTrimmed?_of_spells`: reading accepts just the
  grammar
- `DeckCommand.parse_accepts_grammar`: every input means one command, which reading finds
-/

namespace TileLevel.DeckCommand

variable {s body name argument : List Char} {command : DeckCommand}

/-! ## §1 The grammar -/

/-- How a command is spelled, without blanks around it. -/
def Spells (s : List Char) : DeckCommand → Prop
  | .quit => s = ":q".toList ∨ s = ":quit".toList
  | .help => s = ":h".toList ∨ s = ":help".toList
  | .reload => s = ":r".toList ∨ s = ":reload".toList
  | .exportTo path => ∃ argument,
    (s = ":w ".toList ++ argument ∨ s = ":write ".toList ++ argument)
      ∧ Text.trim argument = path.toList
  | .loadFile path => ∃ argument,
    argument ≠ [] ∧ s = "@".toList ++ argument ∧ Text.trim argument = path.toList
  | .unknown _ => False

/-- The command that a text without blanks around it means: the one that it spells, or else it is
    unknown as a whole. -/
def Means (s : List Char) (command : DeckCommand) : Prop :=
  Spells s command ∨ command = .unknown (.ofList s) ∧ ∀ other, ¬ Spells s other

theorem Means.spells (h : Means s command) (hknown : ∀ text, command ≠ .unknown text) :
    Spells s command := by
  rcases h with h | ⟨hunknown, -⟩
  · exact h
  · exact absurd hunknown (hknown _)

/-! ## §2 A name and its argument -/

theorem bne_space_of_mem (hname : ' ' ∉ name) : ∀ c ∈ name, (c != ' ') = true := by
  intro c hc
  simpa using ne_of_mem_of_not_mem hc hname

/-- The first space ends the name, and what follows is the argument. -/
theorem ofTrimmed?_append_space (hname : ' ' ∉ name) :
    ofTrimmed? (':' :: (name ++ ' ' :: argument)) = named? name (Text.trim argument) := by
  have hall := bne_space_of_mem hname
  simp only [ofTrimmed?, List.takeWhile_append_of_pos hall, List.dropWhile_append_of_pos hall]
  simp

/-- Without a space there is only a name. -/
theorem ofTrimmed?_of_not_mem (hbody : ' ' ∉ body) :
    ofTrimmed? (':' :: body) = named? body [] := by
  have hall := bne_space_of_mem hbody
  simp only [ofTrimmed?, List.takeWhile_eq_self_iff.mpr hall, List.dropWhile_eq_nil_iff.mpr hall]
  rfl

/-- The argument of a trimmed text is not blank throughout: the text would end in a blank. -/
theorem trim_argument_ne_nil (before : List Char)
    (hs : Text.IsTrimmed (before ++ ' ' :: argument)) : Text.trim argument ≠ [] := by
  intro hnil
  have hblank := Text.trim_eq_nil_iff.mp hnil
  have hrest : ∀ c ∈ ' ' :: argument, Text.isBlank c := by
    rintro c (_ | ⟨_, hc⟩)
    · rfl
    · exact hblank c hc
  exact hs.trim_ne_nil (List.cons_ne_nil _ _) (Text.trim_eq_nil_iff.mpr hrest)

/-- A name without an argument is that of a command that takes none. -/
theorem spells_of_named?_nil (h : named? name [] = some command) : Spells (':' :: name) command := by
  unfold named? at h
  rw [if_pos rfl] at h
  split at h
  case isTrue hquit =>
    cases h
    exact hquit.imp (congrArg _) (congrArg _)
  case isFalse =>
    split at h
    case isTrue hhelp =>
      cases h
      exact hhelp.imp (congrArg _) (congrArg _)
    case isFalse =>
      split at h
      case isTrue hreload =>
        cases h
        exact hreload.imp (congrArg _) (congrArg _)
      case isFalse => cases h

/-- Only an export has an argument after its name. -/
theorem named?_eq_some_iff (hargument : argument ≠ []) :
    named? name argument = some command ↔
      (name = "w".toList ∨ name = "write".toList) ∧ command = .exportTo (.ofList argument) := by
  simp [named?, hargument, eq_comm]

/-! ## §3 Reading accepts the grammar -/

/-- **What is read** is spelled by the grammar. -/
theorem spells_of_ofTrimmed? (hs : Text.IsTrimmed s) (h : ofTrimmed? s = some command) :
    Spells s command := by
  unfold ofTrimmed? at h
  split at h
  case h_1 body =>
    by_cases hspace : ' ' ∈ body
    · -- the body is cut at its first space
      obtain ⟨name, argument, rfl, hname⟩ := List.eq_append_cons_of_mem hspace
      have hne : Text.trim argument ≠ [] := trim_argument_ne_nil (':' :: name) hs
      have hread := (ofTrimmed?_append_space hname).symm.trans h
      obtain ⟨hexport, rfl⟩ := (named?_eq_some_iff hne).mp hread
      refine ⟨argument, ?_, by simp⟩
      rcases hexport with rfl | rfl
      · exact .inl rfl
      · exact .inr rfl
    · exact spells_of_named?_nil ((ofTrimmed?_of_not_mem hspace).symm.trans h)
  case h_2 body =>
    split at h
    case isTrue => cases h
    case isFalse hne =>
      cases h
      refine ⟨body, ?_, rfl, by simp⟩
      rintro rfl
      exact hne rfl
  case h_3 => cases h

/-- **What the grammar spells** is read. -/
theorem ofTrimmed?_of_spells (hs : Text.IsTrimmed s) (h : Spells s command) :
    ofTrimmed? s = some command := by
  cases command with
  | quit | help | reload => rcases h with rfl | rfl <;> rfl
  | loadFile path =>
    obtain ⟨argument, hargument, rfl, hpath⟩ := h
    have hne : Text.trim argument ≠ [] := hs.trim_ne_nil hargument
    show (if Text.trim argument = [] then none
      else some (loadFile (.ofList (Text.trim argument)))) = some (loadFile path)
    rw [if_neg hne, hpath, String.ofList_toList]
  | exportTo path =>
    obtain ⟨argument, hspelled, hpath⟩ := h
    have hexport : ∃ name, (name = "w".toList ∨ name = "write".toList) ∧ ' ' ∉ name
        ∧ s = ':' :: (name ++ ' ' :: argument) := by
      rcases hspelled with rfl | rfl
      · exact ⟨_, .inl rfl, by decide, rfl⟩
      · exact ⟨_, .inr rfl, by decide, rfl⟩
    obtain ⟨name, hname, hspace, rfl⟩ := hexport
    have hne : Text.trim argument ≠ [] := trim_argument_ne_nil (':' :: name) hs
    rw [ofTrimmed?_append_space hspace]
    apply (named?_eq_some_iff hne).mpr
    exact ⟨hname, by rw [hpath, String.ofList_toList]⟩
  | unknown => cases h

/-- An input means the command that is read, and no other one. -/
theorem parse_eq_iff_means (input : String) :
    parse input = command ↔ Means (Text.trim input.toList) command := by
  have hs := Text.isTrimmed_trim input.toList
  cases hread : ofTrimmed? (Text.trim input.toList) with
  | some found =>
    have hspells := spells_of_ofTrimmed? hs hread
    rw [parse, hread, Option.getD_some]
    constructor
    · rintro rfl
      exact .inl hspells
    · rintro (hcommand | ⟨-, hnone⟩)
      · exact Option.some.inj (hread.symm.trans (ofTrimmed?_of_spells hs hcommand))
      · exact absurd hspells (hnone found)
  | none =>
    have hnone : ∀ command, ¬ Spells (Text.trim input.toList) command := by
      intro command hspells
      simp [ofTrimmed?_of_spells hs hspells] at hread
    rw [parse, hread, Option.getD_none]
    constructor
    · rintro rfl
      exact .inr ⟨rfl, hnone⟩
    · rintro (hcommand | ⟨rfl, -⟩)
      · exact absurd hcommand (hnone command)
      · rfl

/-! ## §4 Paths -/

/-- A path that is spelled is neither empty nor has it blanks around it. -/
theorem Spells.path_visible {path : String} (hs : Text.IsTrimmed s)
    (h : Spells s (.loadFile path) ∨ Spells s (.exportTo path)) :
    path ≠ "" ∧ Text.IsTrimmed path.toList := by
  have hargument : ∃ argument, Text.trim argument ≠ [] ∧ Text.trim argument = path.toList := by
    rcases h with ⟨argument, hne, rfl, hpath⟩ | ⟨argument, rfl | rfl, hpath⟩
    · exact ⟨argument, hs.trim_ne_nil hne, hpath⟩
    · exact ⟨argument, trim_argument_ne_nil ":w".toList hs, hpath⟩
    · exact ⟨argument, trim_argument_ne_nil ":write".toList hs, hpath⟩
  obtain ⟨argument, hne, hpath⟩ := hargument
  rw [← hpath]
  refine ⟨?_, Text.isTrimmed_trim argument⟩
  rintro rfl
  exact hne hpath

/-- **Reading accepts just the grammar.** An input is read as the command that it means without the
    blanks around it: as one that it spells, or else as unknown, with all that is left of it. It
    means one command and no other, and a path that is read is not empty and is trimmed. -/
theorem parse_accepts_grammar (input : String) :
    let s := Text.trim input.toList
    (∀ command, parse input = command ↔ Means s command)
      ∧ (∃! command, Means s command)
      ∧ ∀ path, parse input = .loadFile path ∨ parse input = .exportTo path →
        path ≠ "" ∧ Text.IsTrimmed path.toList := by
  intro s
  have hmeans : ∀ command, parse input = command ↔ Means s command :=
    fun _ => parse_eq_iff_means input
  refine ⟨hmeans, ⟨parse input, (hmeans _).mp rfl, ?unique⟩, ?path⟩
  case unique =>
    intro command hcommand
    exact ((hmeans command).mpr hcommand).symm
  case path =>
    intro path hpath
    apply Spells.path_visible (Text.isTrimmed_trim input.toList)
    rcases hpath with hload | hexport
    · exact .inl (((hmeans _).mp hload).spells nofun)
    · exact .inr (((hmeans _).mp hexport).spells nofun)

/-- An export between an ideographic space and one that does not break, with blanks of other kinds
    around its path and a space inside it. -/
theorem parse_accepts_grammar_wideBlanks :
    let input := "\u3000:write \t\u2003out a.json\u00A0"
    parse input = .exportTo "out a.json"
      ∧ "out a.json" ≠ "" ∧ Text.IsTrimmed "out a.json".toList := by
  intro input
  have hread : parse input = .exportTo "out a.json" := by decide +kernel
  obtain ⟨-, -, hvisible⟩ := parse_accepts_grammar input
  exact ⟨hread, hvisible "out a.json" (.inr hread)⟩

/-- Only a space ends a name. -/
example : parse ":w\tout.json" = .unknown ":w\tout.json" := by
  decide +kernel

end TileLevel.DeckCommand
