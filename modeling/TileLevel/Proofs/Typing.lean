import Mathlib
import TileLevel.FileTree
import TileLevel.Proofs.Grammar
import TileLevel.Proofs.Runs

/-!
# Commands Survive Printing, Padding and Typing

A command that has been read can be written down and is read again as itself; blanks around an input
change nothing; and a path is read as it stands, whatever is inside it. At the command deck an input
is typed character by character and characters are taken back, so what is read is what was not taken
back in the end. A command that is submitted does what its event does.

## Main definitions

- `Edit`: a character typed or one taken back
- `Edit.remains`, `Edit.survivors`: what is left of some edits

## Main statements

- `DeckCommand.parse_text_parse`, `DeckCommand.parse_blanks_append`: printing and padding
- `Session.typed_editAll`: what has been typed after some edits
- `Session.commands_survive_typing`: all of this together
-/

namespace TileLevel

namespace DeckCommand

variable {s : List Char} {command : DeckCommand} {path : String}

/-! ## §1 Printing and padding -/

/-- What a trimmed text means is read from it. -/
theorem parse_of_means (hs : Text.IsTrimmed s) (h : Means s command) :
    parse (.ofList s) = command := by
  rw [parse_eq_iff_means, String.toList_ofList, Text.trim_eq_self hs]
  exact h

/-- A path after a sign or a name is read as it stands. -/
theorem parse_append_path {c : Char} {between : List Char} (hc : Text.isBlank c = false)
    (hne : path ≠ "") (hpath : Text.IsTrimmed path.toList)
    (hspells : Spells (c :: between ++ path.toList) command) :
    parse (.ofList (c :: between) ++ path) = command := by
  have hlist : path.toList ≠ [] := by simpa using hne
  have hmeans : Means (c :: between ++ path.toList) command := .inl hspells
  have hread := parse_of_means (hpath.cons_append hlist hc between) hmeans
  rwa [String.ofList_append, String.ofList_toList] at hread

/-- **A path to load** is read as it stands. -/
theorem parse_at (hne : path ≠ "") (hpath : Text.IsTrimmed path.toList) :
    parse ("@" ++ path) = .loadFile path := by
  have hlist : path.toList ≠ [] := by simpa using hne
  exact parse_append_path rfl hne hpath ⟨path.toList, hlist, rfl, Text.trim_eq_self hpath⟩

/-- **A path to write to** is read as it stands, after either name of an export. -/
theorem parse_write (hne : path ≠ "") (hpath : Text.IsTrimmed path.toList) :
    parse (":w " ++ path) = .exportTo path ∧ parse (":write " ++ path) = .exportTo path := by
  have hargument := Text.trim_eq_self hpath
  constructor
  · exact parse_append_path rfl hne hpath ⟨path.toList, .inl rfl, hargument⟩
  · exact parse_append_path rfl hne hpath ⟨path.toList, .inr rfl, hargument⟩

/-- **A command that was read** is read again from what it is written down as. -/
theorem parse_text_parse (input : String) : parse (parse input).text = parse input := by
  have hs := Text.isTrimmed_trim input.toList
  have hmeans := (parse_eq_iff_means input).mp rfl
  cases hread : parse input with
  | quit | help | reload => rfl
  | loadFile path =>
    rw [hread] at hmeans
    obtain ⟨hne, hpath⟩ := Spells.path_visible hs (.inl (hmeans.spells nofun))
    exact parse_at hne hpath
  | exportTo path =>
    rw [hread] at hmeans
    obtain ⟨hne, hpath⟩ := Spells.path_visible hs (.inr (hmeans.spells nofun))
    exact (parse_write hne hpath).1
  | unknown text =>
    rw [hread] at hmeans
    rcases hmeans with hspells | ⟨hunknown, hnone⟩
    · cases hspells
    · -- the input without its blanks spells no command either
      cases hunknown
      exact parse_of_means hs (.inr ⟨rfl, hnone⟩)

/-- **Blanks around an input** change nothing. -/
theorem parse_blanks_append {before after : String} (hbefore : ∀ c ∈ before.toList, Text.isBlank c)
    (hafter : ∀ c ∈ after.toList, Text.isBlank c) (input : String) :
    parse (before ++ input ++ after) = parse input := by
  have htrim := Text.trim_blanks_append hbefore hafter input.toList
  simp only [parse, String.toList_append, htrim]

end DeckCommand

/-! ## §2 Edits -/

/-- A character that is typed, or one that is taken back. -/
inductive Edit where
  | type (c : Char)
  | erase
deriving DecidableEq, Repr

namespace Edit

/-- What is left of some edits: how many erasures take back characters from before the edits, and the
    characters that are not taken back. Each erasure takes the nearest character before it that no
    erasure in between takes. -/
def remains : List Edit → ℕ × List Char
  | [] => (0, [])
  | .erase :: edits => ((remains edits).1 + 1, (remains edits).2)
  | .type c :: edits =>
    match remains edits with
    | (0, text) => (0, c :: text)
    | (erasures + 1, text) => (erasures, text)

/-- The characters that are not taken back. -/
def survivors (edits : List Edit) : List Char :=
  (remains edits).2

end Edit

namespace Session

variable {Files : Type} [FileSystem Files] {s : Session}

def edit (s : Session) : Edit → Session
  | .type c => s.type c
  | .erase => s.erase

/-- The session after some edits. -/
def editAll (edits : List Edit) (s : Session) : Session :=
  edits.foldl edit s

theorem editAll_cons (edit : Edit) (edits : List Edit) (s : Session) :
    s.editAll (edit :: edits) = (s.edit edit).editAll edits := rfl

/-- **What has been typed after some edits**: what was not taken back of it, after what was not taken
    back of the text before. The last character comes first. -/
theorem typed_editAll (edits : List Edit) (s : Session) :
    (s.editAll edits).typed
      = (Edit.survivors edits).reverse ++ s.typed.drop (Edit.remains edits).1 := by
  unfold Edit.survivors
  induction edits generalizing s with
  | nil => rfl
  | cons edit edits ih =>
    rw [editAll_cons, ih]
    cases edit with
    | erase =>
      have htyped : (s.edit .erase).typed = s.typed.tail := rfl
      rw [htyped, List.drop_tail, Edit.remains]
    | type c =>
      have htyped : (s.edit (.type c)).typed = c :: s.typed := rfl
      rw [htyped, Edit.remains]
      -- the character stays unless an erasure reaches back to it
      cases hremains : Edit.remains edits with
      | mk erasures text =>
        cases erasures with
        | zero => simp
        | succ erasures => simp

/-- Edits change what has been typed and nothing else. -/
theorem editAll_eq (edits : List Edit) (s : Session) :
    s.editAll edits = { s with typed := (s.editAll edits).typed } := by
  induction edits generalizing s with
  | nil => rfl
  | cons edit edits ih =>
    rw [editAll_cons, ih]
    cases edit <;> rfl

theorem input_eq_empty_iff : s.input = "" ↔ s.typed = [] := by
  rw [input, String.ofList_eq_empty_iff, List.reverse_eq_nil_iff]

/-- **The input after some edits** is what was not taken back, if there was none before. -/
theorem input_editAll (hempty : s.typed = []) (edits : List Edit) :
    (s.editAll edits).input = .ofList (Edit.survivors edits) := by
  rw [input, typed_editAll, hempty, List.drop_nil, List.append_nil, List.reverse_reverse]

/-- An event leaves the command deck alone. -/
theorem typed_handle [NumberPrinter] (s : Session) (files : Files) (event : Event) :
    (s.handle files event).1.typed = s.typed := by
  cases hreading : s.eventReading? files event with
  | some reading =>
    obtain ⟨status, hafter⟩ := handle_of_reading hreading
    rw [hafter]
  | none =>
    obtain ⟨status, hafter⟩ := handle_of_no_reading hreading
    rw [hafter]

/-- **What is submitted after some edits** is the command that the surviving characters spell. -/
theorem submit_editAll [NumberPrinter] (hempty : s.typed = []) (edits : List Edit) (files : Files) :
    (s.editAll edits).submit files =
      { s with mode := s.restingMode }.handle files
        (DeckCommand.parse (.ofList (Edit.survivors edits))).event := by
  have hdeck : { s.editAll edits with typed := [], mode := (s.editAll edits).restingMode }
      = { s with mode := s.restingMode } := by
    rw [editAll_eq, ← hempty]
    rfl
  rw [submit, input_editAll hempty, hdeck]

/-! ## §3 All together -/

/-- **Commands survive printing, padding and typing.** A command that was read is read again from
    what it is written down as; blanks around an input change nothing; and a path that is not empty
    and trimmed is read as it stands after the sign of a load and both names of an export. In every
    session with an empty input, characters typed and taken back in any order and then submitted do
    what the event of the command does that the surviving characters spell, in the mode that the
    session comes back to, and leave the input empty. -/
theorem commands_survive_typing [NumberPrinter] :
    (∀ input, DeckCommand.parse (DeckCommand.parse input).text = DeckCommand.parse input)
      ∧ (∀ before input after : String, (∀ c ∈ before.toList, Text.isBlank c) →
          (∀ c ∈ after.toList, Text.isBlank c) →
            DeckCommand.parse (before ++ input ++ after) = DeckCommand.parse input)
      ∧ (∀ path : String, path ≠ "" → Text.IsTrimmed path.toList →
          DeckCommand.parse ("@" ++ path) = .loadFile path
            ∧ DeckCommand.parse (":w " ++ path) = .exportTo path
            ∧ DeckCommand.parse (":write " ++ path) = .exportTo path)
      ∧ ∀ (s : Session) (edits : List Edit) (files : Files), s.input = "" →
          let answer := (s.editAll edits).submit files
          answer = { s with mode := s.restingMode }.handle files
              (DeckCommand.parse (.ofList (Edit.survivors edits))).event
            ∧ answer.1.input = "" := by
  refine ⟨DeckCommand.parse_text_parse,
    fun _ input _ hbefore hafter => DeckCommand.parse_blanks_append hbefore hafter input,
    fun _ hne hpath => ⟨DeckCommand.parse_at hne hpath, DeckCommand.parse_write hne hpath⟩,
    ?submitted⟩
  case submitted =>
    intro s edits files hempty answer
    have htyped := input_eq_empty_iff.mp hempty
    have hanswer : answer = _ := submit_editAll htyped edits files
    refine ⟨hanswer, input_eq_empty_iff.mpr ?_⟩
    rw [hanswer, typed_handle]
    exact htyped

/-- A load that is typed after an erasure too many, with wide characters taken back and a blank of
    another kind at its end; a path with signs inside it; and a command between blanks. -/
theorem commands_survive_typing_erased :
    let edits : List Edit :=
      [.erase, .type '@', .type '界', .type '█', .erase, .erase, .type 'a', .type ' ', .type 'b',
        .type '\u3000']
    let files : FileTree := { entries := [(["a b"], .file "O".toUTF8)] }
    (start {}).input = ""
      ∧ ((start {}).editAll edits).submit files = (start {}).handle files (.loadFile "a b")
      ∧ (((start {}).editAll edits).submit files).1.input = ""
      ∧ DeckCommand.parse ("@" ++ "a @b: c") = .loadFile "a @b: c"
      ∧ DeckCommand.parse ("\u00A0" ++ ":q" ++ "\n") = .quit
      ∧ DeckCommand.parse (DeckCommand.parse "\t:write  a b ").text = .exportTo "a b" := by
  intro edits files
  obtain ⟨hprinted, hpadded, hpath, hsubmitted⟩ := @commands_survive_typing FileTree _ _
  have hspelled : DeckCommand.parse (.ofList (Edit.survivors edits)) = .loadFile "a b" := by
    decide +kernel
  obtain ⟨hanswer, hempty⟩ := hsubmitted (start {}) edits files rfl
  rw [hspelled] at hanswer
  have htrimmed : Text.IsTrimmed "a @b: c".toList := by
    have htrim : Text.trim "a @b: c".toList = "a @b: c".toList := by decide +kernel
    rw [← htrim]
    exact Text.isTrimmed_trim _
  have hbefore : ∀ c ∈ "\u00A0".toList, Text.isBlank c := List.forall_mem_singleton.mpr rfl
  have hafter : ∀ c ∈ "\n".toList, Text.isBlank c := List.forall_mem_singleton.mpr rfl
  refine ⟨rfl, hanswer, hempty, (hpath "a @b: c" (by decide) htrimmed).1, ?_, ?_⟩
  · exact (hpadded "\u00A0" ":q" "\n" hbefore hafter).trans (by decide +kernel)
  · exact (hprinted "\t:write  a b ").trans (by decide +kernel)

end Session

end TileLevel
