import Mathlib
import TileLevel.Proofs.Numerals
import TileLevel.Proofs.Splitting

/-!
# Exported Commands Read Back

The exported text of some commands is a text of one JSON value: an array with one object for each
command. Every coordinate is told by a value of its own, so one that is not finite, and is written
`null`, changes no other member. Finite coordinates are told by numerals, and all that is asked of
their printer is that what it prints is read as the number again. So the text tells the commands.

## Layers

- A: what a value tells: `Json.IsCoordinate`, `Json.ofCommand`
- B: from texts to tokens: `Json.Spells.joined`, `Json.Spells.enclosed`, `Export.spells_objectText`
- C: from values back to commands: `Json.IsCoordinate.unique`, `Json.ofCommand_injOn`

## Main definitions

- `LawfulNumberPrinter`: printers whose numerals read back; the shortest numerals do

## Main statements

- `Export.export_reads_back`: there is a text, it is one of the value of the commands and of no
  other, and commands with finite coordinates can be told from it
-/

namespace TileLevel

/-- Printers that never give up and whose numerals are read back as the number, zero with its sign. -/
class LawfulNumberPrinter [NumberPrinter] : Prop where
  reads_back : ∀ (negative : Bool) (m : Single.Magnitude), ∃ numeral decimal,
    NumberPrinter.print negative m = .ok numeral
      ∧ Json.Numeral.read? numeral.toList = some (negative, decimal)
      ∧ decimal.nearest negative = .finite negative m

/-! ## §1 What a value tells -/

/-- Numbers with a magnitude. -/
inductive Single.IsFinite : Single → Prop
  | finite (negative : Bool) (m : Single.Magnitude) : IsFinite (.finite negative m)

/-- Commands at a position that is finite in every direction. -/
structure Command.IsFinite (command : Command) : Prop where
  x : command.position.x.IsFinite
  y : command.position.y.IsFinite
  z : command.position.z.IsFinite

namespace Json

/-- What a value tells about a coordinate. -/
inductive IsCoordinate : Json → Single → Prop
  /-- A number tells the coordinate that it is read as, zero with its sign. -/
  | finite {negative : Bool} {decimal : Single.Decimal} {m : Single.Magnitude}
      (hread : decimal.nearest negative = .finite negative m) :
      IsCoordinate (.number negative decimal) (.finite negative m)
  /-- `null` tells no more than that the coordinate is not finite. -/
  | null {x : Single} (hnot : ¬ x.IsFinite) : IsCoordinate .null x

/-- The value of a command, if the value of each coordinate is given. -/
def ofCommand (coordinate : Single → Json) (command : Command) : Json :=
  .object
    [ ("kind", .string command.kind.name)
    , ("x", coordinate command.position.x)
    , ("y", coordinate command.position.y)
    , ("z", coordinate command.position.z) ]

/-! ## §2 Lists between brackets -/

theorem itemTokens_cons (item : Json) (items : List Json) :
    itemTokens (item :: items) =
      item.tokens ++ (items.flatMap fun item => .mark ',' :: item.tokens) ++ [.mark ']'] := by
  have hfurther :
      furtherItemTokens items =
        (items.flatMap fun item => .mark ',' :: item.tokens) ++ [.mark ']'] := by
    induction items with
    | nil => simp [furtherItemTokens]
    | cons item items ih => simp [furtherItemTokens, ih]
  rw [itemTokens, hfurther, List.append_assoc]

namespace Spells

/-- Texts with commas and line ends between them. -/
theorem joined {α : Type} (written : α → List Char) (read : α → List Token) (first : α)
    (others : List α) (h : ∀ a ∈ first :: others, Spells (written a) (read a)) :
    Spells (Text.joinWith [',', '\n'] ((first :: others).map written))
      (read first ++ others.flatMap fun a => .mark ',' :: read a) := by
  induction others generalizing first with
  | nil => simpa [Text.joinWith_singleton] using h first (List.mem_cons_self ..)
  | cons second others ih =>
    have hfirst := h first (List.mem_cons_self ..)
    have hothers := ih second fun a ha => h a (List.mem_cons_of_mem _ ha)
    have hbreak := mark_cons (c := ',') rfl (gap_cons (c := '\n') rfl hothers)
    rw [List.map_cons, Text.joinWith_cons _ (by simp), List.append_assoc]
    exact hfirst.append hbreak (by simp [EndsWord, Token.isWordChar, Token.isMark])

/-- A text between brackets, with line ends on both sides. -/
theorem enclosed (opening closing : Char) {indent text : List Char} {tokens : List Token}
    (hopening : Token.isMark opening) (hclosing : Token.isMark closing)
    (hindent : ∀ c ∈ indent, Token.isGap c) (htext : Spells text tokens) :
    Spells (opening :: '\n' :: (text ++ '\n' :: (indent ++ [closing])))
      (.mark opening :: (tokens ++ [.mark closing])) := by
  have hlast := gap_cons (c := '\n') rfl (gaps_append hindent (mark_cons hclosing nil))
  have hinner := htext.append hlast (by simp [EndsWord, Token.isWordChar, Token.isGap])
  exact mark_cons hopening (gap_cons rfl hinner)

end Spells

end Json

/-! ## §3 The exported text -/

namespace Export

open Json

instance : LawfulNumberPrinter where
  reads_back negative m := by
    obtain ⟨decimal, hread, hnearest⟩ := Numeral.exists_read?_writeSigned negative m
    exact ⟨_, decimal, rfl, by rwa [String.toList_ofList], hnearest⟩

/-- **Each coordinate is told** by a value that its text spells. -/
theorem exists_spells_coordinateText [NumberPrinter] [LawfulNumberPrinter] (x : Single) :
    ∃ value text, IsCoordinate value x ∧ coordinateText x = .ok text ∧ Spells text value.tokens := by
  have hnull : Spells "null".toList [.null] := by
    apply Spells.word rfl
    · simp [Token.isWordChar, Token.isGap, Token.isMark]
    · simp
  cases x with
  | finite negative m =>
    obtain ⟨numeral, decimal, hprint, hread, hnearest⟩ := LawfulNumberPrinter.reads_back negative m
    refine ⟨.number negative decimal, numeral.toList, .finite hnearest, ?_, Spells.numeral hread⟩
    rw [coordinateText, hprint]
    rfl
  | infinite negative =>
    refine ⟨.null, _, .null ?_, rfl, hnull⟩
    rintro ⟨⟩
  | nan =>
    refine ⟨.null, _, .null ?_, rfl, hnull⟩
    rintro ⟨⟩

theorem spells_memberText (name : List Char) {value : List Char} {tokens : List Token}
    (hname : ∀ c ∈ name, Quoted.IsPlain c) (hvalue : Spells value tokens) :
    Spells (memberText name value) (.string (.ofList name) :: .mark ':' :: tokens) := by
  have hindent : ∀ c ∈ [' ', ' ', ' ', ' '], Token.isGap c := by simp [Token.isGap]
  have hcolon := Spells.mark_cons (c := ':') rfl (Spells.gap_cons (c := ' ') rfl hvalue)
  have htext : memberText name value =
      [' ', ' ', ' ', ' '] ++ ('"' :: (name ++ '"' :: (':' :: ' ' :: value))) := by
    unfold memberText
    simp
  rw [htext]
  exact Spells.gaps_append hindent (Spells.string_append hname hcolon)

theorem isPlain_name (kind : Kind) : ∀ c ∈ kind.name.toList, Quoted.IsPlain c := by
  cases kind <;> simp [Kind.name, Quoted.IsPlain]

theorem spells_kind (kind : Kind) :
    Spells ('"' :: kind.name.toList ++ ['"']) [.string kind.name] := by
  simpa using Spells.string_append (isPlain_name kind) Spells.nil

theorem spells_objectText (kind : Kind) {x y z : List Char} {vx vy vz : Json}
    (hx : Spells x vx.tokens) (hy : Spells y vy.tokens) (hz : Spells z vz.tokens) :
    Spells (objectText kind x y z)
      (Json.object [("kind", .string kind.name), ("x", vx), ("y", vy), ("z", vz)]).tokens := by
  have hkind := spells_memberText ['k', 'i', 'n', 'd'] (by simp [Quoted.IsPlain]) (spells_kind kind)
  have hx := spells_memberText ['x'] (by simp [Quoted.IsPlain]) hx
  have hy := spells_memberText ['y'] (by simp [Quoted.IsPlain]) hy
  have hz := spells_memberText ['z'] (by simp [Quoted.IsPlain]) hz
  -- every member is a pair of its text and the tokens that the text spells
  have hmembers := Spells.joined Prod.fst Prod.snd (_, _) [(_, _), (_, _), (_, _)]
    (by simpa using ⟨hkind, hx, hy, hz⟩)
  have hindent : ∀ c ∈ [' ', ' '], Token.isGap c := by simp [Token.isGap]
  have hobject := Spells.enclosed '\x7b' '\x7d' rfl rfl hindent hmembers
  simpa [objectText, tokens, memberTokens, furtherMemberTokens]
    using Spells.gaps_append hindent hobject

theorem spells_arrayText {object : Command → List Char} {value : Command → Json}
    (h : ∀ command, Spells (object command) (value command).tokens) (commands : List Command) :
    Spells (arrayText (commands.map object)) (Json.array (commands.map value)).tokens := by
  cases commands with
  | nil =>
    have hempty := Spells.mark_cons (c := '[') rfl (Spells.mark_cons (c := ']') rfl Spells.nil)
    simpa [arrayText, tokens, itemTokens] using hempty
  | cons first others =>
    have hitems := Spells.joined object (fun command => (value command).tokens) first others
      fun command _ => h command
    have hindent : ∀ c ∈ ([] : List Char), Token.isGap c := by simp
    have harray := Spells.enclosed '[' ']' rfl rfl hindent hitems
    rw [tokens, List.map_cons, List.map_cons, itemTokens_cons, List.flatMap_map]
    simpa [arrayText] using harray

section

variable [NumberPrinter]

/-- The only way for a text to fail is that a numeral cannot be printed. -/
theorem exists_cause_of_toJson_eq_error {commands : List Command} {failure : ExportError}
    (h : toJson commands = .error failure) : ∃ cause, failure = .serialize cause := by
  unfold toJson at h
  split at h
  case h_1 cause _ =>
    cases h
    exact ⟨cause, rfl⟩
  case h_2 => cases h

/-- Commands whose coordinates can all be printed have a text. -/
theorem toJson_eq_ok {text : Single → List Char} (h : ∀ x, coordinateText x = .ok (text x))
    (commands : List Command) :
    toJson commands = .ok (.ofList (arrayText (commands.map fun command =>
      objectText command.kind (text command.position.x) (text command.position.y)
        (text command.position.z)))) := by
  have hcommand : commandText = fun command => pure
      (objectText command.kind (text command.position.x) (text command.position.y)
        (text command.position.z)) := by
    funext command
    simp only [commandText, h]
    rfl
  rw [toJson, hcommand, List.mapM_pure]
  rfl

end

end Export

/-! ## §4 Commands from values -/

namespace Json

/-- A value tells at most one finite coordinate. -/
theorem IsCoordinate.unique {value : Json} {x y : Single} (hx : IsCoordinate value x)
    (hy : IsCoordinate value y) (hfinite : x.IsFinite) : x = y := by
  cases hx with
  | finite hx =>
    cases hy with
    | finite hy => exact hx.symm.trans hy
  | null hnot => exact absurd hfinite hnot

variable {coordinate : Single → Json}

theorem ofCommand_injOn (h : ∀ x, IsCoordinate (coordinate x) x) {a b : Command} (ha : a.IsFinite)
    (hsame : ofCommand coordinate a = ofCommand coordinate b) : a = b := by
  -- equal values tell equal coordinates, if one of them is finite
  have heq {x y : Single} (hx : x.IsFinite) (hsame : coordinate x = coordinate y) : x = y := by
    apply (h x).unique _ hx
    rw [hsame]
    exact h y
  obtain ⟨kind, x, y, z⟩ := a
  obtain ⟨kind', x', y', z'⟩ := b
  simp only [ofCommand, Json.object.injEq, List.cons.injEq, Prod.mk.injEq, true_and, and_true,
    Json.string.injEq] at hsame
  obtain ⟨hkind, hx, hy, hz⟩ := hsame
  obtain rfl := Kind.name_injective hkind
  obtain rfl := heq ha.x hx
  obtain rfl := heq ha.y hy
  obtain rfl := heq ha.z hz
  rfl

theorem map_ofCommand_injOn (h : ∀ x, IsCoordinate (coordinate x) x) {as bs : List Command}
    (has : ∀ a ∈ as, a.IsFinite)
    (hsame : as.map (ofCommand coordinate) = bs.map (ofCommand coordinate)) : as = bs := by
  induction as generalizing bs with
  | nil => simpa using hsame.symm
  | cons a as ih =>
    cases bs with
    | nil => simp at hsame
    | cons b bs =>
      simp only [List.map_cons, List.cons.injEq] at hsame
      obtain ⟨hfirst, hothers⟩ := hsame
      rw [ofCommand_injOn h (has a (List.mem_cons_self ..)) hfirst,
        ih (fun a ha => has a (List.mem_cons_of_mem _ ha)) hothers]

end Json

/-! ## §5 Reading back -/

namespace Export

open Json

/-- **Exported commands read back.** Let numerals be printed in any way in which they read back. Then
    there is a text for every list of commands, and it is one of a single JSON value: the array of the
    commands in their order, each an object with the members `kind`, `x`, `y` and `z` in that order. A
    finite coordinate is a number that is read as it, any other one is `null`, whatever the rest of
    the command is. So commands with finite coordinates share their text with no others. -/
theorem export_reads_back [NumberPrinter] [LawfulNumberPrinter] :
    ∃ coordinate : Single → Json,
      (∀ x, IsCoordinate (coordinate x) x)
        ∧ (∀ commands : List Command, ∃ text, toJson commands = .ok text
            ∧ ∀ json : Json, json.IsText text ↔ json = .array (commands.map (ofCommand coordinate)))
        ∧ ∀ commands, (∀ command ∈ commands, command.IsFinite) →
            ∀ others, toJson commands = toJson others ↔ commands = others := by
  choose coordinate written hcoordinate hwritten hspells using exists_spells_coordinateText
  have htext (commands : List Command) : ∃ text, toJson commands = .ok text
      ∧ (Json.array (commands.map (ofCommand coordinate))).IsText text :=
    ⟨_, toJson_eq_ok hwritten commands, (spells_arrayText (fun command =>
      spells_objectText command.kind (hspells _) (hspells _) (hspells _)) commands).isText⟩
  refine ⟨coordinate, hcoordinate, ?reading, ?telling⟩
  case reading =>
    intro commands
    obtain ⟨text, hjson, hvalue⟩ := htext commands
    refine ⟨text, hjson, fun json => ⟨?_, ?_⟩⟩
    · intro h
      exact h.unique hvalue
    · rintro rfl
      exact hvalue
  case telling =>
    intro commands hfinite others
    constructor
    · intro hsame
      obtain ⟨text, hjson, hvalue⟩ := htext commands
      obtain ⟨text', hjson', hvalue'⟩ := htext others
      -- the shared text is one of the value of either list
      obtain rfl : text = text' := Except.ok.inj (hjson.symm.trans (hsame.trans hjson'))
      have hvalues := hvalue.unique hvalue'
      rw [Json.array.injEq] at hvalues
      exact map_ofCommand_injOn hcoordinate hfinite hvalues
    · rintro rfl
      rfl

/-- The shortest numerals tell the two zeros apart, and what is not finite is `null`. -/
theorem export_reads_back_zeros :
    (∀ command ∈ [⟨.playerSpawn, .defaultSpawn⟩], Command.IsFinite command)
      ∧ toJson [⟨.playerSpawn, .defaultSpawn⟩]
        ≠ toJson [⟨.playerSpawn, { Position.defaultSpawn with z := Single.zero.neg }⟩]
      ∧ toJson [⟨.floorValid, { x := .nan, y := Single.zero.neg, z := .half }⟩] = .ok
        ("[\n  \x7b\n    \"kind\": \"FloorValid\",\n    \"x\": null,\n    \"y\": -0.0,\n"
          ++ "    \"z\": 0.5\n  \x7d\n]") := by
  obtain ⟨_, _, _, htelling⟩ := export_reads_back
  have hfinite :
      ∀ command ∈ [⟨.playerSpawn, .defaultSpawn⟩], Command.IsFinite command := by
    simpa using ⟨.finite .., .finite .., .finite ..⟩
  refine ⟨hfinite, ?_, by decide +kernel⟩
  rw [Ne, htelling _ hfinite]
  decide

end Export

end TileLevel
