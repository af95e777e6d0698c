import Mathlib
import TileLevel.Proofs.Nearest

/-!
# JSON Texts

A JSON text is read in two layers. Its characters make up tokens, with blanks between them: marks,
strings, and words, which are numerals or one of three names. The tokens of a value are fixed by the
value, so a text is one of a value if its tokens are those of the value. No two values have the same
tokens, and a text is therefore one of at most one value.

## Main definitions

- `Json`: values
- `Json.Token.readAll?`: the tokens of a text
- `Json.tokens`: the tokens of a value
- `Json.IsText`: the texts of a value

## Main statements

- `Json.tokens_injective`, `Json.IsText.unique`: reading is unambiguous
- `Json.Spells.append`: tokens of texts behind one another
-/

namespace TileLevel

/-- A JSON value. Numbers are kept as decimals, and zero with its sign; objects keep the order of
    their members. -/
inductive Json where
  | null
  | bool (value : Bool)
  | number (negative : Bool) (decimal : Single.Decimal)
  | string (text : String)
  | array (items : List Json)
  | object (members : List (String × Json))

namespace Json

/-! ## §1 Numerals -/

namespace Numeral

/-- The number of some digits. There must be a digit. -/
def natural? (digits : List Char) : Option ℕ :=
  if digits ≠ [] ∧ digits.all Char.isDigit then some (Nat.ofDigitChars 10 digits 0) else none

/-- The digits behind a point, and what is behind them. Without a point there are none. -/
def fraction? : List Char → Option (List Char × List Char)
  | '.' :: rest =>
    if rest.takeWhile Char.isDigit = [] then none
    else some (rest.takeWhile Char.isDigit, rest.dropWhile Char.isDigit)
  | rest => some ([], rest)

/-- The exponent that ends a numeral, zero if there is none. -/
def exponent? : List Char → Option ℤ
  | [] => some 0
  | mark :: rest =>
    if mark = 'e' ∨ mark = 'E' then
      match rest with
      | '-' :: digits => (natural? digits).map fun n : ℕ => -(n : ℤ)
      | '+' :: digits => (natural? digits).map fun n : ℕ => (n : ℤ)
      | digits => (natural? digits).map fun n : ℕ => (n : ℤ)
    else none

/-- A numeral without a sign: digits, which begin with zero only if this is the one before the
    point, then perhaps a fraction, then perhaps an exponent. -/
def unsigned? (word : List Char) : Option Single.Decimal :=
  let whole := word.takeWhile Char.isDigit
  if whole = [] ∨ whole.head? = some '0' ∧ whole ≠ ['0'] then none
  else
    (fraction? (word.dropWhile Char.isDigit)).bind fun (fraction, rest) =>
      (exponent? rest).map fun exponent =>
        { digits := Nat.ofDigitChars 10 (whole ++ fraction) 0
          exponent := exponent - fraction.length }

/-- The sign and the decimal of a numeral. -/
def read? : List Char → Option (Bool × Single.Decimal)
  | '-' :: word => (unsigned? word).map (true, ·)
  | word => (unsigned? word).map (false, ·)

end Numeral

/-! ## §2 Strings -/

namespace Quoted

/-- The characters that a backslash and a letter stand for. -/
def shortEscapes : List (Char × Char) :=
  [('"', '"'), ('\\', '\\'), ('/', '/'), ('b', '\x08'), ('f', '\x0c'), ('n', '\n'), ('r', '\r'),
    ('t', '\t')]

def hexDigit? (c : Char) : Option ℕ :=
  if c.isDigit then some (c.toNat - '0'.toNat)
  else if 'a' ≤ c ∧ c ≤ 'f' then some (c.toNat - 'a'.toNat + 10)
  else if 'A' ≤ c ∧ c ≤ 'F' then some (c.toNat - 'A'.toNat + 10)
  else none

/-- Four hexadecimal digits. -/
def codeUnit? (digits : List Char) : Option ℕ :=
  (digits.mapM hexDigit?).map fun values => values.foldl (fun n value => 16 * n + value) 0

/-- The character of a code unit, or of two if the first one is half of a character. -/
def ofUnits? : ℕ → List Char → Option (Char × ℕ)
  | unit, rest =>
    if 0xD800 ≤ unit ∧ unit < 0xDC00 then
      match rest with
      | '\\' :: 'u' :: a :: b :: c :: d :: _ =>
        (codeUnit? [a, b, c, d]).bind fun low =>
          if 0xDC00 ≤ low ∧ low < 0xE000 then
            some (Char.ofNat (0x10000 + (unit - 0xD800) * 0x400 + (low - 0xDC00)), 12)
          else none
      | _ => none
    else if 0xDC00 ≤ unit ∧ unit < 0xE000 then none
    else some (Char.ofNat unit, 6)

/-- The first character in a string, and how many characters it is written with. -/
def character? : List Char → Option (Char × ℕ)
  | '\\' :: 'u' :: a :: b :: c :: d :: rest =>
    (codeUnit? [a, b, c, d]).bind fun unit => ofUnits? unit rest
  | '\\' :: letter :: _ => (shortEscapes.lookup letter).map (·, 2)
  | c :: _ => if c = '\\' ∨ c.toNat < 0x20 then none else some (c, 1)
  | [] => none

/-- The characters of a string up to its closing quote, and how many characters they and the quote
    are written with. The first `skip` characters belong to an escape that has been read. -/
def readFrom? : (skip : ℕ) → List Char → Option (List Char × ℕ)
  | _, [] => none
  | skip + 1, _ :: rest =>
    (readFrom? skip rest).map fun (text, length) => (text, length + 1)
  | 0, c :: rest =>
    if c = '"' then some ([], 1)
    else
      match character? (c :: rest) with
      | none => none
      | some (character, written) =>
        (readFrom? (written - 1) rest).map fun (text, length) => (character :: text, length + 1)

end Quoted

/-! ## §3 Tokens -/

inductive Token where
  /-- A bracket, a brace, a comma or a colon -/
  | mark (c : Char)
  | null
  | bool (value : Bool)
  | number (negative : Bool) (decimal : Single.Decimal)
  | string (text : String)
deriving DecidableEq

namespace Token

/-- The characters that may stand between tokens. -/
def isGap (c : Char) : Bool :=
  c == ' ' || c == '\t' || c == '\n' || c == '\r'

def isMark (c : Char) : Bool :=
  c == '[' || c == ']' || c == '\x7b' || c == '\x7d' || c == ',' || c == ':'

/-- The characters of words: those that do not end one. -/
def isWordChar (c : Char) : Bool :=
  !(isGap c || isMark c || c == '"')

/-- What a word means: a numeral, or one of three names. -/
def ofWord? (word : List Char) : Option Token :=
  match Numeral.read? word with
  | some (negative, decimal) => some (.number negative decimal)
  | none =>
    if word = ['n', 'u', 'l', 'l'] then some .null
    else if word = ['t', 'r', 'u', 'e'] then some (.bool true)
    else if word = ['f', 'a', 'l', 's', 'e'] then some (.bool false)
    else none

/-- The token that a text begins with, and how many characters it is written with. -/
def read? : List Char → Option (Token × ℕ)
  | [] => none
  | c :: rest =>
    if isMark c then some (.mark c, 1)
    else if c = '"' then
      (Quoted.readFrom? 0 rest).map fun (text, length) => (.string (.ofList text), length + 1)
    else
      let word := (c :: rest).takeWhile isWordChar
      (ofWord? word).map (·, word.length)

/-- The tokens of a text. The first `skip` characters belong to a token that has been read. -/
def readFrom? : (skip : ℕ) → List Char → Option (List Token)
  | _, [] => some []
  | skip + 1, _ :: rest => readFrom? skip rest
  | 0, c :: rest =>
    if isGap c then readFrom? 0 rest
    else
      match read? (c :: rest) with
      | none => none
      | some (token, written) => (readFrom? (written - 1) rest).map (token :: ·)

/-- The tokens of a text, if it is made up of tokens. -/
def readAll? (text : List Char) : Option (List Token) :=
  readFrom? 0 text

end Token

/-! ## §4 Values -/

mutual

/-- The tokens of a value. -/
def tokens : Json → List Token
  | .null => [.null]
  | .bool value => [.bool value]
  | .number negative decimal => [.number negative decimal]
  | .string text => [.string text]
  | .array items => .mark '[' :: itemTokens items
  | .object members => .mark '\x7b' :: memberTokens members

/-- The tokens of an array behind its opening bracket. -/
def itemTokens : List Json → List Token
  | [] => [.mark ']']
  | item :: items => item.tokens ++ furtherItemTokens items

/-- The tokens of an array behind an item: a comma before each further item, and the bracket. -/
def furtherItemTokens : List Json → List Token
  | [] => [.mark ']']
  | item :: items => .mark ',' :: (item.tokens ++ furtherItemTokens items)

/-- The tokens of an object behind its opening brace. -/
def memberTokens : List (String × Json) → List Token
  | [] => [.mark '\x7d']
  | (name, value) :: members =>
    .string name :: .mark ':' :: (value.tokens ++ furtherMemberTokens members)

/-- The tokens of an object behind a member: a comma before each further member, and the brace. -/
def furtherMemberTokens : List (String × Json) → List Token
  | [] => [.mark '\x7d']
  | (name, value) :: members =>
    .mark ',' :: .string name :: .mark ':' :: (value.tokens ++ furtherMemberTokens members)

end

/-- The texts of a value: those whose tokens are the tokens of the value. -/
def IsText (json : Json) (text : String) : Prop :=
  Token.readAll? text.toList = some json.tokens

/-! ## §5 Reading is unambiguous -/

/-- No value begins with a closing bracket. -/
theorem tokens_append_ne (json : Json) (rest others : List Token) :
    json.tokens ++ rest ≠ .mark ']' :: others := by
  cases json <;> simp [tokens]

/- The tokens of a value tell where it ends, so the statements are about the tokens of a value with
any others behind them. -/
mutual

theorem tokens_append_inj {rest rest' : List Token} :
    ∀ {a b : Json}, a.tokens ++ rest = b.tokens ++ rest' → a = b ∧ rest = rest'
  | .null, b, h => by cases b <;> simp_all [tokens]
  | .bool _, b, h => by cases b <;> simp_all [tokens]
  | .number _ _, b, h => by cases b <;> simp_all [tokens]
  | .string _, b, h => by cases b <;> simp_all [tokens]
  | .array items, b, h => by
    cases b with
    | array items' =>
      simp only [tokens, List.cons_append, List.cons.injEq, true_and] at h
      obtain ⟨rfl, rfl⟩ := itemTokens_append_inj h
      exact ⟨rfl, rfl⟩
    | _ => simp [tokens] at h
  | .object members, b, h => by
    cases b with
    | object members' =>
      simp only [tokens, List.cons_append, List.cons.injEq, true_and] at h
      obtain ⟨rfl, rfl⟩ := memberTokens_append_inj h
      exact ⟨rfl, rfl⟩
    | _ => simp [tokens] at h

theorem itemTokens_append_inj {rest rest' : List Token} :
    ∀ {as bs : List Json}, itemTokens as ++ rest = itemTokens bs ++ rest' → as = bs ∧ rest = rest'
  | [], [], h => by simpa [itemTokens] using h
  | [], b :: bs, h => by
    simp only [itemTokens, List.append_assoc] at h
    exact absurd h.symm (tokens_append_ne b _ _)
  | a :: as, [], h => by
    simp only [itemTokens, List.append_assoc] at h
    exact absurd h (tokens_append_ne a _ _)
  | a :: as, b :: bs, h => by
    simp only [itemTokens, List.append_assoc] at h
    obtain ⟨rfl, hfurther⟩ := tokens_append_inj h
    obtain ⟨rfl, rfl⟩ := furtherItemTokens_append_inj hfurther
    exact ⟨rfl, rfl⟩

theorem furtherItemTokens_append_inj {rest rest' : List Token} :
    ∀ {as bs : List Json},
      furtherItemTokens as ++ rest = furtherItemTokens bs ++ rest' → as = bs ∧ rest = rest'
  | [], [], h => by simpa [furtherItemTokens] using h
  | [], _ :: _, h => by simp [furtherItemTokens] at h
  | _ :: _, [], h => by simp [furtherItemTokens] at h
  | a :: as, b :: bs, h => by
    simp only [furtherItemTokens, List.cons_append, List.append_assoc, List.cons.injEq,
      true_and] at h
    obtain ⟨rfl, hfurther⟩ := tokens_append_inj h
    obtain ⟨rfl, rfl⟩ := furtherItemTokens_append_inj hfurther
    exact ⟨rfl, rfl⟩

theorem memberTokens_append_inj {rest rest' : List Token} :
    ∀ {as bs : List (String × Json)},
      memberTokens as ++ rest = memberTokens bs ++ rest' → as = bs ∧ rest = rest'
  | [], [], h => by simpa [memberTokens] using h
  | [], (_, _) :: _, h => by simp [memberTokens] at h
  | (_, _) :: _, [], h => by simp [memberTokens] at h
  | (name, a) :: as, (name', b) :: bs, h => by
    simp only [memberTokens, List.cons_append, List.append_assoc, List.cons.injEq, true_and,
      Token.string.injEq] at h
    obtain ⟨rfl, hvalue⟩ := h
    obtain ⟨rfl, hfurther⟩ := tokens_append_inj hvalue
    obtain ⟨rfl, rfl⟩ := furtherMemberTokens_append_inj hfurther
    exact ⟨rfl, rfl⟩

theorem furtherMemberTokens_append_inj {rest rest' : List Token} :
    ∀ {as bs : List (String × Json)},
      furtherMemberTokens as ++ rest = furtherMemberTokens bs ++ rest' → as = bs ∧ rest = rest'
  | [], [], h => by simpa [furtherMemberTokens] using h
  | [], (_, _) :: _, h => by simp [furtherMemberTokens] at h
  | (_, _) :: _, [], h => by simp [furtherMemberTokens] at h
  | (name, a) :: as, (name', b) :: bs, h => by
    simp only [furtherMemberTokens, List.cons_append, List.append_assoc, List.cons.injEq, true_and,
      Token.string.injEq] at h
    obtain ⟨rfl, hvalue⟩ := h
    obtain ⟨rfl, hfurther⟩ := tokens_append_inj hvalue
    obtain ⟨rfl, rfl⟩ := furtherMemberTokens_append_inj hfurther
    exact ⟨rfl, rfl⟩

end

theorem tokens_injective : Function.Injective tokens := by
  intro a b h
  have happend : a.tokens ++ [] = b.tokens ++ [] := by rw [h]
  exact (tokens_append_inj happend).1

/-- **A text is one of at most one value.** -/
theorem IsText.unique {a b : Json} {text : String} (ha : a.IsText text) (hb : b.IsText text) :
    a = b := by
  apply tokens_injective
  exact Option.some.inj (ha.symm.trans hb)

/-! ## §6 Texts behind one another -/

/-- A run of characters of a class ends where the first other character comes. -/
theorem takeWhile_append_eq {p : Char → Bool} {run rest : List Char} (hrun : ∀ c ∈ run, p c)
    (hrest : ∀ c ∈ rest.head?, p c = false) : (run ++ rest).takeWhile p = run := by
  rw [List.takeWhile_append_of_pos hrun]
  cases rest <;> simp_all

theorem dropWhile_append_eq {p : Char → Bool} {run rest : List Char} (hrun : ∀ c ∈ run, p c)
    (hrest : ∀ c ∈ rest.head?, p c = false) : (run ++ rest).dropWhile p = rest := by
  rw [List.dropWhile_append_of_pos hrun]
  cases rest <;> simp_all

namespace Quoted

/-- Characters of a string that stand for themselves. -/
def IsPlain (c : Char) : Prop :=
  c ≠ '"' ∧ c ≠ '\\' ∧ 0x20 ≤ c.toNat

instance : DecidablePred IsPlain := fun _ =>
  inferInstanceAs (Decidable (_ ∧ _))

theorem character?_of_isPlain {c : Char} (h : IsPlain c) (rest : List Char) :
    character? (c :: rest) = some (c, 1) := by
  obtain ⟨-, hbackslash, hcontrol⟩ := h
  unfold character?
  split <;> simp_all

theorem readFrom?_of_isPlain {text : List Char} (h : ∀ c ∈ text, IsPlain c) (rest : List Char) :
    readFrom? 0 (text ++ '"' :: rest) = some (text, text.length + 1) := by
  induction text with
  | nil => simp [readFrom?]
  | cons c others ih =>
    have hc := h c (List.mem_cons_self ..)
    have hothers := ih fun c' hc' => h c' (List.mem_cons_of_mem _ hc')
    simp only [List.cons_append, readFrom?, if_neg hc.1, character?_of_isPlain hc, hothers]
    simp

end Quoted

namespace Token

theorem isGap_of_isMark {c : Char} (h : isMark c) : isGap c = false := by
  simp only [isMark, Bool.or_eq_true, beq_iff_eq, or_assoc] at h
  rcases h with rfl | rfl | rfl | rfl | rfl | rfl <;> rfl

theorem isWordChar_iff {c : Char} :
    isWordChar c ↔ isGap c = false ∧ isMark c = false ∧ c ≠ '"' := by
  simp [isWordChar, and_assoc]

/-- Characters that belong to the tokens before them are passed over. -/
theorem readFrom?_skip (skip : ℕ) (text : List Char) :
    readFrom? skip text = readFrom? 0 (text.drop skip) := by
  induction text generalizing skip with
  | nil => simp [readFrom?]
  | cons c rest ih =>
    cases skip with
    | zero => rfl
    | succ skip =>
      rw [readFrom?, List.drop_succ_cons]
      apply ih

theorem readFrom?_gap {c : Char} {rest : List Char} (h : isGap c) :
    readFrom? 0 (c :: rest) = readFrom? 0 rest := by
  simp [readFrom?, h]

/-- A token at the beginning of a text comes first. -/
theorem readFrom?_append {written rest : List Char} {token : Token}
    (hread : read? (written ++ rest) = some (token, written.length))
    (hgap : ∀ c ∈ written.head?, isGap c = false) (hne : written ≠ []) :
    readFrom? 0 (written ++ rest) = (readFrom? 0 rest).map (token :: ·) := by
  obtain ⟨c, others, rfl⟩ := List.exists_cons_of_ne_nil hne
  have hc : isGap c = false := hgap c rfl
  rw [List.cons_append] at hread ⊢
  simp only [readFrom?, hc, hread, Bool.false_eq_true, if_false]
  rw [readFrom?_skip]
  simp

end Token

/-- Whether the word before a text ends there. -/
def EndsWord (text : List Char) : Prop :=
  ∀ c ∈ text.head?, Token.isWordChar c = false

/-- A text is made up of some tokens, whatever comes behind it that ends a word. -/
def Spells (text : List Char) (tokens : List Token) : Prop :=
  ∀ rest, EndsWord rest →
    Token.readFrom? 0 (text ++ rest) = (Token.readFrom? 0 rest).map (tokens ++ ·)

theorem endsWord_append {a b : List Char} (ha : EndsWord a) (hb : EndsWord b) :
    EndsWord (a ++ b) := by
  cases a with
  | nil => exact hb
  | cons c rest => exact ha

namespace Spells

variable {a b : List Char} {s t : List Token}

theorem nil : Spells [] [] := by
  intro rest _
  simp

/-- **Tokens of texts behind one another** are behind one another too, if the second text does not
    begin in the middle of a word. -/
theorem append (ha : Spells a s) (hb : Spells b t) (hends : EndsWord b) :
    Spells (a ++ b) (s ++ t) := by
  intro rest hrest
  rw [List.append_assoc, ha _ (endsWord_append hends hrest), hb _ hrest, Option.map_map]
  simp [Function.comp_def]

theorem isText {json : Json} {text : List Char} (h : Spells text json.tokens) :
    json.IsText (.ofList text) := by
  have hread := h [] (by simp [EndsWord])
  simpa [IsText, Token.readAll?, Token.readFrom?] using hread

/-- A blank before a text changes nothing. -/
theorem gap_cons {c : Char} (hc : Token.isGap c) (hb : Spells b t) : Spells (c :: b) t := by
  intro rest hrest
  rw [List.cons_append, Token.readFrom?_gap hc, hb rest hrest]

theorem gaps_append {gaps : List Char} (hgaps : ∀ c ∈ gaps, Token.isGap c) (hb : Spells b t) :
    Spells (gaps ++ b) t := by
  induction gaps with
  | nil => exact hb
  | cons c others ih =>
    apply gap_cons (hgaps c (List.mem_cons_self ..))
    exact ih fun c' hc' => hgaps c' (List.mem_cons_of_mem _ hc')

/-- A mark before a text is a token of its own. -/
theorem mark_cons {c : Char} (hc : Token.isMark c) (hb : Spells b t) :
    Spells (c :: b) (.mark c :: t) := by
  intro rest hrest
  have hread : Token.read? ([c] ++ (b ++ rest)) = some (.mark c, [c].length) := by
    simp [Token.read?, hc]
  have hmark := Token.readFrom?_append hread (by simpa using Token.isGap_of_isMark hc) (by simp)
  rw [List.singleton_append, hb rest hrest, Option.map_map] at hmark
  exact hmark

theorem word {word : List Char} {token : Token} (hword : Token.ofWord? word = some token)
    (hchars : ∀ c ∈ word, Token.isWordChar c) (hne : word ≠ []) : Spells word [token] := by
  intro rest hrest
  obtain ⟨c, others, rfl⟩ := List.exists_cons_of_ne_nil hne
  obtain ⟨hgap, hmark, hquote⟩ := Token.isWordChar_iff.mp (hchars c (List.mem_cons_self ..))
  apply Token.readFrom?_append
  · have hrun := takeWhile_append_eq hchars hrest
    rw [List.cons_append] at hrun ⊢
    simp only [Token.read?, hmark, Bool.false_eq_true, if_false, if_neg hquote, hrun, hword]
    rfl
  · simpa using hgap
  · exact hne

/-- A string before a text is a token of its own. -/
theorem string_append {text : List Char} (htext : ∀ c ∈ text, Quoted.IsPlain c) (hb : Spells b t) :
    Spells ('"' :: (text ++ '"' :: b)) (.string (.ofList text) :: t) := by
  intro rest hrest
  have hquoted := Quoted.readFrom?_of_isPlain htext (b ++ rest)
  have hread : Token.read? ('"' :: (text ++ ['"']) ++ (b ++ rest))
      = some (.string (.ofList text), ('"' :: (text ++ ['"'])).length) := by
    simp [Token.read?, Token.isMark, hquoted]
  have hstring := Token.readFrom?_append hread (by simp [Token.isGap]) (by simp)
  rw [hb rest hrest, Option.map_map] at hstring
  simpa [Function.comp_def] using hstring

end Spells

end Json

end TileLevel
