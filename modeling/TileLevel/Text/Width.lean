import TileLevel.Text.Cluster
import TileLevel.Text.WidthTable

/-!
# Columns of a Cluster

How many columns of a character screen a cluster takes. Most characters bring a width of their own;
signs that follow a character may change it: a variation sign picks the look of a picture, a skin
tone or a joiner melts into the picture before it, a stacked letter stands under the one before it.
So the columns are added up from the end, with a note of what follows.

## Main definitions

- `ColumnRules`: what two uses of a text count differently, `fitting` and `drawing`
- `ColumnRules.columnsOf`: columns of a character that stands alone
- `Tail.put`: what a character adds to the columns of what follows it
- `clusterColumns`: columns of a cluster
-/

namespace TileLevel.Text

/-! ## §1 One character -/

/-- What is counted by the age of the standard: a text is fitted by the widths of an earlier edition
    than the one it is drawn by. -/
structure ColumnRules where
  /-- Characters that take no column, beside `zeroWidthCodes` -/
  zeroWidth : CodeRanges
  /-- Characters that take two columns, beside `wideCodes` -/
  wide : CodeRanges
  /-- Whether two Kirat Rai vowel signs that spell a third one take the columns of that one -/
  joinsVowelSigns : Bool
  /-- Whether a variation sign makes a quotation mark wide -/
  widensQuotes : Bool
deriving DecidableEq, Repr

namespace ColumnRules

/-- The rules by which a text is fitted into a cell. -/
def fitting : ColumnRules where
  zeroWidth := fittingZeroWidthCodes
  wide := fittingWideCodes
  joinsVowelSigns := false
  widensQuotes := false

/-- The rules by which a text is drawn. -/
def drawing : ColumnRules where
  zeroWidth := drawingZeroWidthCodes
  wide := drawingWideCodes
  joinsVowelSigns := true
  widensQuotes := true

def columnsOf (rules : ColumnRules) (c : Char) : Nat :=
  if ' ' ≤ c && c ≤ '~' then 1
  else if zeroWidthCodes.holds c || rules.zeroWidth.holds c then 0
  else if wideCodes.holds c || rules.wide.holds c then 2
  else if c.toNat = 0x17D8 then 3
  else 1

/-- Whether a character that stands alone is a picture. All pictures are wide. -/
def isPicture (rules : ColumnRules) (c : Char) : Bool :=
  pictographicCodes.holds c && rules.columnsOf c == 2

end ColumnRules

def isSkinTone (c : Char) : Bool :=
  0x1F3FB ≤ c.toNat && c.toNat ≤ 0x1F3FF

/-- The letters of which two make a flag. -/
def isIndicator (c : Char) : Bool :=
  0x1F1E6 ≤ c.toNat && c.toNat ≤ 0x1F1FF

/-- A picture that a variation sign turns into one column of text. -/
def isRestyledPicture (c : Char) : Bool :=
  pictographicCodes.holds c && restyledCodes.holds c
    && !(0x1F200 ≤ c.toNat && c.toNat ≤ 0x1F2FF)

/-- Quotation marks that are wide or narrow as the text around them is. -/
def isQuote (c : Char) : Bool :=
  c.toNat == 0x2018 || c.toNat == 0x2019 || c.toNat == 0x201C || c.toNat == 0x201D

/-- Khmer letters that can stand under another one. -/
def stackableCodes : CodeRanges :=
  #[(0x1780, 0x1782), (0x1784, 0x1787), (0x1789, 0x178C), (0x178E, 0x1793), (0x1795, 0x1798),
    (0x179B, 0x179D), (0x17A0, 0x17A0), (0x17A2, 0x17A2), (0x17A7, 0x17A7), (0x17AB, 0x17AC),
    (0x17AF, 0x17AF)]

/-- Signs that are not seen and do not part the letters around them. -/
def transparentCodes : CodeRanges :=
  #[(0x34F, 0x34F), (0x17B4, 0x17B5), (0x180B, 0x180D), (0x180F, 0x180F), (0x200D, 0x200D),
    (0xFE00, 0xFE0F), (0xE0100, 0xE01EF)]

def isTagLetter (c : Char) : Bool :=
  0xE0061 ≤ c.toNat && c.toNat ≤ 0xE007A

def isTagDigit (c : Char) : Bool :=
  0xE0030 ≤ c.toNat && c.toNat ≤ 0xE0039

/-! ## §2 What follows a character -/

/-- What stands after a character, as far as it can change the character's width. -/
inductive Follower where
  | plain
  /-- A picture, of which skin tones are a part -/
  | picture
  | skinTone
  /-- A joiner that links a picture -/
  | linkedPicture
  /-- The frame of a key, and then a joiner that links a picture -/
  | linkedKeycap
  /-- Tags that end a flag, and then a joiner that links a picture: the name of the flag ends in so
      many letters, or has so many digits in front of at most four letters -/
  | linkedTags (letters digits : Nat)
  /-- Half a flag, and then a joiner that links a picture -/
  | linkedIndicator
  | stackableLetter
  /-- The Kirat Rai vowel sign E, which completes other vowel signs -/
  | vowelE
  /-- The Kirat Rai vowel sign AI or its spelling with two signs -/
  | vowelAI
  /-- The variation sign that makes a quotation mark wide -/
  | wideSign
deriving DecidableEq, Repr

/-- The look that a variation sign asks of the character before it. -/
inductive Look where
  | unset
  | asText
  | asPicture
deriving DecidableEq, Repr

/-- The columns counted so far, from the end, and what they begin with. -/
structure Tail where
  columns : Nat
  follower : Follower := .plain
  look : Look := .unset
deriving DecidableEq, Repr

namespace Follower

/-- How a character that stands alone is seen by the one before it. -/
def of (rules : ColumnRules) (c : Char) : Follower :=
  if isSkinTone c then .skinTone
  else if rules.isPicture c then .picture
  else if stackableCodes.holds c then .stackableLetter
  else if rules.joinsVowelSigns && c.toNat == 0x16D67 then .vowelE
  else if rules.joinsVowelSigns && c.toNat == 0x16D68 then .vowelAI
  else if rules.widensQuotes && c.toNat == 0xFE01 then .wideSign
  else .plain

/-- What a sign for the look of a picture leaves to be seen of what follows it. -/
def behindPictureSign : Follower → Follower
  | .linkedPicture => .linkedPicture
  | .linkedKeycap => .linkedKeycap
  | .stackableLetter => .stackableLetter
  | _ => .plain

/-- What a sign for a look that is not to be had leaves to be seen of what follows it. -/
def behindIdleSign : Follower → Follower
  | .stackableLetter => .stackableLetter
  | _ => .plain

/-- Whether a picture in front would be linked to a picture that follows. -/
def isLink : Follower → Bool
  | .linkedPicture | .linkedKeycap => true
  | _ => false

end Follower

namespace Tail

/-- Puts a character without a look asked of it in front. -/
def putPlain (rules : ColumnRules) (c : Char) (tail : Tail) : Tail :=
  let free (follower : Follower) : Tail := { columns := tail.columns, follower }
  let counted : Tail := { columns := tail.columns + rules.columnsOf c, follower := .of rules c }
  let code := c.toNat
  match tail.follower with
  -- a joiner before a picture is about to link another one to it
  | .picture => if code = 0x200D then free .linkedPicture else counted
  | .skinTone =>
    if code = 0x200D then free .linkedPicture
    else if tonedCodes.holds c then free .picture
    else counted
  -- what is linked in front takes no columns beside the last picture
  | .linkedPicture =>
    if isSkinTone c then free .skinTone
    else if rules.isPicture c then free .picture
    else if isIndicator c then { columns := tail.columns + 1, follower := .linkedIndicator }
    else if code = 0x20E3 then free .linkedKeycap
    else if code = 0xE007F then free (.linkedTags 0 0)
    else counted
  | .linkedTags letters digits =>
    -- a region of two letters or three digits, and a part of it of one to four signs
    if isTagLetter c && digits == 0 && letters < 6 then free (.linkedTags (letters + 1) 0)
    else if isTagDigit c && digits < 3 && letters ≤ 4 then free (.linkedTags letters (digits + 1))
    else if code = 0x1F3F4 && (digits == 3 || digits == 0 && 3 ≤ letters) then free .picture
    else counted
  -- a whole flag is linked, so its half was counted in vain
  | .linkedIndicator => if isIndicator c then { columns := tail.columns - 1 } else counted
  -- the letter was counted, and now stands under the one before the sign
  | .stackableLetter =>
    if code = 0x17D2 then { columns := tail.columns - 1 }
    else if transparentCodes.holds c then free .stackableLetter
    else counted
  -- two signs that spell a third one take the columns of that one
  | .vowelE =>
    if code = 0x16D67 then free .vowelAI
    else if code = 0x16D68 then { columns := tail.columns + 1, follower := .vowelE }
    else if code = 0x16D63 || code = 0x16D69 then free .plain
    else counted
  | .vowelAI => if code = 0x16D63 then free .plain else counted
  | .wideSign => if isQuote c then { columns := tail.columns + 2 } else counted
  | .linkedKeycap | .plain => counted

/-- Puts a character in front that does not get the look of a picture. -/
def putUnpictured (rules : ColumnRules) (c : Char) (tail : Tail) : Tail :=
  if c.toNat = 0xFE0F then
    { tail with follower := tail.follower.behindPictureSign, look := .asPicture }
  else if c.toNat = 0xFE0E then
    { tail with follower := tail.follower.behindIdleSign, look := .asText }
  else if tail.look = .asText then
    if isRestyledPicture c then { columns := tail.columns + 1 }
    else putPlain rules c { columns := tail.columns, follower := tail.follower.behindIdleSign }
  else tail.putPlain rules c

def put (rules : ColumnRules) (c : Char) (tail : Tail) : Tail :=
  if tail.look = .asPicture then
    if restyledCodes.holds c then
      { columns := if tail.follower.isLink then tail.columns else tail.columns + 2
        follower := .picture }
    else
      putUnpictured rules c { columns := tail.columns, follower := tail.follower.behindIdleSign }
  else tail.putUnpictured rules c

end Tail

/-! ## §3 The whole cluster -/

/-- Columns of a cluster. A line end takes none. -/
def clusterColumns (rules : ColumnRules) (cluster : Cluster) : Nat :=
  if '\n' ∈ cluster then 0 else (cluster.foldr (Tail.put rules) { columns := 0 }).columns

end TileLevel.Text
