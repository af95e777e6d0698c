import TileLevel.Text.ClusterTable

/-!
# Character Clusters

A reader sees a letter with its accents, a flag made of two halves or a family made of four people
as one character. `clusters` cuts a text into such units, the extended grapheme clusters of Unicode,
by looking at each character and a summary of the cluster so far.

## Contents

- `BreakClass`: what a character is for the cluster it stands in
- `Scan`: what the rules need to know of the cluster so far
- `clusters`: the cut itself
-/

namespace TileLevel.Text

/-- Characters that are read as one. -/
abbrev Cluster := List Char

/-! ## §1 Classes -/

/-- What a character is for the cluster it stands in. -/
inductive BreakClass where
  | carriageReturn
  | lineFeed
  /-- A control or format character -/
  | breaking
  /-- A mark on the character before it -/
  | extending
  /-- The zero width joiner -/
  | joiner
  | spacing
  /-- Takes the next character in -/
  | leading
  | hangulLead
  | hangulVowel
  | hangulTail
  /-- A syllable without a final consonant -/
  | hangulOpen
  /-- A syllable with a final consonant -/
  | hangulClosed
  | flagHalf
  | other
deriving DecidableEq, Repr

/-- Skin tones count as marks, beside the marks of the table. -/
def isExtending (c : Char) : Bool :=
  extendingCodes.holds c || (0x1F3FB ≤ c.toNat && c.toNat ≤ 0x1F3FF)

/-- The class of a Hangul letter or syllable, `none` for any other character. Of the composed
    syllables every twenty-eighth has no final consonant. -/
def hangulClass? (code : Nat) : Option BreakClass :=
  if (0x1100 ≤ code && code ≤ 0x115F) || (0xA960 ≤ code && code ≤ 0xA97C) then some .hangulLead
  else if (0x1160 ≤ code && code ≤ 0x11A7) || (0xD7B0 ≤ code && code ≤ 0xD7C6)
      || code == 0x16D63 || (0x16D67 ≤ code && code ≤ 0x16D6A) then some .hangulVowel
  else if (0x11A8 ≤ code && code ≤ 0x11FF) || (0xD7CB ≤ code && code ≤ 0xD7FB) then
    some .hangulTail
  else if 0xAC00 ≤ code && code ≤ 0xD7A3 then
    some (if (code - 0xAC00) % 28 = 0 then .hangulOpen else .hangulClosed)
  else none

def BreakClass.of (c : Char) : BreakClass :=
  if ' ' ≤ c && c ≤ '~' then .other
  else if c = '\r' then .carriageReturn
  else if c = '\n' then .lineFeed
  else if breakingCodes.holds c then .breaking
  else if c.toNat = 0x200D then .joiner
  else if isExtending c then .extending
  else if spacingCodes.holds c then .spacing
  else if leadingCodes.holds c then .leading
  else if 0x1F1E6 ≤ c.toNat && c.toNat ≤ 0x1F1FF then .flagHalf
  else (hangulClass? c.toNat).getD .other

/-! ## §2 The cluster so far -/

/-- How far the cluster has come towards linking two pictures. -/
inductive PictureLink where
  | none
  /-- A picture and marks on it -/
  | picture
  /-- A picture, marks and a joiner -/
  | joined
deriving DecidableEq, Repr

/-- How far the cluster has come towards stacking two consonants. -/
inductive ConjunctLink where
  | none
  /-- A consonant and marks on it -/
  | consonant
  /-- A consonant and marks, a linker among them -/
  | linked
deriving DecidableEq, Repr

/-- What the rules need to know of the cluster so far. -/
structure Scan where
  last : BreakClass
  /-- The last character is the first half of a flag -/
  halfFlag : Bool
  picture : PictureLink
  conjunct : ConjunctLink
deriving DecidableEq, Repr

namespace Scan

def start (c : Char) : Scan where
  last := .of c
  halfFlag := BreakClass.of c = .flagHalf
  picture := if pictureCodes.holds c then .picture else .none
  conjunct := if conjunctConsonantCodes.holds c then .consonant else .none

def advance (scan : Scan) (c : Char) : Scan :=
  let first := start c
  { last := first.last
    halfFlag := first.halfFlag && !scan.halfFlag
    picture :=
      match first.last, scan.picture with
      | .extending, .picture => .picture
      | .joiner, .picture => .joined
      | _, _ => first.picture
    conjunct :=
      if conjunctLinkerCodes.holds c then
        if scan.conjunct = .none then .none else .linked
      else match first.last with
        | .extending => if c.toNat = 0x200C then .none else scan.conjunct
        | .joiner => scan.conjunct
        | _ => first.conjunct }

def takes (scan : Scan) (c : Char) : Bool :=
  match scan.last, BreakClass.of c with
  -- a line end of two characters is one; all else breaks around controls
  | .carriageReturn, .lineFeed => true
  | .carriageReturn, _ | .lineFeed, _ | .breaking, _ => false
  | _, .carriageReturn | _, .lineFeed | _, .breaking => false
  | _, .extending | _, .joiner | _, .spacing => true
  | .leading, _ => true
  -- letters of one Hangul syllable: leads, then vowels, then tails
  | .hangulLead, .hangulLead | .hangulLead, .hangulVowel
  | .hangulLead, .hangulOpen | .hangulLead, .hangulClosed => true
  | .hangulOpen, .hangulVowel | .hangulOpen, .hangulTail
  | .hangulVowel, .hangulVowel | .hangulVowel, .hangulTail => true
  | .hangulClosed, .hangulTail | .hangulTail, .hangulTail => true
  -- the second half of a flag, but not the first half of the next one
  | .flagHalf, .flagHalf => scan.halfFlag
  | _, _ =>
    (scan.conjunct = .linked && conjunctConsonantCodes.holds c)
      || (scan.picture = .joined && pictureCodes.holds c)

end Scan

/-! ## §3 Cutting -/

/-- Cuts the rest of a text. `done` holds the finished clusters, last one first, and `current` the
    characters of the open one, last one first. -/
def clustersFrom (done : List Cluster) (current : List Char) (scan : Scan) :
    List Char → List Cluster
  | [] => (current.reverse :: done).reverse
  | c :: rest =>
    if scan.takes c then clustersFrom done (c :: current) (scan.advance c) rest
    else clustersFrom (current.reverse :: done) [c] (.start c) rest

/-- The clusters of a text, in order. -/
def clusters : List Char → List Cluster
  | [] => []
  | c :: rest => clustersFrom [] [c] (.start c) rest

end TileLevel.Text
