import Mathlib
import TileLevel.Picture
import TileLevel.Screen

/-!
# Plain Glyphs

What fits into a cell and what is drawn there are measured by two editions of the standard, and a few
characters are narrow in one and wide in the other. ASCII characters are narrow in both, and none of
them joins the one before it, so of a token in ASCII the first character alone is shown.

## Main statements

- `Kind.columns_glyph`: the signs for the start and for floor take one column
- `Text.exists_clustersFrom_eq`: what has been cut off stays, and what is open goes on
- `columns_fitToken_of_ascii`: the glyph of a token in ASCII takes one column if it is drawn
-/

namespace TileLevel

theorem Kind.columns_glyph (kind : Kind) :
    Typography.drawnColumns (.singleton kind.glyph) = 1 := by
  cases kind <;> decide +kernel

/-! ## §1 The first cluster -/

namespace Text

/-- The finished clusters come first, and the open one is the beginning of the next. -/
theorem exists_clustersFrom_eq (done : List Cluster) (current : List Char) (scan : Scan)
    (text : List Char) :
    ∃ more others, clustersFrom done current scan text
      = done.reverse ++ (current.reverse ++ more) :: others := by
  induction text generalizing done current scan with
  | nil => exact ⟨[], [], by simp [clustersFrom]⟩
  | cons c rest ih =>
    unfold clustersFrom
    split
    · -- the character is taken into the open cluster
      obtain ⟨more, others, hrest⟩ := ih done (c :: current) (scan.advance c)
      exact ⟨c :: more, others, by simp [hrest]⟩
    · -- the open cluster is finished
      obtain ⟨more, others, hrest⟩ := ih (current.reverse :: done) [c] (.start c)
      exact ⟨[], (c :: more) :: others, by simp [hrest]⟩

/-- The first cluster begins with the first character. -/
theorem exists_clusters_cons_eq (c : Char) (rest : List Char) :
    ∃ more others, clusters (c :: rest) = (c :: more) :: others :=
  exists_clustersFrom_eq [] [c] (.start c) rest

/-- A cluster is finished before a character that it does not take. -/
theorem exists_clusters_eq_of_not_takes {c : Char} {rest : List Char}
    (h : ∀ d ∈ rest.head?, (Scan.start c).takes d = false) :
    ∃ others, clusters (c :: rest) = [c] :: others := by
  cases rest with
  | nil => exact ⟨[], rfl⟩
  | cons d rest =>
    obtain ⟨more, others, hrest⟩ := exists_clustersFrom_eq [[c]] [d] (.start d) rest
    refine ⟨(d :: more) :: others, ?_⟩
    simpa [clusters, clustersFrom, h d rfl] using hrest

end Text

/-! ## §2 ASCII -/

/-- Whether a character breaks clusters: line ends and other control characters do. -/
def breaksClusters (c : Char) : Bool :=
  Text.BreakClass.of c ∈
    [Text.BreakClass.carriageReturn, Text.BreakClass.lineFeed, Text.BreakClass.breaking]

/-- All ASCII characters, one by one. -/
private theorem ascii_by_code :
    ∀ code < 0x80,
      if isControl (.ofNat code) then breaksClusters (.ofNat code) = true
      else Text.BreakClass.of (.ofNat code) = .other ∧ Text.drawnColumns [.ofNat code] = 1 := by
  decide +kernel

variable {c d : Char}

/-- A character that is shown is of no special class, and takes one column. -/
theorem class_and_columns_of_ascii (hascii : c.toNat < 0x80) (hshown : isControl c = false) :
    Text.BreakClass.of c = .other ∧ Text.drawnColumns [c] = 1 := by
  have hcode := ascii_by_code c.toNat hascii
  simpa [Char.ofNat_toNat, hshown] using hcode

/-- An ASCII character is of no special class, or it breaks clusters. -/
theorem class_of_ascii (hascii : c.toNat < 0x80) :
    Text.BreakClass.of c = .other ∨ breaksClusters c = true := by
  cases hcontrol : isControl c with
  | false => exact .inl (class_and_columns_of_ascii hascii hcontrol).1
  | true =>
    have hcode := ascii_by_code c.toNat hascii
    rw [Char.ofNat_toNat, hcontrol] at hcode
    exact .inr hcode

/-- A character that is shown takes no ASCII character in. -/
theorem takes_eq_false_of_ascii (hc : Text.BreakClass.of c = .other) (hd : d.toNat < 0x80) :
    (Text.Scan.start c).takes d = false := by
  have hlast : (Text.Scan.start c).last = .other := hc
  -- one character alone has neither linked a consonant nor joined a picture
  have hconjunct : (Text.Scan.start c).conjunct ≠ .linked := by
    simp only [Text.Scan.start]
    split <;> simp
  have hpicture : (Text.Scan.start c).picture ≠ .joined := by
    simp only [Text.Scan.start]
    split <;> simp
  rcases class_of_ascii hd with hother | hbreaks
  · simp [Text.Scan.takes, hlast, hother, hconjunct, hpicture]
  · simp only [breaksClusters, List.mem_cons, List.not_mem_nil, or_false,
      decide_eq_true_eq] at hbreaks
    rcases hbreaks with hd | hd | hd <;> simp [Text.Scan.takes, hlast, hd]

/-- What is left of a token is its first cluster, if that takes one column. -/
theorem fitToken_of_clusters {token : String} {cluster : Text.Cluster} {others : List Text.Cluster}
    (h : Text.clusters token.toList = cluster :: others) :
    fitToken token =
      if Text.clusterColumns .fitting cluster = 1 then .ofList cluster else "?" := by
  simp [fitToken, Typography.clusters, Typography.columns, h]

/-- **The glyph of a token in ASCII** takes one column, unless it is not drawn. -/
theorem columns_fitToken_of_ascii {token : String} (h : ∀ c ∈ token.toList, c.toNat < 0x80) :
    (fitToken token).toList.any isControl = true
      ∨ Typography.drawnColumns (fitToken token) = 1 := by
  cases htoken : token.toList with
  | nil =>
    rw [String.toList_eq_nil_iff.mp htoken]
    exact .inr (by decide +kernel)
  | cons c rest =>
    rw [htoken] at h
    have hascii : c.toNat < 0x80 := h c List.mem_cons_self
    have hmark : Typography.drawnColumns "?" = 1 := by decide +kernel
    cases hcontrol : isControl c with
    | true =>
      -- the control character is the first of its cluster
      obtain ⟨more, others, hclusters⟩ := Text.exists_clusters_cons_eq c rest
      rw [← htoken] at hclusters
      rw [fitToken_of_clusters hclusters]
      split
      · exact .inl (by simp [hcontrol])
      · exact .inr hmark
    | false =>
      obtain ⟨hclass, hcolumns⟩ := class_and_columns_of_ascii hascii hcontrol
      have hnext : ∀ d ∈ rest.head?, (Text.Scan.start c).takes d = false := by
        intro d hd
        apply takes_eq_false_of_ascii hclass
        exact h d (List.mem_cons_of_mem _ (List.mem_of_mem_head? hd))
      obtain ⟨others, hclusters⟩ := Text.exists_clusters_eq_of_not_takes hnext
      rw [← htoken] at hclusters
      rw [fitToken_of_clusters hclusters]
      split
      · exact .inr (by simpa [Typography.drawnColumns] using hcolumns)
      · exact .inr hmark

end TileLevel
