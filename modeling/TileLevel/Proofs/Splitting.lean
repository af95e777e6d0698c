import Mathlib
import TileLevel.Text.Split

/-!
# Splitting Undoes Joining, and the Other Way Round

Joining the pieces of a text always gives the text back, whatever the separator. Splitting gives
joined pieces back when no piece contains the separator, provided that the separator is unbordered:
then no occurrence of it can straddle the end of a piece.

## Main statements

- `joinWith_splitOn`: the pieces of a text, joined, are the text
- `not_isInfix_of_mem_splitOn`: no piece contains the separator
- `splitOn_append`: texts on the two sides of an unbordered separator are split independently
- `splitOn_joinWith`: pieces that do not contain an unbordered separator come back
- `isInfix_joinWith_singleton_iff`: what joining by a character can contain
-/

namespace TileLevel.Text

variable {sep text : List Char}

/-! ## §1 The equations of splitting

The scan keeps finished pieces, an open piece and a count of characters to pass over. The equations
say what it does to the text alone, and after this section nothing looks at the scan again. -/

/-- Characters of a separator are passed over without a trace. -/
private theorem splitFrom_skip (done : List (List Char)) (piece : List Char) (skip : Nat) :
    splitFrom sep done piece skip text = splitFrom sep done piece 0 (text.drop skip) := by
  induction text generalizing skip with
  | nil => simp [splitFrom]
  | cons c rest ih =>
    cases skip with
    | zero => rfl
    | succ skip =>
      rw [splitFrom, List.drop_succ_cons]
      apply ih

/-- Finished pieces come first, and the open piece goes to the front of the first new one. -/
private theorem splitFrom_eq (done : List (List Char)) (piece : List Char) (skip : Nat) :
    splitFrom sep done piece skip text =
      done.reverse ++ (splitFrom sep [] [] skip text).modifyHead (piece.reverse ++ ·) := by
  induction text generalizing done piece skip with
  | nil => simp [splitFrom]
  | cons c rest ih =>
    cases skip with
    | succ skip =>
      -- a character that is passed over changes neither
      simp only [splitFrom]
      apply ih
    | zero =>
      simp only [splitFrom]
      split
      · -- a separator: the open piece is finished
        rw [ih (piece.reverse :: done) [], ih ([].reverse :: []) []]
        cases splitFrom sep [] [] (sep.length - 1) rest <;> simp
      · -- a character: it joins the open piece
        rw [ih done (c :: piece), ih [] [c]]
        cases splitFrom sep [] [] 0 rest <;> simp

theorem splitOn_nil (hsep : sep ≠ []) : splitOn sep [] = [[]] := by
  simp [splitOn, hsep, splitFrom]

/-- A text that begins with the separator has an empty first piece. -/
theorem splitOn_separator_append (hsep : sep ≠ []) (rest : List Char) :
    splitOn sep (sep ++ rest) = [] :: splitOn sep rest := by
  obtain ⟨c, tail, rfl⟩ := List.exists_cons_of_ne_nil hsep
  have hprefix : (c :: tail).isPrefixOf (c :: (tail ++ rest)) = true := by
    simp [List.isPrefixOf_iff_prefix]
  simp only [splitOn, if_neg hsep, List.cons_append, splitFrom, hprefix, if_true]
  -- the scan has the tail of the separator to pass over and the empty first piece finished
  rw [splitFrom_skip, splitFrom_eq]
  cases h : splitFrom (c :: tail) [] [] 0 rest <;> simp [h]

/-- A character that begins no separator belongs to the first piece. -/
theorem splitOn_cons {c : Char} {rest : List Char} (hsep : sep ≠ []) (h : ¬ sep <+: c :: rest) :
    splitOn sep (c :: rest) = (splitOn sep rest).modifyHead (c :: ·) := by
  have hprefix : sep.isPrefixOf (c :: rest) = false := by
    rwa [← Bool.not_eq_true, List.isPrefixOf_iff_prefix]
  simp only [splitOn, if_neg hsep, splitFrom, hprefix, Bool.false_eq_true, if_false]
  rw [splitFrom_eq]
  simp

/-- Induction along the scan of a text: it is at its end, or at a separator, or at a character that
    begins none. -/
@[elab_as_elim]
theorem scanInduction {motive : List Char → Prop} (hsep : sep ≠ []) (nil : motive [])
    (separator : ∀ rest, motive rest → motive (sep ++ rest))
    (char : ∀ c rest, ¬ sep <+: c :: rest → motive rest → motive (c :: rest))
    (text : List Char) : motive text := by
  induction hlength : text.length using Nat.strong_induction_on generalizing text with
  | _ n ih =>
    subst hlength
    cases text with
    | nil => exact nil
    | cons c rest =>
      by_cases h : sep <+: c :: rest
      · obtain ⟨after, hafter⟩ := h
        have hpos : 0 < sep.length := List.length_pos_iff.mpr hsep
        have hlength : (c :: rest).length = sep.length + after.length := by
          rw [← hafter, List.length_append]
        rw [← hafter]
        apply separator
        exact ih after.length (by omega) after rfl
      · apply char c rest h
        exact ih rest.length (Nat.lt_succ_self _) rest rfl

/-- There is a first piece, and the text begins with it. -/
theorem exists_first_piece (hsep : sep ≠ []) (text : List Char) :
    ∃ first others, splitOn sep text = first :: others ∧ first <+: text := by
  induction text using scanInduction hsep with
  | nil => exact ⟨[], [], splitOn_nil hsep, List.nil_prefix⟩
  | separator rest _ =>
    exact ⟨[], splitOn sep rest, splitOn_separator_append hsep rest, List.nil_prefix⟩
  | char c rest h ih =>
    -- the character goes to the front of both the first piece and the text
    obtain ⟨first, others, hrest, hfirst⟩ := ih
    refine ⟨c :: first, others, ?_, ?_⟩
    · rw [splitOn_cons hsep h, hrest, List.modifyHead_cons]
    · exact (List.prefix_cons_inj c).mpr hfirst

theorem splitOn_ne_nil (sep text : List Char) : splitOn sep text ≠ [] := by
  by_cases hsep : sep = []
  · simp [splitOn, hsep]
  · obtain ⟨first, others, hpieces, -⟩ := exists_first_piece hsep text
    simp [hpieces]

/-! ## §2 Joining the pieces of a text -/

@[simp]
theorem joinWith_nil : joinWith sep [] = [] := rfl

@[simp]
theorem joinWith_singleton (piece : List Char) : joinWith sep [piece] = piece := by
  simp [joinWith]

theorem joinWith_cons {pieces : List (List Char)} (piece : List Char) (h : pieces ≠ []) :
    joinWith sep (piece :: pieces) = piece ++ sep ++ joinWith sep pieces := by
  obtain ⟨second, others, rfl⟩ := List.exists_cons_of_ne_nil h
  simp [joinWith]

/-- A character at the front of the first piece is at the front of the text. -/
private theorem joinWith_modifyHead_cons {pieces : List (List Char)} (c : Char) (h : pieces ≠ []) :
    joinWith sep (pieces.modifyHead (c :: ·)) = c :: joinWith sep pieces := by
  obtain ⟨first, others, rfl⟩ := List.exists_cons_of_ne_nil h
  cases others with
  | nil => simp
  | cons second others => simp [joinWith_cons]

private theorem joinWith_nil_separator (pieces : List (List Char)) :
    joinWith [] pieces = pieces.flatten := by
  induction pieces with
  | nil => rfl
  | cons piece rest ih =>
    cases rest with
    | nil => simp
    | cons second others => rw [joinWith_cons _ (by simp), ih]; simp

/-- The pieces of a text, joined by the separator that it was split on, are the text. -/
theorem joinWith_splitOn (sep text : List Char) : joinWith sep (splitOn sep text) = text := by
  by_cases hsep : sep = []
  · -- split on nothing: every character is a piece, with an empty piece before and behind
    subst hsep
    rw [joinWith_nil_separator]
    simp only [splitOn, if_true, List.flatten_cons, List.nil_append, List.flatten_append]
    induction text with
    | nil => rfl
    | cons c rest ih => simpa using ih
  · induction text using scanInduction hsep with
    | nil => simp [splitOn_nil hsep]
    | separator rest ih =>
      rw [splitOn_separator_append hsep, joinWith_cons _ (splitOn_ne_nil sep rest), ih]
      simp
    | char c rest h ih =>
      rw [splitOn_cons hsep h, joinWith_modifyHead_cons c (splitOn_ne_nil sep rest), ih]

/-! ## §3 Pieces do not contain the separator -/

/-- No piece contains the separator that the text was split on. -/
theorem not_isInfix_of_mem_splitOn {piece : List Char} (hsep : sep ≠ [])
    (hpiece : piece ∈ splitOn sep text) : ¬ sep <:+: piece := by
  induction text using scanInduction hsep generalizing piece with
  | nil =>
    simp only [splitOn_nil hsep, List.mem_singleton] at hpiece
    simpa [hpiece] using hsep
  | separator rest ih =>
    rw [splitOn_separator_append hsep, List.mem_cons] at hpiece
    rcases hpiece with rfl | hpiece
    · simpa using hsep
    · exact ih hpiece
  | char c rest h ih =>
    obtain ⟨first, others, hrest, hfirst⟩ := exists_first_piece hsep rest
    rw [splitOn_cons hsep h, hrest, List.modifyHead_cons, List.mem_cons] at hpiece
    rcases hpiece with rfl | hpiece
    · rw [List.infix_cons_iff, not_or]
      constructor
      · -- an occurrence at the front of the piece would have been cut out of the text
        intro hfront
        have hpiece : c :: first <+: c :: rest := (List.prefix_cons_inj c).mpr hfirst
        exact h (hfront.trans hpiece)
      · apply ih
        simp [hrest]
    · apply ih
      simp [hrest, hpiece]

theorem splitOn_eq_singleton (hsep : sep ≠ []) (htext : ¬ sep <:+: text) :
    splitOn sep text = [text] := by
  induction text with
  | nil => exact splitOn_nil hsep
  | cons c rest ih =>
    rw [List.infix_cons_iff, not_or] at htext
    rw [splitOn_cons hsep htext.1, ih htext.2, List.modifyHead_cons]

/-! ## §4 Unbordered separators

A border of a text is a piece that it both begins and ends with. Where the separator has one, two
occurrences can overlap, and an occurrence can be made of the end of a piece and the beginning of
the separator behind it. -/

/-- No proper part of the text that is not empty is both at its beginning and at its end. -/
def Unbordered (text : List Char) : Prop :=
  ∀ border, border <+: text → border <:+ text → border = [] ∨ border = text

instance (text : List Char) : Decidable (Unbordered text) :=
  decidable_of_iff (∀ border ∈ text.inits, border <:+ text → border = [] ∨ border = text)
    (by simp [Unbordered])

theorem unbordered_singleton (c : Char) : Unbordered [c] := by
  intro border hprefix _
  rcases List.prefix_cons_iff.mp hprefix with rfl | ⟨tail, rfl, htail⟩
  · exact .inl rfl
  · right
    rw [List.prefix_nil.mp htail]

/-- **No straddling.** An unbordered separator behind a piece without it occurs nowhere earlier: an
    earlier occurrence that is not inside the piece would end with a border. -/
theorem Unbordered.not_isPrefix_append {piece : List Char} (hsep : Unbordered sep)
    (rest : List Char) (hne : piece ≠ []) (hpiece : ¬ sep <:+: piece) :
    ¬ sep <+: piece ++ sep ++ rest := by
  intro hfront
  have hbefore : piece <+: piece ++ sep ++ rest := by simp
  rcases Nat.le_total sep.length piece.length with hle | hle
  · -- an occurrence no longer than the piece lies inside it
    apply hpiece
    exact (List.prefix_of_prefix_length_le hfront hbefore hle).isInfix
  · -- a longer one is the piece and a border behind it
    obtain ⟨border, rfl⟩ := List.prefix_of_prefix_length_le hbefore hfront hle
    rw [List.append_assoc, List.prefix_append_right_inj] at hfront
    have hprefix : border <+: piece ++ border :=
      List.prefix_of_prefix_length_le hfront (by simp) (by simp)
    rcases hsep border hprefix (List.suffix_append piece border) with rfl | hwhole
    · apply hpiece
      simp
    · apply hne
      simpa using hwhole

/-- A piece without the separator is cut off at the first separator behind it. -/
theorem splitOn_append_separator {piece : List Char} (hne : sep ≠ []) (hsep : Unbordered sep)
    (hpiece : ¬ sep <:+: piece) (rest : List Char) :
    splitOn sep (piece ++ sep ++ rest) = piece :: splitOn sep rest := by
  induction piece with
  | nil => exact splitOn_separator_append hne rest
  | cons c tail ih =>
    -- no separator begins at the first character, so it stays in the piece
    have hfront := hsep.not_isPrefix_append rest (List.cons_ne_nil c tail) hpiece
    have htail : ¬ sep <:+: tail := fun h => hpiece (List.infix_cons h)
    simp only [List.cons_append] at hfront ⊢
    rw [splitOn_cons hne hfront, ih htail, List.modifyHead_cons]

/-- Joined pieces without the separator are cut off one by one, whatever is behind them. -/
theorem splitOn_joinWith_append {pieces : List (List Char)} (hne : sep ≠ []) (hsep : Unbordered sep)
    (hpieces : pieces ≠ []) (hfree : ∀ piece ∈ pieces, ¬ sep <:+: piece) (rest : List Char) :
    splitOn sep (joinWith sep pieces ++ sep ++ rest) = pieces ++ splitOn sep rest := by
  induction pieces with
  | nil => exact absurd rfl hpieces
  | cons piece others ih =>
    have hpiece := hfree piece (List.mem_cons_self ..)
    by_cases hothers : others = []
    · subst hothers
      rw [joinWith_singleton, splitOn_append_separator hne hsep hpiece, List.singleton_append]
    · have hcut := ih hothers fun other h => hfree other (List.mem_cons_of_mem _ h)
      have htext : joinWith sep (piece :: others) ++ sep ++ rest
          = piece ++ sep ++ (joinWith sep others ++ sep ++ rest) := by
        simp only [joinWith_cons _ hothers, List.append_assoc]
      rw [htext, splitOn_append_separator hne hsep hpiece, hcut, List.cons_append]

/-- **No piece straddles a separator** that is unbordered: the texts before and behind it are split
    independently. -/
theorem splitOn_append (hne : sep ≠ []) (hsep : Unbordered sep) (text rest : List Char) :
    splitOn sep (text ++ sep ++ rest) = splitOn sep text ++ splitOn sep rest := by
  have hcut := splitOn_joinWith_append hne hsep (splitOn_ne_nil sep text)
    (fun _ hpiece => not_isInfix_of_mem_splitOn hne hpiece) rest
  rwa [joinWith_splitOn] at hcut

/-- **Splitting undoes joining**, for an unbordered separator that no piece contains. -/
theorem splitOn_joinWith {pieces : List (List Char)} (hne : sep ≠ []) (hsep : Unbordered sep)
    (hpieces : pieces ≠ []) (hfree : ∀ piece ∈ pieces, ¬ sep <:+: piece) :
    splitOn sep (joinWith sep pieces) = pieces := by
  induction pieces with
  | nil => exact absurd rfl hpieces
  | cons piece others ih =>
    have hpiece := hfree piece (List.mem_cons_self ..)
    by_cases hothers : others = []
    · subst hothers
      rw [joinWith_singleton, splitOn_eq_singleton hne hpiece]
    · have hrest := ih hothers fun other h => hfree other (List.mem_cons_of_mem _ h)
      rw [joinWith_cons _ hothers, splitOn_append_separator hne hsep hpiece, hrest]

/-! ## §5 Occurrences in joined pieces -/

/-- A text that the character between the pieces is not part of lies inside a piece, or nowhere. -/
theorem isInfix_joinWith_singleton_iff {c : Char} {word : List Char} {pieces : List (List Char)}
    (hne : word ≠ []) (hc : c ∉ word) :
    word <:+: joinWith [c] pieces ↔ ∃ piece ∈ pieces, word <:+: piece := by
  -- a part of the word cannot begin with the character between two pieces
  have hfront : ∀ {part rest : List Char}, part <+: c :: rest → part ⊆ word → part = [] := by
    intro part rest hpart hsub
    rcases List.prefix_cons_iff.mp hpart with rfl | ⟨tail, rfl, -⟩
    · rfl
    · exact absurd (hsub (List.mem_cons_self ..)) hc
  induction pieces with
  | nil => simpa using hne
  | cons piece others ih =>
    by_cases hothers : others = []
    · simp [hothers]
    · rw [joinWith_cons _ hothers, List.append_assoc, List.singleton_append,
        List.infix_append_iff, List.infix_cons_iff, List.exists_mem_cons_iff]
      constructor
      · rintro (hpiece | (hbehind | hother) | ⟨left, right, rfl, hleft, hright⟩)
        · exact .inl hpiece
        · exact absurd (hfront hbehind (List.Subset.refl _)) hne
        · exact .inr (ih.mp hother)
        · -- across the end of the first piece: nothing of the word is behind it
          rw [hfront hright (List.subset_append_right _ _), List.append_nil]
          exact .inl hleft.isInfix
      · rintro (hpiece | hother)
        · exact .inl hpiece
        · exact .inr (.inl (.inr (ih.mpr hother)))

end TileLevel.Text
