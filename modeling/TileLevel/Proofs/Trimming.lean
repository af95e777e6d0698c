import Mathlib
import TileLevel.Text.Blank

/-!
# Text between Blanks

Trimming takes the blanks away at both ends of a text and nothing else. What is left neither begins
nor ends with a blank, and this alone says what it is: a text can be taken apart into blanks, a
trimmed text and blanks in one way only, unless it is blank throughout.

## Main definitions

- `IsTrimmed`: a text without a blank at either end

## Main statements

- `trim_eq_iff`: trimming is the one way to take blanks away until none is left at an end
- `trim_eq_nil_iff`: only a text of blanks is trimmed to nothing
- `trim_blanks_append`: blanks around a text make no difference
-/

namespace TileLevel.Text

variable {text core before after : List Char}

/-- A text without a blank at either end. -/
structure IsTrimmed (text : List Char) : Prop where
  head_visible : ∀ c ∈ text.head?, isBlank c = false
  last_visible : ∀ c ∈ text.getLast?, isBlank c = false

/-! ## §1 What trimming leaves -/

theorem trim_eq_rdropWhile (text : List Char) :
    trim text = (text.dropWhile isBlank).rdropWhile isBlank := rfl

theorem head?_dropWhile_isBlank (text : List Char) :
    ∀ c ∈ (text.dropWhile isBlank).head?, isBlank c = false := by
  intro c hc
  have hnot := List.head?_dropWhile_not isBlank text
  rw [Option.mem_def.mp hc] at hnot
  simpa using hnot

/-- Trimming leaves a trimmed text. -/
theorem isTrimmed_trim (text : List Char) : IsTrimmed (trim text) where
  head_visible := by
    intro c hc
    -- what is dropped at the end does not change the head of what is kept
    obtain ⟨dropped, hkept⟩ := List.rdropWhile_prefix isBlank (text.dropWhile isBlank)
    apply head?_dropWhile_isBlank text c
    rw [← hkept, ← trim_eq_rdropWhile]
    exact List.mem_head?_append_of_mem_head? hc
  last_visible := by
    intro c hc
    have hne : trim text ≠ [] := by
      rintro hnil
      simp [hnil] at hc
    have hlast := List.rdropWhile_last_not isBlank (text.dropWhile isBlank) hne
    rw [List.getLast?_eq_some_getLast hne] at hc
    cases hc
    exact (Bool.not_eq_true _).mp hlast

/-- Nothing but blanks is taken away. -/
theorem exists_eq_append_trim (text : List Char) :
    ∃ before after, (∀ c ∈ before, isBlank c) ∧ (∀ c ∈ after, isBlank c)
      ∧ text = before ++ trim text ++ after := by
  refine ⟨text.takeWhile isBlank, (text.dropWhile isBlank).rtakeWhile isBlank,
    fun c => List.mem_takeWhile_imp, fun c => List.mem_rtakeWhile_imp, ?_⟩
  rw [trim_eq_rdropWhile, List.append_assoc, List.rdropWhile_append_rtakeWhile,
    List.takeWhile_append_dropWhile]

/-- A text is trimmed to nothing just when it is blank throughout. -/
theorem trim_eq_nil_iff : trim text = [] ↔ ∀ c ∈ text, isBlank c := by
  constructor
  · intro hnil
    obtain ⟨before, after, hbefore, hafter, htext⟩ := exists_eq_append_trim text
    rw [hnil, List.append_nil] at htext
    intro c hc
    rw [htext, List.mem_append] at hc
    exact hc.elim (hbefore c) (hafter c)
  · intro hblank
    have hnil : text.dropWhile isBlank = [] := List.dropWhile_eq_nil_iff.mpr hblank
    rw [trim_eq_rdropWhile, hnil, List.rdropWhile_nil]

/-! ## §2 What trimming is -/

/-- Blanks are dropped up to a text that does not begin with one. -/
theorem dropWhile_isBlank_append (hbefore : ∀ c ∈ before, isBlank c)
    (hvisible : ∀ c ∈ text.head?, isBlank c = false) :
    (before ++ text).dropWhile isBlank = text := by
  rw [List.dropWhile_append_of_pos hbefore]
  cases text with
  | nil => rfl
  | cons c rest => simp [hvisible c rfl]

/-- **Blanks around a trimmed text** are taken away, and the text stays as it is. -/
theorem trim_append_append (hcore : IsTrimmed core) (hbefore : ∀ c ∈ before, isBlank c)
    (hafter : ∀ c ∈ after, isBlank c) : trim (before ++ core ++ after) = core := by
  cases core with
  | nil =>
    apply trim_eq_nil_iff.mpr
    simp only [List.append_nil, List.mem_append]
    exact fun c hc => hc.elim (hbefore c) (hafter c)
  | cons c rest =>
    have hstart : ((before ++ (c :: rest)) ++ after).dropWhile isBlank = (c :: rest) ++ after := by
      rw [List.append_assoc]
      exact dropWhile_isBlank_append hbefore (by simpa using hcore.head_visible)
    rw [trim_eq_rdropWhile, hstart, List.rdropWhile, List.reverse_append,
      dropWhile_isBlank_append, List.reverse_reverse]
    · simpa using hafter
    · rw [List.head?_reverse]
      exact hcore.last_visible

/-- **Trimming** is the one way to take blanks away until none is left at an end. -/
theorem trim_eq_iff :
    trim text = core ↔ IsTrimmed core ∧ ∃ before after,
      (∀ c ∈ before, isBlank c) ∧ (∀ c ∈ after, isBlank c) ∧ text = before ++ core ++ after := by
  constructor
  · rintro rfl
    exact ⟨isTrimmed_trim text, exists_eq_append_trim text⟩
  · rintro ⟨hcore, before, after, hbefore, hafter, rfl⟩
    exact trim_append_append hcore hbefore hafter

/-- A trimmed text is trimmed no further. -/
theorem trim_eq_self (h : IsTrimmed text) : trim text = text :=
  trim_eq_iff.mpr ⟨h, [], [], by simp, by simp, by simp⟩

/-- **Blanks around any text** make no difference to what trimming leaves of it. -/
theorem trim_blanks_append (hbefore : ∀ c ∈ before, isBlank c) (hafter : ∀ c ∈ after, isBlank c)
    (text : List Char) : trim (before ++ text ++ after) = trim text := by
  obtain ⟨first, last, hfirst, hlast, htext⟩ := exists_eq_append_trim text
  -- the blanks of the text itself join those around it
  refine trim_eq_iff.mpr ⟨isTrimmed_trim text, before ++ first, last ++ after, ?_, ?_, ?_⟩
  · simpa [or_imp, forall_and] using ⟨hbefore, hfirst⟩
  · simpa [or_imp, forall_and] using ⟨hlast, hafter⟩
  · conv_lhs => rw [htext]
    simp only [List.append_assoc]

/-! ## §3 Ends of trimmed texts -/

/-- A trimmed text after a visible character is trimmed, whatever stands between them. -/
theorem IsTrimmed.cons_append (h : IsTrimmed text) (hne : text ≠ []) {c : Char}
    (hc : isBlank c = false) (between : List Char) : IsTrimmed (c :: between ++ text) where
  head_visible := by simpa using hc
  last_visible := by
    rw [List.getLast?_append_of_ne_nil _ hne]
    exact h.last_visible

/-- The rest of a trimmed text is not blank throughout. -/
theorem IsTrimmed.trim_ne_nil (h : IsTrimmed (before ++ text)) (hne : text ≠ []) :
    trim text ≠ [] := by
  intro hnil
  have hlast := List.getLast?_eq_some_getLast hne
  have hblank := trim_eq_nil_iff.mp hnil _ (List.getLast_mem hne)
  have hvisible := h.last_visible (text.getLast hne) (by simp [List.getLast?_append, hlast])
  simp [hvisible] at hblank

end TileLevel.Text
