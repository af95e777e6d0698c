import Mathlib
import TileLevel.Export
import TileLevel.Proofs.JsonText

/-!
# Coordinates as Numerals

A finite coordinate is exported as the shortest decimal that reads back, laid out with a point or
with an exponent. Either layout is a JSON numeral, and the decimal read from it has the value of the
shortest one, whatever zeros have been added. So the numeral reads back as the coordinate.

## Main statements

- `Json.Numeral.exists_unsigned?_writePositional`, `Json.Numeral.unsigned?_writeScientific`: both
  layouts keep the value
- `Json.Numeral.exists_read?_writeSigned`: a coordinate reads back
- `Json.Token.isWordChar_of_read?`, `Json.Spells.numeral`: numerals are words
-/

namespace TileLevel.Json

open Single

/-! ## §1 Digits -/

namespace Numeral

theorem isDigit_of_mem_toDigits {n : ℕ} {c : Char} (h : c ∈ Nat.toDigits 10 n) : c.isDigit :=
  Nat.isDigit_of_mem_toDigits (by omega) (by omega) h

/-- The digits of a number do not begin with zero, unless it is zero. -/
theorem head?_toDigits_ne {n : ℕ} (h : 0 < n) : (Nat.toDigits 10 n).head? ≠ some '0' := by
  induction n using Nat.strong_induction_on with
  | _ n ih =>
    rcases Nat.lt_or_ge n 10 with hlt | hge
    · rw [Nat.toDigits_of_lt_base hlt]
      simp
      omega
    · -- the first digit is that of a tenth
      rw [Nat.toDigits_of_base_le (by omega) hge, List.head?_append_of_ne_nil _ Nat.toDigits_ne_nil]
      apply ih <;> omega

theorem natural?_toDigits (n : ℕ) : natural? (Nat.toDigits 10 n) = some n := by
  have hall : (Nat.toDigits 10 n).all Char.isDigit := by
    rw [List.all_eq_true]
    exact fun c hc => isDigit_of_mem_toDigits hc
  rw [natural?, if_pos ⟨Nat.toDigits_ne_nil, hall⟩, Nat.ofDigitChars_ten_toDigits]

/-! ## §2 Parts of a numeral -/

/-- Digits that may stand before the point. -/
structure IsWhole (digits : List Char) : Prop where
  ne_nil : digits ≠ []
  isDigit : ∀ c ∈ digits, c.isDigit
  leading : digits.head? = some '0' → digits = ['0']

theorem unsigned?_append {whole rest : List Char} (hwhole : IsWhole whole)
    (hrest : ∀ c ∈ rest.head?, c.isDigit = false) :
    unsigned? (whole ++ rest) =
      (fraction? rest).bind fun (fraction, rest) =>
        (exponent? rest).map fun exponent =>
          { digits := Nat.ofDigitChars 10 (whole ++ fraction) 0
            exponent := exponent - fraction.length } := by
  have hok : ¬ (whole = [] ∨ whole.head? = some '0' ∧ whole ≠ ['0']) := by
    have hne := hwhole.ne_nil
    have hleading := hwhole.leading
    tauto
  rw [unsigned?, takeWhile_append_eq hwhole.isDigit hrest, dropWhile_append_eq hwhole.isDigit hrest]
  exact if_neg hok

/-- A numeral with a point. -/
theorem unsigned?_point {whole fraction rest : List Char} {exponent : ℤ} (hwhole : IsWhole whole)
    (hne : fraction ≠ []) (hfraction : ∀ c ∈ fraction, c.isDigit)
    (hrest : ∀ c ∈ rest.head?, c.isDigit = false) (hexponent : exponent? rest = some exponent) :
    unsigned? (whole ++ '.' :: (fraction ++ rest)) =
      some
        { digits := Nat.ofDigitChars 10 (whole ++ fraction) 0
          exponent := exponent - fraction.length } := by
  rw [unsigned?_append hwhole (by simp [Char.isDigit])]
  simp [fraction?, takeWhile_append_eq hfraction hrest, dropWhile_append_eq hfraction hrest, hne,
    hexponent]

/-- A numeral that ends with its fraction. -/
theorem unsigned?_point_nil {whole : List Char} (hwhole : IsWhole whole) (fraction : List Char)
    (hne : fraction ≠ []) (hfraction : ∀ c ∈ fraction, c.isDigit) :
    unsigned? (whole ++ '.' :: fraction) =
      some
        { digits := Nat.ofDigitChars 10 (whole ++ fraction) 0
          exponent := -fraction.length } := by
  have hend : exponent? [] = some 0 := rfl
  have hread := unsigned?_point hwhole hne hfraction (by simp) hend
  rwa [List.append_nil, zero_sub] at hread

/-- A numeral without a point. -/
theorem unsigned?_no_point {whole rest : List Char} {exponent : ℤ} (hwhole : IsWhole whole)
    (hrest : ∀ c ∈ rest.head?, c.isDigit = false ∧ c ≠ '.')
    (hexponent : exponent? rest = some exponent) :
    unsigned? (whole ++ rest) =
      some { digits := Nat.ofDigitChars 10 whole 0, exponent := exponent } := by
  rw [unsigned?_append hwhole fun c hc => (hrest c hc).1]
  have hnone : fraction? rest = some ([], rest) := by
    unfold fraction?
    split
    · exact absurd rfl (hrest '.' rfl).2
    · rfl
  simp [hnone, hexponent]

theorem exponent?_written (exponent : ℤ) :
    exponent? ('e' :: (if exponent < 0 then '-' else '+') :: Nat.toDigits 10 exponent.natAbs)
      = some exponent := by
  split
  · show (natural? (Nat.toDigits 10 exponent.natAbs)).map (fun n : ℕ => -(n : ℤ)) = some exponent
    rw [natural?_toDigits, Option.map_some, Option.some.injEq]
    omega
  · show (natural? (Nat.toDigits 10 exponent.natAbs)).map (fun n : ℕ => (n : ℤ)) = some exponent
    rw [natural?_toDigits, Option.map_some, Option.some.injEq]
    omega

/-! ## §3 Both layouts keep the value -/

/-- A single digit may stand before the point. -/
theorem isWhole_singleton {c : Char} (h : c.isDigit) : IsWhole [c] where
  ne_nil := by simp
  isDigit := by simpa using h
  leading := by simp

/-- Digits that begin like a number that is not zero may stand before the point. -/
theorem isWhole_of_head? {n : ℕ} {digits : List Char} (h : 0 < n)
    (hhead : digits.head? = (Nat.toDigits 10 n).head?) (hdigits : ∀ c ∈ digits, c.isDigit) :
    IsWhole digits where
  ne_nil := by
    rintro rfl
    exact Nat.toDigits_ne_nil (List.head?_eq_none_iff.mp hhead.symm)
  isDigit := hdigits
  leading hzero := by
    rw [hhead] at hzero
    exact absurd hzero (head?_toDigits_ne h)

theorem isDigit_of_mem_replicate {zeros : ℕ} {c : Char} (h : c ∈ List.replicate zeros '0') :
    c.isDigit := by
  rw [List.eq_of_mem_replicate h]
  rfl

/-- Zeros behind the digits of a number. -/
theorem ofDigitChars_append_zeros (n zeros : ℕ) :
    Nat.ofDigitChars 10 (Nat.toDigits 10 n ++ List.replicate zeros '0') 0 = 10 ^ zeros * n := by
  rw [Nat.ofDigitChars_append, Nat.ofDigitChars_ten_toDigits, Nat.ofDigitChars_replicate_zero]

/-- Zeros before the digits of a number. -/
theorem ofDigitChars_zeros_append (n zeros : ℕ) :
    Nat.ofDigitChars 10 (List.replicate zeros '0' ++ Nat.toDigits 10 n) 0 = n := by
  rw [Nat.ofDigitChars_append, Nat.ofDigitChars_replicate_zero, Nat.mul_zero,
    Nat.ofDigitChars_ten_toDigits]

/-- A whole number, with one zero behind the point. -/
theorem exists_unsigned?_whole {number : ℕ} (h : 0 < number) (zeros : ℕ) :
    ∃ read, unsigned? (Nat.toDigits 10 number ++ List.replicate zeros '0' ++ ['.', '0']) = some read
      ∧ read.value = number * 10 ^ zeros := by
  have hwhole : IsWhole (Nat.toDigits 10 number ++ List.replicate zeros '0') := by
    apply isWhole_of_head? h (List.head?_append_of_ne_nil _ Nat.toDigits_ne_nil)
    intro c hc
    exact (List.mem_append.mp hc).elim isDigit_of_mem_toDigits isDigit_of_mem_replicate
  have hread := unsigned?_point_nil hwhole ['0'] (by simp) (by simp [Char.isDigit])
  -- the zero behind the point is one more zero behind the digits
  rw [List.append_assoc _ _ ['0'], ← List.replicate_succ', ofDigitChars_append_zeros] at hread
  refine ⟨_, hread, ?_⟩
  simp [Decimal.value, pow_succ]
  field_simp

/-- A point between two digits. -/
theorem unsigned?_inside {number fraction : ℕ} (h : 0 < number) (hpos : fraction ≠ 0)
    (hinside : fraction < (Nat.toDigits 10 number).length) :
    unsigned? ((Nat.toDigits 10 number).take ((Nat.toDigits 10 number).length - fraction)
        ++ '.' :: (Nat.toDigits 10 number).drop ((Nat.toDigits 10 number).length - fraction))
      = some { digits := number, exponent := -fraction } := by
  generalize hbefore : (Nat.toDigits 10 number).length - fraction = before
  have hwhole : IsWhole ((Nat.toDigits 10 number).take before) := by
    apply isWhole_of_head? h
    · rw [List.head?_take, if_neg (by omega)]
    · exact fun c hc => isDigit_of_mem_toDigits (List.mem_of_mem_take hc)
  have hlength : ((Nat.toDigits 10 number).drop before).length = fraction := by
    rw [List.length_drop]
    omega
  have hne : (Nat.toDigits 10 number).drop before ≠ [] := by
    apply List.ne_nil_of_length_pos
    omega
  have hread := unsigned?_point_nil hwhole _ hne
    fun c hc => isDigit_of_mem_toDigits (List.mem_of_mem_drop hc)
  rwa [List.take_append_drop, Nat.ofDigitChars_ten_toDigits, hlength] at hread

/-- Zeros between the point and the digits. -/
theorem unsigned?_small (number zeros : ℕ) :
    unsigned? ('0' :: '.' :: (List.replicate zeros '0' ++ Nat.toDigits 10 number))
      = some { digits := number, exponent := -(zeros + (Nat.toDigits 10 number).length : ℕ) } := by
  have hread := unsigned?_point_nil (isWhole_singleton (c := '0') rfl)
    (List.replicate zeros '0' ++ Nat.toDigits 10 number) (by simp [Nat.toDigits_ne_nil])
    fun c hc => (List.mem_append.mp hc).elim isDigit_of_mem_replicate isDigit_of_mem_toDigits
  -- the zero before the point is one more zero before the digits
  have hnumber := ofDigitChars_zeros_append number (zeros + 1)
  rw [List.replicate_succ, List.cons_append] at hnumber
  simp only [List.singleton_append, hnumber, List.length_append, List.length_replicate] at hread
  exact hread

/-- **Written out to the point**, a decimal keeps its value. -/
theorem exists_unsigned?_writePositional {decimal : Decimal} (h : 0 < decimal.digits) :
    ∃ read, unsigned? (decimal.writePositional ['.', '0']) = some read
      ∧ read.value = decimal.value := by
  obtain ⟨number, exponent⟩ := decimal
  simp only [Decimal.writePositional]
  split_ifs with hwhole hinside
  · obtain ⟨zeros, rfl⟩ := Int.eq_ofNat_of_zero_le (show 0 ≤ exponent by omega)
    obtain ⟨read, hread, hvalue⟩ := exists_unsigned?_whole h zeros
    exact ⟨read, hread, by simpa [Decimal.value] using hvalue⟩
  · refine ⟨_, unsigned?_inside h hwhole hinside, congrArg Decimal.value ?_⟩
    simp only [Decimal.mk.injEq, true_and]
    omega
  · refine ⟨_, unsigned?_small number _, congrArg Decimal.value ?_⟩
    simp only [Decimal.mk.injEq, true_and]
    omega

/-- **Written with an exponent**, a decimal is read as itself. -/
theorem unsigned?_writeScientific (decimal : Decimal) :
    unsigned? decimal.writeScientific = some decimal := by
  obtain ⟨number, exponent⟩ := decimal
  have hnumber := Nat.ofDigitChars_ten_toDigits (n := number)
  have hdigit : ∀ c ∈ Nat.toDigits 10 number, c.isDigit := fun _ => isDigit_of_mem_toDigits
  have hexponent := exponent?_written (Decimal.leadingExponent ⟨number, exponent⟩)
  simp only [Decimal.writeScientific]
  generalize hleading : Decimal.leadingExponent ⟨number, exponent⟩ = leading at hexponent ⊢
  simp only [Decimal.leadingExponent] at hleading
  cases hdigits : Nat.toDigits 10 number with
  | nil => exact absurd hdigits Nat.toDigits_ne_nil
  | cons first others =>
    rw [hdigits] at hnumber hdigit hleading
    have hfirst := isWhole_singleton (hdigit first (List.mem_cons_self ..))
    cases others with
    | nil =>
      have hread := unsigned?_no_point hfirst (by simp [Char.isDigit]) hexponent
      obtain rfl : leading = exponent := by
        simp at hleading
        omega
      rwa [hnumber] at hread
    | cons second others =>
      have hread := unsigned?_point hfirst (List.cons_ne_nil second others)
        (fun c hc => hdigit c (List.mem_cons_of_mem _ hc)) (by simp [Char.isDigit]) hexponent
      have hsame : leading - ((second :: others).length : ℤ) = exponent := by
        simp at hleading ⊢
        omega
      simp only [List.singleton_append, hnumber, hsame] at hread
      exact hread

/-! ## §4 Coordinates read back -/

theorem write_coordinateStyle {m : Magnitude} (h : m.units ≠ 0) :
    m.write Export.coordinateStyle =
      if -6 ≤ (m.shortest .toEven).leadingExponent ∧ (m.shortest .toEven).leadingExponent ≤ 12 then
        (m.shortest .toEven).writePositional ['.', '0']
      else (m.shortest .toEven).writeScientific := by
  rw [Magnitude.write, if_neg h]
  rfl

/-- **A magnitude reads back** from the numeral that it is written as, with either sign. -/
theorem exists_unsigned?_write (m : Magnitude) :
    ∃ read, unsigned? (m.write Export.coordinateStyle) = some read
      ∧ ∀ negative, read.nearest negative = .finite negative m := by
  by_cases hzero : m.units = 0
  · have hread : unsigned? ['0', '.', '0'] = some ⟨0, -1⟩ := rfl
    have hvalue : Decimal.value ⟨0, -1⟩ = 0 := by simp [Decimal.value]
    refine ⟨⟨0, -1⟩, ?_, Magnitude.nearest_of_value_eq_zero hvalue hzero⟩
    rw [Magnitude.write, if_pos hzero]
    exact hread
  · rw [write_coordinateStyle hzero]
    split
    case isTrue =>
      obtain ⟨read, hread, hvalue⟩ :=
        exists_unsigned?_writePositional (Magnitude.digits_shortest_pos hzero)
      exact ⟨read, hread, Magnitude.nearest_of_value_eq hvalue⟩
    case isFalse =>
      exact ⟨_, unsigned?_writeScientific _, Magnitude.nearest_of_value_eq rfl⟩


theorem read?_of_unsigned? {word : List Char} {decimal : Decimal}
    (h : unsigned? word = some decimal) : read? word = some (false, decimal) := by
  unfold read?
  split
  case h_1 => simp [unsigned?] at h
  case h_2 => rw [h, Option.map_some]

/-- **A finite coordinate reads back**, zero with its sign. -/
theorem exists_read?_writeSigned (negative : Bool) (m : Magnitude) :
    ∃ read, read? (writeSigned Export.coordinateStyle negative m) = some (negative, read)
      ∧ read.nearest negative = .finite negative m := by
  obtain ⟨read, hread, hnearest⟩ := exists_unsigned?_write m
  refine ⟨read, ?_, hnearest negative⟩
  cases negative with
  | false =>
    rw [writeSigned, if_neg Bool.false_ne_true]
    exact read?_of_unsigned? hread
  | true =>
    rw [writeSigned, if_pos rfl, read?, hread, Option.map_some]

end Numeral

/-! ## §5 Numerals are words -/

namespace Token

theorem isWordChar_of_isDigit {c : Char} (h : c.isDigit) : isWordChar c := by
  rw [isWordChar_iff]
  refine ⟨?gap, ?mark, ?quote⟩
  case gap =>
    rw [← Bool.not_eq_true]
    simp only [isGap, Bool.or_eq_true, beq_iff_eq, or_assoc]
    rintro (rfl | rfl | rfl | rfl) <;> exact absurd h (by decide)
  case mark =>
    rw [← Bool.not_eq_true]
    simp only [isMark, Bool.or_eq_true, beq_iff_eq, or_assoc]
    rintro (rfl | rfl | rfl | rfl | rfl | rfl) <;> exact absurd h (by decide)
  case quote =>
    rintro rfl
    exact absurd h (by decide)

theorem isWordChar_of_natural? {digits : List Char} {n : ℕ}
    (h : Numeral.natural? digits = some n) : ∀ c ∈ digits, isWordChar c := by
  intro c hc
  unfold Numeral.natural? at h
  split at h
  case isTrue hdigits => exact isWordChar_of_isDigit (List.all_eq_true.mp hdigits.2 c hc)
  case isFalse => cases h

theorem isWordChar_of_exponent? {text : List Char} {exponent : ℤ}
    (h : Numeral.exponent? text = some exponent) : ∀ c ∈ text, isWordChar c := by
  cases text with
  | nil => simp
  | cons mark rest =>
    simp only [Numeral.exponent?] at h
    split at h
    case isFalse => cases h
    case isTrue hmark =>
      have hword : isWordChar mark := by
        rcases hmark with rfl | rfl <;> rfl
      refine List.forall_mem_cons.mpr ⟨hword, ?_⟩
      split at h
      case h_1 digits =>
        obtain ⟨n, hn, -⟩ := Option.map_eq_some_iff.mp h
        exact List.forall_mem_cons.mpr ⟨rfl, isWordChar_of_natural? hn⟩
      case h_2 digits =>
        obtain ⟨n, hn, -⟩ := Option.map_eq_some_iff.mp h
        exact List.forall_mem_cons.mpr ⟨rfl, isWordChar_of_natural? hn⟩
      case h_3 =>
        obtain ⟨n, hn, -⟩ := Option.map_eq_some_iff.mp h
        exact isWordChar_of_natural? hn

/-- A run of digits, and then characters of words, are characters of words. -/
theorem isWordChar_of_dropWhile {text : List Char}
    (h : ∀ c ∈ text.dropWhile Char.isDigit, isWordChar c) : ∀ c ∈ text, isWordChar c := by
  intro c hc
  rw [← List.takeWhile_append_dropWhile (p := Char.isDigit) (l := text), List.mem_append] at hc
  rcases hc with hdigit | hrest
  · exact isWordChar_of_isDigit (List.mem_takeWhile_imp hdigit)
  · exact h c hrest

theorem isWordChar_of_fraction? {text fraction rest : List Char}
    (h : Numeral.fraction? text = some (fraction, rest)) (hrest : ∀ c ∈ rest, isWordChar c) :
    ∀ c ∈ text, isWordChar c := by
  unfold Numeral.fraction? at h
  split at h
  case h_1 digits =>
    split at h
    case isTrue => cases h
    case isFalse =>
      obtain ⟨-, rfl⟩ := Prod.mk.inj (Option.some.inj h)
      exact List.forall_mem_cons.mpr ⟨rfl, isWordChar_of_dropWhile hrest⟩
  case h_2 =>
    obtain ⟨-, rfl⟩ := Prod.mk.inj (Option.some.inj h)
    exact hrest

theorem isWordChar_of_unsigned? {word : List Char} {decimal : Decimal}
    (h : Numeral.unsigned? word = some decimal) : ∀ c ∈ word, isWordChar c := by
  simp only [Numeral.unsigned?] at h
  split at h
  case isTrue => cases h
  case isFalse =>
    obtain ⟨⟨fraction, rest⟩, hfraction, h⟩ := Option.bind_eq_some_iff.mp h
    obtain ⟨exponent, hexponent, -⟩ := Option.map_eq_some_iff.mp h
    apply isWordChar_of_dropWhile
    exact isWordChar_of_fraction? hfraction (isWordChar_of_exponent? hexponent)

/-- **Numerals are words**: whatever is read as a number is read to its end. -/
theorem isWordChar_of_read? {word : List Char} {number : Bool × Decimal}
    (h : Numeral.read? word = some number) : ∀ c ∈ word, isWordChar c := by
  unfold Numeral.read? at h
  split at h
  case h_1 word =>
    obtain ⟨decimal, hdecimal, -⟩ := Option.map_eq_some_iff.mp h
    exact List.forall_mem_cons.mpr ⟨rfl, isWordChar_of_unsigned? hdecimal⟩
  case h_2 =>
    obtain ⟨decimal, hdecimal, -⟩ := Option.map_eq_some_iff.mp h
    exact isWordChar_of_unsigned? hdecimal

end Token

/-- A numeral spells a number. -/
theorem Spells.numeral {word : List Char} {negative : Bool} {decimal : Decimal}
    (h : Numeral.read? word = some (negative, decimal)) :
    Spells word [.number negative decimal] := by
  have hne : word ≠ [] := by
    rintro rfl
    cases h
  apply Spells.word _ (Token.isWordChar_of_read? h) hne
  rw [Token.ofWord?, h]

end TileLevel.Json
