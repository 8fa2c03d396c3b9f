import LexFault.Lexeme.Escape
import LexFault.Proofs.Text.Ascii
import Mathlib.Data.List.Forall2

/-!
# Escapes as rows of tests

Every escape is one unit for each test of a row of tests: two tests for an escape of one letter, four
for a value of two digits, and from five to ten for a value in braces (`isAscii_iff`, `isByte_iff`,
`isUnicode_iff`). Tests that agree on bytes and on characters make rows that fit alike
(`fits_utf8_iff`), so a text is an escape in the one reading just if it is one in the other.
-/

namespace LexFault.Escape

open Text TextUnit

/-! ## Rows of tests -/

section Rows
variable {α : Type} {p : α → Bool} {row : List (α → Bool)} {t : List α}

/-- A text has one unit for each test of a row, and each unit passes its test. -/
def Fits (row : List (α → Bool)) (t : List α) : Prop := List.Forall₂ (fun p a => p a = true) row t

theorem fits_nil : Fits [] t ↔ t = [] := List.forall₂_nil_left_iff

theorem fits_cons : Fits (p :: row) t ↔ ∃ a u, t = a :: u ∧ p a = true ∧ Fits row u := by
  unfold Fits
  rw [List.forall₂_cons_left_iff]
  constructor
  · intro h
    obtain ⟨a, u, ha, hu, rfl⟩ := h
    exact ⟨a, u, rfl, ha, hu⟩
  · intro h
    obtain ⟨a, u, rfl, ha, hu⟩ := h
    exact ⟨a, u, ha, hu, rfl⟩

theorem fits_replicate_append {n : Nat} :
    Fits (List.replicate n p ++ row) t ↔
      ∃ s u, t = s ++ u ∧ s.length = n ∧ (∀ a ∈ s, p a = true) ∧ Fits row u := by
  induction n generalizing t with
  | zero => simp
  | succ n ih =>
    rw [List.replicate_succ, List.cons_append, fits_cons]
    constructor
    · intro h
      obtain ⟨a, t, rfl, ha, ht⟩ := h
      obtain ⟨s, u, rfl, hs, hall, hu⟩ := ih.1 ht
      exact ⟨a :: s, u, rfl, congrArg _ hs, List.forall_mem_cons.2 ⟨ha, hall⟩, hu⟩
    · intro h
      obtain ⟨s, u, rfl, hs, hall, hu⟩ := h
      obtain ⟨a, s, rfl⟩ := List.exists_cons_of_length_eq_add_one hs
      rw [List.forall_mem_cons] at hall
      exact ⟨a, s ++ u, rfl, hall.1, ih.2 ⟨s, u, rfl, Nat.succ.inj hs, hall.2, hu⟩⟩

/-- Rows of tests that agree fit a text and its bytes alike: where a character passes its test, it is
one byte, and where it does not, neither does its first byte. -/
theorem fits_utf8_iff {row : List (UInt8 → Bool)} {row' : List (Char → Bool)}
    (h : List.Forall₂ Agree row row') (t : List Char) : Fits row (utf8 t) ↔ Fits row' t := by
  induction h generalizing t with
  | nil =>
    rw [fits_nil, fits_nil]
    cases t <;> simp [utf8, String.utf8EncodeChar_ne_nil]
  | @cons p q row row' hpq _ ih =>
    rw [fits_cons, fits_cons]
    cases t with
    | nil => simp [utf8]
    | cons c t =>
      obtain ⟨b, l, hl, hb⟩ := utf8EncodeChar_eq_cons c
      obtain ⟨hbc, hlone⟩ := hb p q hpq
      rw [utf8_cons, hl, List.cons_append]
      cases hc : q c
      · simp [hbc, hc]
      · simp [hbc, hc, hlone hc, ih]

end Rows

/-! ## The three grammars -/

section Units
variable {α : Type} [TextUnit α] {t : List α}

/-- A backslash and one letter. -/
def letterRow : List (α → Bool) := [is '\\', isSimple]

/-- A value of two digits, the first of which passes a test. -/
def valueRow (high : α → Bool) : List (α → Bool) := [is '\\', is 'x', high, isHexDigit]

/-- A value of `n` digits in braces. -/
def bracedRow (n : Nat) : List (α → Bool) :=
  is '\\' :: is 'u' :: is '{' :: (List.replicate n isHexDigit ++ [is '}'])

theorem fits_letterRow :
    Fits letterRow t ↔ ∃ b c, t = [b, c] ∧ (is '\\' b && isSimple c) = true := by
  simp only [letterRow, fits_cons, fits_nil, Bool.and_eq_true]
  constructor
  · rintro ⟨b, _, rfl, hb, c, _, rfl, hc, rfl⟩
    exact ⟨b, c, rfl, hb, hc⟩
  · rintro ⟨b, c, rfl, hb, hc⟩
    exact ⟨b, [c], rfl, hb, c, [], rfl, hc, rfl⟩

theorem fits_valueRow {high : α → Bool} :
    Fits (valueRow high) t ↔
      ∃ b x h l, t = [b, x, h, l] ∧ (is '\\' b && is 'x' x && high h && isHexDigit l) = true := by
  simp only [valueRow, fits_cons, fits_nil, Bool.and_eq_true]
  constructor
  · rintro ⟨b, _, rfl, hb, x, _, rfl, hx, h, _, rfl, hh, l, _, rfl, hl, rfl⟩
    exact ⟨b, x, h, l, rfl, ⟨⟨hb, hx⟩, hh⟩, hl⟩
  · rintro ⟨b, x, h, l, rfl, ⟨⟨hb, hx⟩, hh⟩, hl⟩
    exact ⟨b, [x, h, l], rfl, hb, x, [h, l], rfl, hx, h, [l], rfl, hh, l, [], rfl, hl, rfl⟩

theorem not_fits_of_ne {high : α → Bool} (hletter : ∀ b c, t = [b, c] → False)
    (hvalue : ∀ b x h l, t = [b, x, h, l] → False) : ¬ (Fits letterRow t ∨ Fits (valueRow high) t) := by
  rw [fits_letterRow, fits_valueRow]
  rintro (⟨b, c, ht, -⟩ | ⟨b, x, h, l, ht, -⟩)
  · exact hletter b c ht
  · exact hvalue b x h l ht

theorem isAscii_iff :
    isAscii t = true ↔ Fits letterRow t ∨ Fits (valueRow (within '0' '7')) t := by
  unfold isAscii
  split
  · simp [fits_letterRow, fits_valueRow]
  · simp [fits_letterRow, fits_valueRow]
  · next hletter hvalue => simpa using not_fits_of_ne hletter hvalue

theorem isByte_iff : isByte t = true ↔ Fits letterRow t ∨ Fits (valueRow isHexDigit) t := by
  unfold isByte
  split
  · simp [fits_letterRow, fits_valueRow]
  · simp [fits_letterRow, fits_valueRow]
  · next hletter hvalue => simpa using not_fits_of_ne hletter hvalue

theorem not_isHexDigit_brace {c : α} (hc : is '}' c = true) : isHexDigit c = false := by
  have hcode : code c = 125 := eq_of_beq hc
  simp [isHexDigit, within, hcode]

theorem isBracedRest_iff :
    isBracedRest t = true ↔
      ∃ n, 1 ≤ n ∧ n ≤ 6 ∧ Fits (List.replicate n isHexDigit ++ [is '}']) t := by
  simp only [fits_replicate_append, fits_cons, fits_nil]
  constructor
  · intro h
    unfold isBracedRest at h
    split at h
    · next c hc =>
      simp only [Bool.and_eq_true, decide_eq_true_eq] at h
      have ht : t = t.takeWhile isHexDigit ++ [c] := by
        rw [← hc, List.takeWhile_append_dropWhile]
      have hlength := congrArg List.length ht
      rw [List.length_append, List.length_singleton] at hlength
      exact ⟨(t.takeWhile isHexDigit).length, by omega, by omega, _, _, ht, rfl,
        fun a ha => List.all_eq_true.1 List.all_takeWhile a ha, c, [], rfl, h.1.1, rfl⟩
    · cases h
  · intro h
    obtain ⟨n, hlow, hhigh, digits, _, rfl, rfl, hdigits, c, _, rfl, hc, rfl⟩ := h
    have hrest : (digits ++ [c]).dropWhile isHexDigit = [c] := by
      rw [List.dropWhile_append_of_pos hdigits, List.dropWhile_cons_of_neg]
      simp [not_isHexDigit_brace hc]
    have hlength : (digits ++ [c]).length = digits.length + 1 := List.length_append
    unfold isBracedRest
    rw [hrest]
    simp only [hc, Bool.true_and, Bool.and_eq_true, decide_eq_true_eq]
    omega

theorem isUnicode_iff : isUnicode t = true ↔ ∃ n, 1 ≤ n ∧ n ≤ 6 ∧ Fits (bracedRow n) t := by
  simp only [bracedRow, fits_cons]
  constructor
  · intro h
    unfold isUnicode at h
    split at h
    · next b u o rest =>
      simp only [Bool.and_eq_true] at h
      obtain ⟨⟨⟨hb, hu⟩, ho⟩, hrest⟩ := h
      obtain ⟨n, hlow, hhigh, hfits⟩ := isBracedRest_iff.1 hrest
      exact ⟨n, hlow, hhigh, b, _, rfl, hb, u, _, rfl, hu, o, rest, rfl, ho, hfits⟩
    · cases h
  · intro h
    obtain ⟨n, hlow, hhigh, b, _, rfl, hb, u, _, rfl, hu, o, rest, rfl, ho, hfits⟩ := h
    have hrest : isBracedRest rest = true := isBracedRest_iff.2 ⟨n, hlow, hhigh, hfits⟩
    unfold isUnicode
    simp [hb, hu, ho, hrest]

end Units

/-! ## Bytes and characters -/

theorem agree_isHexDigit : Agree isHexDigit isHexDigit :=
  ((agree_within (by decide)).or (agree_within (by decide))).or (agree_within (by decide))

theorem agree_isSimple : Agree isSimple isSimple :=
  ((((agree_is (by decide)).or (agree_is (by decide))).or (agree_is (by decide))).or
    (agree_is (by decide))).or (agree_is (by decide))

theorem agree_letterRow : List.Forall₂ Agree letterRow letterRow :=
  .cons (agree_is (by decide)) (.cons agree_isSimple .nil)

theorem agree_valueRow {p : UInt8 → Bool} {q : Char → Bool} (h : Agree p q) :
    List.Forall₂ Agree (valueRow p) (valueRow q) :=
  .cons (agree_is (by decide)) (.cons (agree_is (by decide))
    (.cons h (.cons agree_isHexDigit .nil)))

theorem agree_bracedRow (n : Nat) : List.Forall₂ Agree (bracedRow n) (bracedRow n) := by
  have hdigits : List.Forall₂ Agree (List.replicate n isHexDigit ++ [is '}'])
      (List.replicate n isHexDigit ++ [is '}']) := by
    induction n with
    | zero => exact .cons (agree_is (by decide)) .nil
    | succ n ih => exact .cons agree_isHexDigit ih
  exact .cons (agree_is (by decide)) (.cons (agree_is (by decide))
    (.cons (agree_is (by decide)) hdigits))

theorem isAscii_utf8 (t : List Char) : isAscii (utf8 t) = isAscii t := by
  rw [Bool.eq_iff_iff, isAscii_iff, isAscii_iff, fits_utf8_iff agree_letterRow,
    fits_utf8_iff (agree_valueRow (agree_within (by decide)))]

theorem isByte_utf8 (t : List Char) : isByte (utf8 t) = isByte t := by
  rw [Bool.eq_iff_iff, isByte_iff, isByte_iff, fits_utf8_iff agree_letterRow,
    fits_utf8_iff (agree_valueRow agree_isHexDigit)]

theorem isUnicode_utf8 (t : List Char) : isUnicode (utf8 t) = isUnicode t := by
  rw [Bool.eq_iff_iff, isUnicode_iff, isUnicode_iff]
  exact exists_congr fun n => and_congr_right fun _ => and_congr_right fun _ =>
    fits_utf8_iff (agree_bracedRow n) t

end LexFault.Escape
