import LexFault.Proofs.Lexeme.Escape

/-!
# The forms of an escape

Behind its backslash an escape has a letter, or `x` and two hexadecimal digits, or `u` and up to six of
them in braces. The byte grammar takes the letters and all values of two digits (`isByte_iff_form`), the
ASCII grammar of these values only those up to 127 (`isAscii_iff_isByte`), and the Unicode grammar what
stands in braces (`isUnicode_iff_form`). So the ASCII grammar is part of the byte grammar, and no escape
of these two is one of the Unicode grammar.
-/

namespace LexFault.Escape

open Text TextUnit

/-! ## Hexadecimal digits -/

/-- The value of a hexadecimal digit, of either case. -/
def hexValue? (c : Char) : Option Nat :=
  if '0' ≤ c ∧ c ≤ '9' then some (c.toNat - '0'.toNat)
  else if 'a' ≤ c ∧ c ≤ 'f' then some (c.toNat - 'a'.toNat + 10)
  else if 'A' ≤ c ∧ c ≤ 'F' then some (c.toNat - 'A'.toNat + 10)
  else none

theorem le_iff_toNat {c d : Char} : c ≤ d ↔ c.toNat ≤ d.toNat := Iff.rfl

theorem toNat_of_hexValue? {c : Char} {v : Nat} (h : hexValue? c = some v) :
    v < 16 ∧ (v < 10 ∧ c.toNat = v + 48 ∨ 10 ≤ v ∧ (c.toNat = v + 87 ∨ c.toNat = v + 55)) := by
  simp only [hexValue?, le_iff_toNat, Char.reduceToNat] at h
  split_ifs at h with hdigit hlower hupper
  all_goals
    rw [Option.some.injEq] at h
    omega

theorem isHexDigit_iff {c : Char} : isHexDigit c = true ↔ ∃ v, hexValue? c = some v := by
  unfold hexValue?
  split_ifs <;> simp_all [isHexDigit, within_char]

theorem isHexDigit_of_within {c : Char} (h : within '0' '7' c = true) : isHexDigit c = true := by
  simp only [within, Bool.and_eq_true, decide_eq_true_eq, Char.reduceToNat] at h
  simp only [isHexDigit, within, Bool.or_eq_true, Bool.and_eq_true, decide_eq_true_eq,
    Char.reduceToNat]
  omega

/-- A value of two digits is at most 127 just if the first one is from 0 to 7. -/
theorem within_iff_le {c : Char} {h l : Nat} (hh : hexValue? c = some h) (hl : l < 16) :
    within '0' '7' c = true ↔ 16 * h + l ≤ 127 := by
  have hc := toNat_of_hexValue? hh
  simp only [within_char, le_iff_toNat, Char.reduceToNat, Bool.and_eq_true, decide_eq_true_eq]
  omega

/-! ## The forms of an escape -/

/-- A letter behind the backslash. -/
def IsLetter (e : List Char) : Prop := ∃ c ∈ ['n', 'r', 't', '\\', '0'], e = ['\\', c]

/-- Two hexadecimal digits behind the backslash and `x`, which denote `v`. -/
def HasValue (e : List Char) (v : Nat) : Prop :=
  ∃ high low h l, e = ['\\', 'x', high, low] ∧ hexValue? high = some h ∧ hexValue? low = some l ∧
    v = 16 * h + l

/-- One to six hexadecimal digits in braces behind the backslash and `u`. -/
def IsBraced (e : List Char) : Prop :=
  ∃ digits, e = ['\\', 'u', '{'] ++ digits ++ ['}'] ∧ 1 ≤ digits.length ∧ digits.length ≤ 6 ∧
    ∀ c ∈ digits, ∃ v, hexValue? c = some v

variable {e : List Char} {v w : Nat}

theorem IsLetter.not_hasValue (h : IsLetter e) : ¬ HasValue e v := by
  obtain ⟨c, -, rfl⟩ := h
  rintro ⟨high, low, h, l, he, -⟩
  cases he

theorem HasValue.unique (hv : HasValue e v) (hw : HasValue e w) : v = w := by
  obtain ⟨high, low, h, l, rfl, hh, hl, rfl⟩ := hv
  obtain ⟨_, _, h', l', he, hh', hl', rfl⟩ := hw
  cases he
  rw [Option.some.inj (hh.symm.trans hh'), Option.some.inj (hl.symm.trans hl')]

/-! ## The forms that a grammar takes -/

theorem mem_letters_iff {c : Char} : c ∈ ['n', 'r', 't', '\\', '0'] ↔ isSimple c = true := by
  simp [isSimple, is_char, or_assoc]

theorem fits_letterRow_iff : Fits letterRow e ↔ IsLetter e := by
  simp only [fits_letterRow, IsLetter, mem_letters_iff, Bool.and_eq_true, is_char,
    decide_eq_true_eq]
  constructor
  · rintro ⟨_, c, rfl, rfl, hc⟩
    exact ⟨c, hc, rfl⟩
  · rintro ⟨c, hc, rfl⟩
    exact ⟨'\\', c, rfl, rfl, hc⟩

/-- The row for values whose first digit passes a test, where the test bounds the value. -/
theorem fits_valueRow_iff {high : Char → Bool} {p : Nat → Prop}
    (hhex : ∀ c, high c = true → isHexDigit c = true)
    (hp : ∀ c h l, hexValue? c = some h → l < 16 → (high c = true ↔ p (16 * h + l))) :
    Fits (valueRow high) e ↔ ∃ v, HasValue e v ∧ p v := by
  simp only [fits_valueRow, Bool.and_eq_true, is_char, decide_eq_true_eq]
  constructor
  · rintro ⟨_, _, c, d, rfl, ⟨⟨rfl, rfl⟩, hc⟩, hd⟩
    obtain ⟨h, hh⟩ := isHexDigit_iff.1 (hhex c hc)
    obtain ⟨l, hl⟩ := isHexDigit_iff.1 hd
    have hlow := (toNat_of_hexValue? hl).1
    exact ⟨16 * h + l, ⟨c, d, h, l, rfl, hh, hl, rfl⟩, (hp c h l hh hlow).1 hc⟩
  · rintro ⟨_, ⟨c, d, h, l, rfl, hh, hl, rfl⟩, hv⟩
    have hlow := (toNat_of_hexValue? hl).1
    exact ⟨_, _, c, d, rfl, ⟨⟨rfl, rfl⟩, (hp c h l hh hlow).2 hv⟩, isHexDigit_iff.2 ⟨l, hl⟩⟩

theorem isByte_iff_form : isByte e = true ↔ IsLetter e ∨ ∃ v, HasValue e v := by
  have hvalue : Fits (valueRow isHexDigit) e ↔ ∃ v, HasValue e v ∧ True :=
    fits_valueRow_iff (fun _ h => h) fun c h _ hh _ =>
      iff_of_true (isHexDigit_iff.2 ⟨h, hh⟩) trivial
  rw [isByte_iff, fits_letterRow_iff, hvalue]
  simp only [and_true]

theorem isAscii_iff_form : isAscii e = true ↔ IsLetter e ∨ ∃ v, HasValue e v ∧ v ≤ 127 := by
  have hvalue : Fits (valueRow (within '0' '7')) e ↔ ∃ v, HasValue e v ∧ v ≤ 127 :=
    fits_valueRow_iff (fun _ => isHexDigit_of_within) fun _ _ _ => within_iff_le
  rw [isAscii_iff, fits_letterRow_iff, hvalue]

theorem isAscii_iff_isByte :
    isAscii e = true ↔ isByte e = true ∧ ∀ v, HasValue e v → v ≤ 127 := by
  rw [isAscii_iff_form, isByte_iff_form]
  constructor
  · rintro (hletter | ⟨v, hv, hle⟩)
    · exact ⟨.inl hletter, fun v hv => absurd hv hletter.not_hasValue⟩
    · exact ⟨.inr ⟨v, hv⟩, fun w hw => hv.unique hw ▸ hle⟩
  · rintro ⟨hletter | ⟨v, hv⟩, hle⟩
    · exact .inl hletter
    · exact .inr ⟨v, hv, hle v hv⟩

theorem isUnicode_iff_form : isUnicode e = true ↔ IsBraced e := by
  simp only [isUnicode_iff, bracedRow, fits_cons, fits_replicate_append, fits_nil, is_char,
    decide_eq_true_eq, isHexDigit_iff]
  constructor
  · rintro ⟨n, hlow, hhigh, _, _, rfl, rfl, _, _, rfl, rfl, _, _, rfl, rfl, digits, _, rfl, rfl,
      hdigits, _, _, rfl, rfl, rfl⟩
    exact ⟨digits, rfl, hlow, hhigh, hdigits⟩
  · rintro ⟨digits, rfl, hlow, hhigh, hdigits⟩
    exact ⟨digits.length, hlow, hhigh, _, _, rfl, rfl, _, _, rfl, rfl, _, _, rfl, rfl, digits, _,
      rfl, rfl, hdigits, _, _, rfl, rfl, rfl⟩

/-! ## What the grammars have in common -/

theorem isAscii_eq_false (h : isByte e = false) : isAscii e = false := by
  rw [← Bool.not_eq_true] at h ⊢
  exact fun hascii => h (isAscii_iff_isByte.1 hascii).1

/-- The second character tells digits in braces from the other forms. -/
theorem isByte_eq_false_of_isUnicode (h : isUnicode e = true) : isByte e = false := by
  obtain ⟨digits, rfl, -⟩ := isUnicode_iff_form.1 h
  rw [← Bool.not_eq_true, isByte_iff_form]
  rintro (⟨c, -, he⟩ | ⟨v, high, low, _, _, he, -⟩)
  · simp at he
  · simp at he

theorem Grammar.accepts_utf8 (g : Grammar) (t : List Char) : g.accepts (utf8 t) = g.accepts t := by
  cases g with
  | ascii => exact isAscii_utf8 t
  | byte => exact isByte_utf8 t
  | unicode => exact isUnicode_utf8 t

end LexFault.Escape
