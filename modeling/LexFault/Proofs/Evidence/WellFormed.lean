import LexFault.Proofs.Evidence.Apart
import LexFault.Proofs.Evidence.Exponent

/-!
# Words and numbers that are in order

A word is a letter or an underscore with letters, digits and underscores behind it; a decimal number
is digits, with a fraction and an exponent or without. Neither has a character that a raw
identifier, an escape, a comment or a string would need, both have one that can start a token, and a
number has one point at most and its digits at the end. So no diagnostic that looks for something in
a lexeme can be made from them, but for one: a lone exponent marker is a word, and also a number
without digits, which the check on exponents takes in (`WellFormed.bare_iff`). An unterminated
string, on the other hand, can be made of all of them, as of any text without a double quote.
-/

namespace LexFault

open TextUnit

/-! ## Words and numbers -/

/-- A letter or an underscore, and letters, digits or underscores behind it. -/
inductive IsWord : List Char → Prop where
  | intro {c : Char} {t : List Char} (first : c.isAlpha = true ∨ c = '_')
      (rest : ∀ d ∈ t, d.isAlphanum = true ∨ d = '_') : IsWord (c :: t)

/-- One or more digits. -/
def IsDigits (t : List Char) : Prop := t ≠ [] ∧ ∀ c ∈ t, c.isDigit = true

/-- A point and digits behind it, or nothing. -/
inductive IsFraction : List Char → Prop where
  | absent : IsFraction []
  | point {t : List Char} (digits : IsDigits t) : IsFraction ('.' :: t)

/-- An exponent marker, at most a sign, and digits behind it, or nothing. -/
inductive IsExponent : List Char → Prop where
  | absent : IsExponent []
  | marker {m : Char} {s t : List Char} (marker : m = 'e' ∨ m = 'E')
      (sign : s = [] ∨ s = ['+'] ∨ s = ['-']) (digits : IsDigits t) : IsExponent (m :: (s ++ t))

/-- Digits, a fraction and an exponent. -/
inductive IsDecimal : List Char → Prop where
  | intro {w f x : List Char} (whole : IsDigits w) (fraction : IsFraction f)
      (exponent : IsExponent x) : IsDecimal (w ++ (f ++ x))

/-- A word or a decimal number. -/
def WellFormed (t : List Char) : Prop := IsWord t ∨ IsDecimal t

variable {c : Char} {t u : List Char}

/-! ## Their characters -/

theorem IsWord.isAlphanum_of_mem (h : IsWord t) (hc : c ∈ t) : c.isAlphanum = true ∨ c = '_' := by
  obtain ⟨first, rest⟩ := h
  rcases List.mem_cons.1 hc with rfl | hc
  · exact first.imp_left fun halpha => by simp [Char.isAlphanum, halpha]
  · exact rest c hc

theorem IsDigits.isExponentUnit_of_mem (h : IsDigits t) (hc : c ∈ t) :
    Number.isExponentUnit c = true := by
  simp [Number.isExponentUnit, isDigit_char, h.2 c hc]

theorem IsFraction.isExponentUnit_of_mem (h : IsFraction t) (hc : c ∈ t) :
    Number.isExponentUnit c = true := by
  cases h with
  | absent => cases hc
  | point digits =>
    rcases List.mem_cons.1 hc with rfl | hc
    · rfl
    · exact digits.isExponentUnit_of_mem hc

theorem IsExponent.isExponentUnit_of_mem (h : IsExponent t) (hc : c ∈ t) :
    Number.isExponentUnit c = true := by
  cases h with
  | absent => cases hc
  | marker marker sign digits =>
    rw [List.mem_cons, List.mem_append] at hc
    rcases hc with rfl | hc | hc
    · rcases marker with rfl | rfl <;> rfl
    · rcases sign with rfl | rfl | rfl
      · cases hc
      · rw [List.mem_singleton.1 hc]
        rfl
      · rw [List.mem_singleton.1 hc]
        rfl
    · exact digits.isExponentUnit_of_mem hc

theorem IsDecimal.isExponentUnit_of_mem (h : IsDecimal t) (hc : c ∈ t) :
    Number.isExponentUnit c = true := by
  obtain ⟨whole, fraction, exponent⟩ := h
  rcases List.mem_append.1 hc with hc | hc
  · exact whole.isExponentUnit_of_mem hc
  · rcases List.mem_append.1 hc with hc | hc
    · exact fraction.isExponentUnit_of_mem hc
    · exact exponent.isExponentUnit_of_mem hc

/-- Whether a character may stand in a word or in a number. -/
def isLexemeUnit (c : Char) : Bool := c.isAlphanum || c == '_' || Number.isExponentUnit c

theorem WellFormed.notMem (h : WellFormed t) (hc : isLexemeUnit c = false) : c ∉ t := by
  intro hmem
  simp only [isLexemeUnit, Bool.or_eq_false_iff] at hc
  rcases h with h | h
  · rcases h.isAlphanum_of_mem hmem with halpha | rfl
    · simp [halpha] at hc
    · simp at hc
  · simp [h.isExponentUnit_of_mem hmem] at hc

/-! ## Where they start -/

theorem toNat_of_isAlpha (h : c.isAlpha = true) :
    65 ≤ c.toNat ∧ c.toNat ≤ 90 ∨ 97 ≤ c.toNat ∧ c.toNat ≤ 122 := by
  rcases Bool.or_eq_true_iff.1 h with hupper | hlower
  · obtain ⟨hA, hZ⟩ := of_decide_eq_true hupper
    exact .inl ⟨UInt32.le_iff_toNat_le.1 hA, UInt32.le_iff_toNat_le.1 hZ⟩
  · obtain ⟨ha, hz⟩ := Bool.and_eq_true_iff.1 hlower
    exact .inr ⟨UInt32.le_iff_toNat_le.1 (of_decide_eq_true ha),
      UInt32.le_iff_toNat_le.1 (of_decide_eq_true hz)⟩

theorem Token.canStart_of_isAlpha (h : c.isAlpha = true) : canStart c = true := by
  have hletter := toNat_of_isAlpha h
  simp only [canStart, within, is, Bool.and_eq_true, decide_eq_true_eq, Bool.not_eq_true',
    beq_eq_false_iff_ne, Char.reduceToNat]
  show ((33 ≤ c.toNat ∧ c.toNat ≤ 125) ∧ c.toNat ≠ 96) ∧ c.toNat ≠ 92
  omega

theorem IsDecimal.head_isDigit (h : IsDecimal t) : ∃ c u, t = c :: u ∧ c.isDigit = true := by
  obtain ⟨⟨hne, hdigits⟩, fraction, exponent⟩ := h
  obtain ⟨c, w, rfl⟩ := List.exists_cons_of_ne_nil hne
  exact ⟨c, _, rfl, hdigits c List.mem_cons_self⟩

theorem WellFormed.exists_canStart (h : WellFormed t) : ∃ c ∈ t, Token.canStart c = true := by
  rcases h with ⟨halpha | rfl, -⟩ | h
  · exact ⟨_, List.mem_cons_self, Token.canStart_of_isAlpha halpha⟩
  · exact ⟨'_', List.mem_cons_self, rfl⟩
  · obtain ⟨c, u, rfl, hdigit⟩ := h.head_isDigit
    exact ⟨c, List.mem_cons_self, Number.canStart_of_isDigit hdigit⟩

/-- A word does not start with a digit, and no letter but an exponent marker follows a digit in a
number. -/
theorem WellFormed.not_leads {t : String} (h : WellFormed t.toList) (radix : Radix) :
    radix.leads t = false := by
  rw [← Bool.not_eq_true]
  intro hleads
  obtain ⟨u, hu⟩ := List.isPrefixOf_iff_prefix.1 hleads
  obtain ⟨d, hd, ht⟩ : ∃ d, Number.isExponentUnit d = false ∧ t.toList = '0' :: d :: u := by
    rw [← hu]
    cases radix with
    | binary => exact ⟨'b', rfl, rfl⟩
    | octal => exact ⟨'o', rfl, rfl⟩
  rw [ht] at h
  rcases h with h | h
  · obtain ⟨hzero | hzero, -⟩ := h
    · cases hzero
    · cases hzero
  · have hunit : Number.isExponentUnit d = true := h.isExponentUnit_of_mem (by simp)
    rw [hd] at hunit
    cases hunit

/-! ## Where they end -/

/-- The last character of a text is a digit. -/
def EndsInDigit (t : List Char) : Prop := ∃ c, t.getLast? = some c ∧ c.isDigit = true

theorem EndsInDigit.append (h : EndsInDigit u) (t : List Char) : EndsInDigit (t ++ u) := by
  obtain ⟨c, hc, hdigit⟩ := h
  exact ⟨c, by rw [List.getLast?_append, hc, Option.some_or], hdigit⟩

theorem IsDigits.endsInDigit (h : IsDigits t) : EndsInDigit t :=
  ⟨_, List.getLast?_eq_some_getLast h.1, h.2 _ (List.getLast_mem h.1)⟩

theorem IsFraction.endsInDigit (h : IsFraction t) (hu : EndsInDigit u) : EndsInDigit (u ++ t) := by
  cases h with
  | absent => rwa [List.append_nil]
  | point digits => exact (digits.endsInDigit.append ['.']).append u

theorem IsExponent.endsInDigit (h : IsExponent t) (hu : EndsInDigit u) : EndsInDigit (u ++ t) := by
  cases h with
  | absent => rwa [List.append_nil]
  | marker marker sign digits => exact (digits.endsInDigit.append (_ :: _)).append u

theorem IsDecimal.endsInDigit (h : IsDecimal t) : EndsInDigit t := by
  obtain ⟨whole, fraction, exponent⟩ := h
  rw [← List.append_assoc]
  exact exponent.endsInDigit (fraction.endsInDigit whole.endsInDigit)

namespace Number

variable {s : List Char} {m : Char}

theorem Bare.not_endsInDigit (h : Bare s m u) : ¬ EndsInDigit (s ++ m :: u) := by
  rintro ⟨c, hc, hdigit⟩
  rw [List.getLast?_append, List.getLast?_cons, Option.some_or] at hc
  cases hc
  rcases h.sign with rfl | rfl | rfl
  · rcases h.marker with rfl | rfl
    · cases hdigit
    · cases hdigit
  · cases hdigit
  · cases hdigit

end Number

/-! ## Exponents without digits -/

open Number

theorem IsDecimal.not_bare (h : IsDecimal t) : ¬ ∃ s m u, t = s ++ m :: u ∧ Bare s m u := by
  rintro ⟨s, m, u, rfl, hbare⟩
  exact hbare.not_endsInDigit h.endsInDigit

theorem IsWord.head_no_digit_or_point {s : List Char} (h : IsWord (c :: s)) :
    ¬ (c.isDigit = true ∨ c = '.') := by
  obtain ⟨halpha | rfl, -⟩ := h
  · have hletter := toNat_of_isAlpha halpha
    rintro (hdigit | rfl)
    · have hnumber : 48 ≤ c.toNat ∧ c.toNat ≤ 57 := by
        simpa [Char.isDigit, UInt32.le_iff_toNat_le] using hdigit
      omega
    · cases halpha
  · decide

/-- Neither a digit nor a point starts a word, and no sign stands in it. So a word has no more to it
than the marker. -/
theorem IsWord.bare_iff (h : IsWord t) :
    (∃ s m u, t = s ++ m :: u ∧ Bare s m u) ↔ t = ['e'] ∨ t = ['E'] := by
  constructor
  · rintro ⟨s, m, u, rfl, hbare⟩
    obtain rfl : s = [] := by
      cases s with
      | nil => rfl
      | cons c s => exact absurd (hbare.plain c List.mem_cons_self) h.head_no_digit_or_point
    have hunit : ∀ c ∈ u, c.isAlphanum = true ∨ c = '_' := fun c hc =>
      h.isAlphanum_of_mem (List.mem_cons_of_mem m hc)
    rcases hbare.sign with rfl | rfl | rfl
    · exact hbare.marker.imp (congrArg fun c => [c]) (congrArg fun c => [c])
    · exact absurd (hunit '+' List.mem_cons_self) (by decide)
    · exact absurd (hunit '-' List.mem_cons_self) (by decide)
  · rintro (rfl | rfl)
    · exact ⟨[], 'e', [], rfl, by simp, .inl rfl, .inl rfl⟩
    · exact ⟨[], 'E', [], rfl, by simp, .inr rfl, .inl rfl⟩

theorem WellFormed.bare_iff (h : WellFormed t) :
    (∃ s m u, t = s ++ m :: u ∧ Bare s m u) ↔ t = ['e'] ∨ t = ['E'] := by
  rcases h with h | h
  · exact h.bare_iff
  · refine iff_of_false h.not_bare ?_
    have hends := h.endsInDigit
    rintro (rfl | rfl)
    · obtain ⟨_, ⟨⟩, hdigit⟩ := hends
      cases hdigit
    · obtain ⟨_, ⟨⟩, hdigit⟩ := hends
      cases hdigit

/-! ## Radix points -/

theorem Number.radixPoints_eq_zero (h : '.' ∉ t) : radixPoints t = 0 := by
  unfold radixPoints
  rw [List.countP_eq_zero]
  intro c hc
  rw [is_char, decide_eq_true_eq]
  rintro rfl
  exact h hc

theorem IsDigits.point_notMem (h : IsDigits t) : '.' ∉ t := fun hc => by cases h.2 '.' hc

theorem IsFraction.radixPoints_le (h : IsFraction t) : radixPoints t ≤ 1 := by
  cases h with
  | absent => decide
  | point digits =>
    have hdigits := radixPoints_eq_zero digits.point_notMem
    unfold radixPoints at hdigits ⊢
    rw [List.countP_cons, hdigits]
    decide

theorem IsExponent.point_notMem (h : IsExponent t) : '.' ∉ t := by
  cases h with
  | absent => exact List.not_mem_nil
  | marker marker sign digits =>
    rw [List.mem_cons, List.mem_append, not_or, not_or]
    refine ⟨?_, ?_, digits.point_notMem⟩
    · rcases marker with rfl | rfl <;> decide
    · rcases sign with rfl | rfl | rfl <;> decide

/-- Only the fraction of a number has a point. -/
theorem WellFormed.radixPoints_le (h : WellFormed t) : radixPoints t ≤ 1 := by
  rcases h with h | ⟨whole, fraction, exponent⟩
  · have hpoint : '.' ∉ t := fun hc => absurd (h.isAlphanum_of_mem hc) (by decide)
    rw [radixPoints_eq_zero hpoint]
    exact Nat.zero_le 1
  · have hwhole := radixPoints_eq_zero whole.point_notMem
    have hfraction := fraction.radixPoints_le
    have hexponent := radixPoints_eq_zero exponent.point_notMem
    unfold radixPoints at *
    rw [List.countP_append, List.countP_append]
    omega

/-! ## Diagnostics -/

theorem WellFormed.notMem_lexemes {t : String} {kind : Kind} {span : Span}
    (h : WellFormed t.toList) (hexponent : kind ≠ .missingExponentDigits)
    (hstring : kind ≠ .unterminatedString) : t ∉ kind.lexemes span := by
  intro ht
  -- each of the other kinds asks for a character or a start that no word and no number has
  cases kind with
  | missingExponentDigits => exact hexponent rfl
  | unterminatedString => exact hstring rfl
  | severalRadixPoints =>
    obtain ⟨_, _, help, hhelp⟩ := Kind.exists_examine_of_mem ht
    have hseveral := (Evidence.examine_severalRadixPoints.1 hhelp).1.1
    have := h.radixPoints_le
    omega
  | reservedIdentifier =>
    obtain ⟨name, -, hname⟩ := Kind.exists_reserved_of_mem ht
    exact h.notMem (c := '#') (by decide) (by simp [hname])
  | unknownDigit radix =>
    have hleads := Kind.leads_of_mem ht
    rw [h.not_leads] at hleads
    cases hleads
  | unknownEscape grammar =>
    obtain ⟨_, _, help, hhelp⟩ := Kind.exists_examine_of_mem ht
    obtain ⟨-, before, rest, after, hsplit, -⟩ := Evidence.examine_unknownEscape.1 hhelp
    exact h.notMem (c := '\\') (by decide) (by simp [hsplit])
  | unknownToken =>
    obtain ⟨c, hc, hstart⟩ := h.exists_canStart
    rw [Kind.not_canStart_of_mem ht c hc] at hstart
    cases hstart
  | unterminatedComment =>
    obtain ⟨u, hu⟩ := Comment.opens_iff.1 (Kind.opens_of_mem ht)
    exact h.notMem (c := '/') (by decide) (by simp [hu])

namespace Evidence

variable {t : String} {span : Span}

theorem accepted_unterminatedString (h : WellFormed t.toList) :
    Accepted (.unterminatedString t) span := by
  have hquote : '"' ∉ t.toList := h.notMem (by decide)
  exact accepted_iff.2
    ⟨_, examine_unterminatedString.2 ⟨StringLiteral.isTerminated_eq_false hquote, rfl⟩⟩

theorem accepted_missingExponentDigits_iff_marker (h : WellFormed t.toList) :
    Accepted (.missingExponentDigits t) span ↔ t = "e" ∨ t = "E" := by
  rw [accepted_missingExponentDigits_iff, h.bare_iff, ← String.toList_inj, ← String.toList_inj]
  rfl

/-- None of the kinds of diagnostic that look for a fault in a lexeme can be made from a word or a
decimal number, whatever the radix and the offsets, but for one kind and two words: a lone exponent
marker passes for a number whose exponent lacks digits. All words and numbers pass for unterminated
strings, since they have no double quote. -/
theorem well_formed_accepted_iff (h : WellFormed t.toList) (kind : Kind) (start stop : Nat)
    (span : Span) :
    (kind.evidence t start stop).Accepted span ↔
      kind = .unterminatedString ∨ kind = .missingExponentDigits ∧ (t = "e" ∨ t = "E") := by
  by_cases hstring : kind = .unterminatedString
  · subst hstring
    exact iff_of_true (accepted_unterminatedString h) (.inl rfl)
  · rw [or_iff_right hstring]
    by_cases hexponent : kind = .missingExponentDigits
    · subst hexponent
      rw [and_iff_right rfl]
      exact accepted_missingExponentDigits_iff_marker h
    · refine iff_of_false (fun haccepted => ?_) fun hmarker => hexponent hmarker.1
      exact h.notMem_lexemes hexponent hstring ⟨start, stop, haccepted⟩

/-- A number with a fraction and an exponent neither lacks digits nor has too many points. -/
theorem well_formed_accepted_iff_of_number :
    WellFormed "1.5e-7".toList ∧
      ¬ Accepted (.missingExponentDigits "1.5e-7") ⟨.origin, .origin, by decide⟩ ∧
        ¬ Accepted (.severalRadixPoints "1.5e-7") ⟨.origin, .origin, by decide⟩ := by
  have hdigit : ∀ c, c.isDigit = true → IsDigits [c] := fun c hc =>
    ⟨List.cons_ne_nil c [], List.forall_mem_singleton.2 hc⟩
  have hnumber : WellFormed "1.5e-7".toList :=
    .inr (.intro (hdigit '1' rfl) (.point (hdigit '5' rfl))
      (.marker (.inl rfl) (.inr (.inr rfl)) (hdigit '7' rfl)))
  have hkinds := fun kind =>
    well_formed_accepted_iff hnumber kind 0 0 ⟨.origin, .origin, by decide⟩
  refine ⟨hnumber, ?_, ?_⟩
  · exact mt (hkinds .missingExponentDigits).1 (by decide)
  · exact mt (hkinds .severalRadixPoints).1 (by decide)

/-- A letter that marks exponents is a word, and passes for a number whose exponent lacks digits. -/
theorem marker_words_accepted :
    (WellFormed "e".toList ∧
        Accepted (.missingExponentDigits "e") ⟨.origin, .origin, by decide⟩) ∧
      WellFormed "E".toList ∧
        Accepted (.missingExponentDigits "E") ⟨.origin, .origin, by decide⟩ := by
  have hword : ∀ c : Char, c.isAlpha = true → WellFormed [c] := fun c hc =>
    .inl (.intro (.inl hc) (List.forall_mem_nil _))
  exact ⟨⟨hword 'e' rfl, accepted_iff.2 ⟨_, rfl⟩⟩, hword 'E' rfl, accepted_iff.2 ⟨_, rfl⟩⟩

end Evidence

end LexFault
