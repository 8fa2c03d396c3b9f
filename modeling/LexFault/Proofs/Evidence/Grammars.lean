import LexFault.Proofs.Evidence.Conditions
import LexFault.Proofs.Lexeme.EscapeForm

/-!
# Escapes that a grammar refuses

Of the four conditions on an unknown escape only the last one speaks of the grammar. Evidence that
satisfies the other three is accepted just for those grammars that refuse the escape
(`accepted_iff_of_shape`). What the grammars have in common then tells how they answer on one escape
(`forms_decide_grammars`).
-/

namespace LexFault.Evidence

open Condition Escape Text

variable {g : Grammar} {lexeme : String} {start stop : Nat} {span : Span}

/-- The conditions on an unknown escape that do not speak of its grammar, and whether they hold. -/
def shape (lexeme : String) (start stop : Nat) : List (Condition × Bool) :=
  [(lexemeLong, decide (4 ≤ byteLength lexeme.toList)), (escapeLong, decide (2 ≤ stop - start)),
    (escapeHasBackslash, (slice lexeme.toList start stop).head? == some '\\')]

theorem conditions_unknownEscape (g : Grammar) (lexeme : String) (start stop : Nat) :
    conditions (.unknownEscape g lexeme start stop) = shape lexeme start stop ++
      [(escapeInvalid, !g.accepts (utf8 (slice lexeme.toList start stop)))] := rfl

/-- Evidence that is not refused for the shape of the escape is refused or accepted by the grammar. -/
theorem accepted_iff_of_shape
    (h : ∀ c ∈ [lexemeLong, escapeLong, escapeHasBackslash],
      examine (.unknownEscape g lexeme start stop) ≠ .error c) (g' : Grammar) :
    Accepted (.unknownEscape g' lexeme start stop) span ↔
      g'.accepts (slice lexeme.toList start stop) = false := by
  simp only [ne_eq, examine_eq_error_iff, conditions_unknownEscape] at h
  have hshape : ∀ x ∈ shape lexeme start stop, x.2 = true := forall_of_firstUnmet_ne h
  rw [accepted_iff_conditions, conditions_unknownEscape, List.forall_mem_append,
    and_iff_right hshape, List.forall_mem_singleton, Bool.not_eq_true', g'.accepts_utf8]

/-- What each grammar of escapes accepts, by the forms of an escape: letters and all values, letters
and the values up to 127, or digits in braces. So evidence that satisfies the conditions on the shape
of an escape and is accepted for the byte grammar is accepted for the ASCII grammar too; if it is
refused for the Unicode grammar it is accepted for both others; and it is never refused for all. -/
theorem forms_decide_grammars (span : Span) :
    (∀ e : String,
        (Grammar.byte.isValid e = true ↔ IsLetter e.toList ∨ ∃ v, HasValue e.toList v) ∧
          (Grammar.ascii.isValid e = true ↔
            Grammar.byte.isValid e = true ∧ ∀ v, HasValue e.toList v → v ≤ 127) ∧
            (Grammar.unicode.isValid e = true ↔ IsBraced e.toList)) ∧
      ∀ (g : Grammar) (lexeme : String) (start stop : Nat),
        (∀ c ∈ [lexemeLong, escapeLong, escapeHasBackslash],
          examine (.unknownEscape g lexeme start stop) ≠ .error c) →
          (Accepted (.unknownEscape .byte lexeme start stop) span →
              Accepted (.unknownEscape .ascii lexeme start stop) span) ∧
            (¬ Accepted (.unknownEscape .unicode lexeme start stop) span →
                Accepted (.unknownEscape .ascii lexeme start stop) span ∧
                  Accepted (.unknownEscape .byte lexeme start stop) span) ∧
              ∃ g', Accepted (.unknownEscape g' lexeme start stop) span := by
  simp only [Grammar.isValid, Grammar.accepts_utf8]
  refine ⟨fun e => ⟨isByte_iff_form, isAscii_iff_isByte, isUnicode_iff_form⟩,
    fun g lexeme start stop h => ?_⟩
  simp only [accepted_iff_of_shape h]
  refine ⟨isAscii_eq_false, fun hunicode => ?_, ?_⟩
  · have hbyte := isByte_eq_false_of_isUnicode (eq_true_of_ne_false hunicode)
    exact ⟨isAscii_eq_false hbyte, hbyte⟩
  · cases hunicode : isUnicode (slice lexeme.toList start stop) with
    | false => exact ⟨.unicode, hunicode⟩
    | true => exact ⟨.byte, isByte_eq_false_of_isUnicode hunicode⟩

/-- The value 128 is one for the byte grammar only. Digits in braces are refused for the Unicode grammar,
and so accepted for both others. -/
theorem forms_decide_grammars_of_braced :
    (HasValue "\\x80".toList 128 ∧ Grammar.byte.isValid "\\x80" = true ∧
      ¬ Grammar.ascii.isValid "\\x80" = true) ∧
      (∀ c ∈ [lexemeLong, escapeLong, escapeHasBackslash],
        examine (.unknownEscape .unicode "a\\u\x7b41\x7d" 1 7) ≠ .error c) ∧
        ¬ Accepted (.unknownEscape .unicode "a\\u\x7b41\x7d" 1 7) ⟨.origin, .origin, by decide⟩ ∧
          Accepted (.unknownEscape .byte "a\\u\x7b41\x7d" 1 7) ⟨.origin, .origin, by decide⟩ ∧
            Accepted (.unknownEscape .ascii "a\\u\x7b41\x7d" 1 7) ⟨.origin, .origin, by decide⟩ := by
  obtain ⟨hforms, hescapes⟩ := forms_decide_grammars ⟨.origin, .origin, by decide⟩
  have hvalue : HasValue "\\x80".toList 128 := ⟨'8', '0', 8, 0, rfl, rfl, rfl, rfl⟩
  have hshape : ∀ c ∈ [lexemeLong, escapeLong, escapeHasBackslash],
      examine (.unknownEscape .unicode "a\\u\x7b41\x7d" 1 7) ≠ .error c := by decide
  have hunicode :
      ¬ Accepted (.unknownEscape .unicode "a\\u\x7b41\x7d" 1 7) ⟨.origin, .origin, by decide⟩ := by
    rw [accepted_iff_of_shape hshape]
    decide
  obtain ⟨hbyte_ascii, hothers, -⟩ := hescapes .unicode _ 1 7 hshape
  have hbyte := (hothers hunicode).2
  refine ⟨⟨hvalue, (hforms "\\x80").1.2 (.inr ⟨128, hvalue⟩), fun hascii => ?_⟩, hshape, hunicode,
    hbyte, hbyte_ascii hbyte⟩
  exact absurd (((hforms "\\x80").2.1.1 hascii).2 128 hvalue) (by decide)

end LexFault.Evidence
