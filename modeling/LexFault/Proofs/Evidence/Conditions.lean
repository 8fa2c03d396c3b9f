import LexFault.Proofs.Evidence

/-!
# The conditions in their order

`conditions` lists what is asked of each evidence, in the order of asking, and `firstUnmet` finds the
first of them that does not hold. That is the condition that `Evidence.examine` and `Diagnostic.make`
fail with (`Evidence.examine_eq_error_iff`, `Diagnostic.make_eq_error_iff`); evidence for which there
is none is accepted (`Evidence.accepted_iff_conditions`).

Where the offsets select no digit, NUL is what the conditions are about, and where they select no
escape, the empty text: neither is what the next condition asks for.
-/

namespace LexFault

open Condition Text

/-! ## The first condition that does not hold -/

namespace Condition

/-- The first condition of a list that does not hold. -/
def firstUnmet (l : List (Condition × Bool)) : Option Condition :=
  (l.find? fun x => !x.2).map Prod.fst

@[simp] theorem firstUnmet_nil : firstUnmet [] = none := rfl

@[simp] theorem firstUnmet_cons_eq_some {c d : Condition} {b : Bool} {l : List (Condition × Bool)} :
    firstUnmet ((c, b) :: l) = some d ↔ b = false ∧ c = d ∨ b = true ∧ firstUnmet l = some d := by
  cases b <;> simp [firstUnmet]

theorem firstUnmet_eq_none_iff {l : List (Condition × Bool)} :
    firstUnmet l = none ↔ ∀ x ∈ l, x.2 = true := by
  simp [firstUnmet]

theorem firstUnmet_append_of_eq_some {l m : List (Condition × Bool)} {c : Condition}
    (h : firstUnmet l = some c) : firstUnmet (l ++ m) = some c := by
  obtain ⟨x, hx, rfl⟩ := Option.map_eq_some_iff.1 h
  rw [firstUnmet, List.find?_append, hx]
  rfl

/-- If none of its first conditions is the first one of a list that does not hold, they all hold. -/
theorem forall_of_firstUnmet_ne {l m : List (Condition × Bool)}
    (h : ∀ c ∈ l.map Prod.fst, firstUnmet (l ++ m) ≠ some c) : ∀ x ∈ l, x.2 = true := by
  rw [← firstUnmet_eq_none_iff, Option.eq_none_iff_forall_ne_some]
  intro c hc
  obtain ⟨x, hx, rfl⟩ := Option.map_eq_some_iff.1 hc
  exact h x.1 (List.mem_map_of_mem (List.mem_of_find?_eq_some hx)) (firstUnmet_append_of_eq_some hc)

end Condition

/-! ## What offsets select -/

namespace Text

/-- The character at a byte offset, or NUL. -/
def charAt (t : List Char) (offset : Nat) : Char := ((charAt? t offset).map Prod.snd).getD '\x00'

/-- The text from one byte offset up to another, or the empty text. -/
def slice (t : List Char) (start stop : Nat) : List Char :=
  ((slice? t start stop).map Prod.snd).getD []

end Text

theorem Radix.isUnknownDigit_nul (radix : Radix) : radix.isUnknownDigit '\x00' = false := by
  cases radix <;> rfl

theorem Escape.head?_beq_backslash (e : List Char) :
    (e.head? == some '\\') = (behindBackslash? e).isSome := by
  rw [Bool.eq_iff_iff, beq_iff_eq, Option.isSome_iff_exists, List.head?_eq_some_iff]
  simp only [behindBackslash?_eq_some_iff]

/-! ## The conditions on evidence -/

namespace Evidence

/-- What is asked of the evidence, in the order of asking, and whether it holds. -/
def conditions : Evidence → List (Condition × Bool)
  | .missingExponentDigits literal =>
    [(literalNonempty, literal != ""),
      (exponentBare, Number.lacksExponentDigits literal.toList)]
  | .severalRadixPoints literal =>
    [(pointsSeveral, decide (1 < Number.radixPoints literal.toList)),
      (pointsApart, !Number.hasRange literal.toList),
      (digitPresent, Number.hasDigit (utf8 literal.toList))]
  | .reservedIdentifier identifier =>
    [(identifierRaw, Identifier.isRaw identifier),
      (identifierReserved, Identifier.isReservedRaw identifier)]
  | .unknownDigit radix literal offset =>
    [(literalHasRadix, radix.leads literal),
      (digitUnknown, radix.isUnknownDigit (charAt literal.toList offset))]
  | .unknownEscape grammar lexeme start stop =>
    [(lexemeLong, decide (4 ≤ byteLength lexeme.toList)),
      (escapeLong, decide (2 ≤ stop - start)),
      (escapeHasBackslash, (slice lexeme.toList start stop).head? == some '\\'),
      (escapeInvalid, !grammar.accepts (utf8 (slice lexeme.toList start stop)))]
  | .unknownToken lexeme => [(tokenNowhereStarts, !(utf8 lexeme.toList).any Token.canStart)]
  | .unterminatedComment comment =>
    [(commentOpens, Comment.opens (utf8 comment.toList)),
      (commentUnbalanced, decide
        (Comment.closings (utf8 comment.toList) < Comment.openings (utf8 comment.toList)))]
  | .unterminatedString literal =>
    [(literalUnterminated, !StringLiteral.isTerminated literal)]

/-- Evidence that is refused is refused for the first condition that it does not satisfy. -/
theorem examine_eq_error_iff {e : Evidence} {c : Condition} :
    e.examine = .error c ↔ firstUnmet e.conditions = some c := by
  cases e with
  | unknownDigit radix literal offset =>
    cases hdigit : charAt? literal.toList offset with
    | none =>
      simp [examine, conditions, charAt, hdigit, radix.isUnknownDigit_nul, require_bind_eq_error,
        found_bind_eq_error]
    | some x =>
      simp [examine, conditions, charAt, hdigit, require_bind_eq_error, found_bind_eq_error, pure,
        Except.pure]
  | unknownEscape grammar lexeme start stop =>
    cases hescape : slice? lexeme.toList start stop with
    | none =>
      simp [examine, conditions, slice, hescape, require_bind_eq_error, found_bind_eq_error]
    | some x =>
      obtain ⟨before, escape⟩ := x
      cases hrest : Escape.behindBackslash? escape with
      | none =>
        simp [examine, conditions, slice, hescape, hrest, Escape.head?_beq_backslash,
          require_bind_eq_error, found_bind_eq_error]
      | some rest =>
        simp [examine, conditions, slice, hescape, hrest, Escape.head?_beq_backslash,
          require_bind_eq_error, found_bind_eq_error, pure, Except.pure]
  | _ => simp [examine, conditions, require_bind_eq_error, pure, Except.pure]

/-- Evidence is accepted just if it satisfies all of its conditions. -/
theorem accepted_iff_conditions {e : Evidence} {span : Span} :
    e.Accepted span ↔ ∀ x ∈ e.conditions, x.2 = true := by
  rw [accepted_iff, ← firstUnmet_eq_none_iff, Option.eq_none_iff_forall_ne_some]
  simp only [ne_eq, ← examine_eq_error_iff]
  cases e.examine with
  | ok help => simp
  | error c => simp

end Evidence

theorem Diagnostic.make_eq_error_iff {e : Evidence} {span : Span} {failure : Failure} :
    Diagnostic.make e span = .error failure ↔
      ∃ c, firstUnmet e.conditions = some c ∧ failure = .unmet c.text := by
  simp only [← Evidence.examine_eq_error_iff]
  unfold Diagnostic.make
  cases e.examine with
  | ok help => simp
  | error c => simp [Condition.failure, eq_comm]

end LexFault
