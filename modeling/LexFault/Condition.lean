import LexFault.Failure

/-!
# Conditions on evidence

What the evidence of a diagnostic must satisfy, one constructor for each check, and the two steps
that a check is made of: `require` asks for a fact, `found` asks for a part of the text.
-/

namespace LexFault

/-- A requirement on evidence. -/
inductive Condition where
  | literalNonempty
  | exponentBare
  | pointsSeveral
  | pointsApart
  | digitPresent
  | identifierRaw
  | identifierReserved
  | literalHasRadix
  | digitUnknown
  | lexemeLong
  | escapeLong
  | escapeHasBackslash
  | escapeInvalid
  | tokenNowhereStarts
  | commentOpens
  | commentUnbalanced
  | literalUnterminated
  deriving DecidableEq

namespace Condition

/-- The formula of a condition. -/
def text : Condition → String
  | .literalNonempty => "!float_literal.is_empty()"
  | .exponentBare => "MISSING_EXPONENT_DIGITS.is_match(float_literal)"
  | .pointsSeveral => "radix_points > 1"
  | .pointsApart => "!literal.contains(\"..\")"
  | .digitPresent => "literal.bytes().any(|c| c.is_ascii_digit())"
  | .identifierRaw => "identifier.starts_with(RAW_IDENTIFIER_PREFIX)"
  | .identifierReserved => "is_prohibited_identifier(identifier)"
  | .literalHasRadix => "literal.starts_with(radix.prefix())"
  | .digitUnknown => "radix.is_unknown_digit(digit_value)"
  | .lexemeLong => "lexeme.len() >= 4"
  | .escapeLong => "escape.len() >= 2"
  | .escapeHasBackslash => "unrecognised_escape.starts_with('\\\\')"
  | .escapeInvalid => "!kind.is_valid_escape(unrecognised_escape)"
  | .tokenNowhereStarts => "!lexeme.bytes().any(can_start_token)"
  | .commentOpens => "comment.as_bytes().starts_with(COMMENT_OPENING)"
  | .commentUnbalanced =>
    "count_delimiters(comment, COMMENT_OPENING) >\ncount_delimiters(comment, COMMENT_CLOSING)"
  | .literalUnterminated => "!is_terminated(literal)"

/-- The failure of a check on the condition. -/
def failure (c : Condition) : Failure := .unmet c.text

/-- Goes on if the condition holds. -/
def require (c : Condition) (holds : Bool) : Except Condition Unit :=
  if holds then .ok () else .error c

/-- Goes on with the part of the text that the condition speaks of, if there is one. -/
def found {α : Type} (c : Condition) : Option α → Except Condition α
  | some a => .ok a
  | none => .error c

variable {α β : Type} {c d : Condition} {b : Bool}

theorem require_bind_eq_ok {f : Unit → Except Condition α} {a : α} :
    (c.require b >>= f) = .ok a ↔ b = true ∧ f () = .ok a := by
  cases b <;> simp [require, bind, Except.bind]

theorem require_bind_eq_error {f : Unit → Except Condition α} :
    (c.require b >>= f) = .error d ↔ b = false ∧ c = d ∨ b = true ∧ f () = .error d := by
  cases b <;> simp [require, bind, Except.bind]

theorem found_bind_eq_ok {o : Option β} {f : β → Except Condition α} {a : α} :
    (c.found o >>= f) = .ok a ↔ ∃ x, o = some x ∧ f x = .ok a := by
  cases o <;> simp [found, bind, Except.bind]

theorem found_bind_eq_error {o : Option β} {f : β → Except Condition α} :
    (c.found o >>= f) = .error d ↔ o = none ∧ c = d ∨ ∃ x, o = some x ∧ f x = .error d := by
  cases o <;> simp [found, bind, Except.bind]

end Condition

end LexFault
