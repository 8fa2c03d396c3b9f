import LexFault.Condition
import LexFault.Defect
import LexFault.Help
import LexFault.Lexeme.Comment
import LexFault.Lexeme.Identifier
import LexFault.Lexeme.StringLiteral
import LexFault.Lexeme.Token

/-!
# Evidence

What a scanner hands over when it finds a faulty lexeme: the lexeme and, for a digit or an escape,
where in it the fault lies, as byte offsets. `examine` checks the conditions of the defect in their
order; it ends with the help text, or with the first condition that does not hold.
-/

namespace LexFault

/-- A lexeme, and where a scanner finds it faulty. -/
inductive Evidence where
  | missingExponentDigits (literal : String)
  | severalRadixPoints (literal : String)
  | reservedIdentifier (identifier : String)
  | unknownDigit (radix : Radix) (literal : String) (offset : Nat)
  | unknownEscape (grammar : Escape.Grammar) (lexeme : String) (start stop : Nat)
  | unknownToken (lexeme : String)
  | unterminatedComment (comment : String)
  | unterminatedString (literal : String)
  deriving DecidableEq

namespace Evidence

open Condition Text

/-- The kind of diagnostic that the evidence is for. -/
def kind : Evidence → Kind
  | .missingExponentDigits _ => .missingExponentDigits
  | .severalRadixPoints _ => .severalRadixPoints
  | .reservedIdentifier _ => .reservedIdentifier
  | .unknownDigit radix _ _ => .unknownDigit radix
  | .unknownEscape grammar _ _ _ => .unknownEscape grammar
  | .unknownToken _ => .unknownToken
  | .unterminatedComment _ => .unterminatedComment
  | .unterminatedString _ => .unterminatedString

/-- The help text that the evidence warrants, or the first condition that it does not satisfy. -/
def examine : Evidence → Except Condition String
  | .missingExponentDigits literal => do
    literalNonempty.require (literal != "")
    exponentBare.require (Number.lacksExponentDigits literal.toList)
    return Help.missingExponentDigits literal
  | .severalRadixPoints literal => do
    pointsSeveral.require (decide (1 < Number.radixPoints literal.toList))
    pointsApart.require (!Number.hasRange literal.toList)
    digitPresent.require (Number.hasDigit (utf8 literal.toList))
    return Help.severalRadixPoints literal
  | .reservedIdentifier identifier => do
    identifierRaw.require (Identifier.isRaw identifier)
    identifierReserved.require (Identifier.isReservedRaw identifier)
    return Help.reservedIdentifier identifier
  | .unknownDigit radix literal offset => do
    literalHasRadix.require (radix.leads literal)
    let (before, digit) ← digitUnknown.found (charAt? literal.toList offset)
    digitUnknown.require (radix.isUnknownDigit digit)
    return Help.unknownDigit radix literal before digit
  | .unknownEscape grammar lexeme start stop => do
    lexemeLong.require (decide (4 ≤ byteLength lexeme.toList))
    escapeLong.require (decide (2 ≤ stop - start))
    let (before, escape) ← escapeHasBackslash.found (slice? lexeme.toList start stop)
    let rest ← escapeHasBackslash.found (Escape.behindBackslash? escape)
    escapeInvalid.require (!grammar.accepts (utf8 escape))
    return Help.unknownEscape grammar lexeme before rest
  | .unknownToken lexeme => do
    tokenNowhereStarts.require (!(utf8 lexeme.toList).any Token.canStart)
    return Help.unknownToken lexeme
  | .unterminatedComment comment => do
    commentOpens.require (Comment.opens (utf8 comment.toList))
    commentUnbalanced.require
      (decide (Comment.closings (utf8 comment.toList) < Comment.openings (utf8 comment.toList)))
    return Help.unterminatedComment comment
  | .unterminatedString literal => do
    literalUnterminated.require (!StringLiteral.isTerminated literal)
    return Help.unterminatedString literal

end Evidence

end LexFault
