import LexFault.Lexeme.Escape
import LexFault.Lexeme.Number

/-!
# Defects

The eight defects of a lexeme that can be reported. The kind of a diagnostic is a defect together
with what a reader needs to tell its forms apart: the radix of a digit, the grammar of an escape.
-/

namespace LexFault

/-- What can be wrong with a lexeme. -/
inductive Defect where
  | missingExponentDigits
  | severalRadixPoints
  | reservedIdentifier
  | unknownDigit
  | unknownEscape
  | unknownToken
  | unterminatedComment
  | unterminatedString
  deriving DecidableEq

/-- A defect with its radix or its grammar. -/
inductive Kind where
  | missingExponentDigits
  | severalRadixPoints
  | reservedIdentifier
  | unknownDigit (radix : Radix)
  | unknownEscape (grammar : Escape.Grammar)
  | unknownToken
  | unterminatedComment
  | unterminatedString
  deriving DecidableEq

namespace Kind

/-- The defect that a kind is a form of. -/
def defect : Kind → Defect
  | .missingExponentDigits => .missingExponentDigits
  | .severalRadixPoints => .severalRadixPoints
  | .reservedIdentifier => .reservedIdentifier
  | .unknownDigit _ => .unknownDigit
  | .unknownEscape _ => .unknownEscape
  | .unknownToken => .unknownToken
  | .unterminatedComment => .unterminatedComment
  | .unterminatedString => .unterminatedString

/-- The name of the radix or of the grammar, where a kind has one. -/
def detail? : Kind → Option String
  | .unknownDigit radix => some radix.name
  | .unknownEscape grammar => some grammar.name
  | _ => none

/-- The name of a kind. -/
def text : Kind → String
  | .missingExponentDigits => "FloatExponentMissingDigits"
  | .severalRadixPoints => "FloatMultipleRadixPoints"
  | .reservedIdentifier => "InvalidIdentifier"
  | .unknownDigit .binary => "UnknownDigit(Binary)"
  | .unknownDigit .octal => "UnknownDigit(Octal)"
  | .unknownEscape .ascii => "UnknownEscape(Ascii)"
  | .unknownEscape .byte => "UnknownEscape(Byte)"
  | .unknownEscape .unicode => "UnknownEscape(Unicode)"
  | .unknownToken => "UnknownToken"
  | .unterminatedComment => "UnterminatedComment"
  | .unterminatedString => "UnterminatedStringLiteral"

end Kind

end LexFault
