import LexFault.Lexeme.Comment
import LexFault.Lexeme.Escape
import LexFault.Lexeme.Number

/-!
# Help texts

The text that each defect is explained with. All echo the lexeme, a comment only its first line. Below
an unknown digit or escape stands a pointer: its indent counts the characters of the line that
the lexeme is echoed on, up to the faulty part, so that it points there if the lexeme has one line.
-/

namespace LexFault.Help

/-- A caret behind `indent` blanks, drawn out by `width` tildes. -/
def pointer (indent width : Nat) : String :=
  String.ofList (List.replicate indent ' ' ++ '^' :: List.replicate width '~')

def missingExponentDigits (literal : String) : String :=
  "floating-point exponent lacking digits: `" ++ literal ++ "`"

def severalRadixPoints (literal : String) : String :=
  "floating-point literal `" ++ literal ++ "` has " ++
    (Number.radixPoints literal.toList).repr ++ " radix-points: it must have at most one."

def reservedIdentifier (identifier : String) : String :=
  "`" ++ identifier ++ "` is not allowed as a raw identifier."

/-- What stands before the echo of a literal with an unknown digit. -/
def digitLead (radix : Radix) (digit : Char) : String :=
  "unknown digit `" ++ String.singleton digit ++ "` in " ++ radix.name ++ " literal `"

/-- An unknown digit of a literal, which stands after the characters `before`. -/
def unknownDigit (radix : Radix) (literal : String) (before : List Char) (digit : Char) : String :=
  digitLead radix digit ++ literal ++ "`\n" ++
    pointer ((digitLead radix digit).length + before.length) 0

/-- What stands before the echo of a lexeme with an unknown escape. -/
def escapeLead (grammar : Escape.Grammar) (escape : String) : String :=
  "unrecognised " ++ grammar.name ++ " escape '" ++ escape ++ "' in string literal `"

/-- An unknown escape of a lexeme, which stands after the characters `before` and is a backslash
followed by `rest`. -/
def unknownEscape (grammar : Escape.Grammar) (lexeme : String) (before rest : List Char) : String :=
  let lead := escapeLead grammar (String.ofList ('\\' :: rest))
  lead ++ lexeme ++ "`\n" ++ pointer (lead.length + before.length) rest.length

def unknownToken (lexeme : String) : String := "unknown token \"" ++ lexeme ++ "\""

def unterminatedComment (comment : String) : String :=
  "unterminated multi-line comment starting with:\n\t" ++
    String.ofList (Comment.firstLine comment.toList) ++
    "\n\t[note: multi-line comments in Rust may nest]"

def unterminatedString (literal : String) : String :=
  "unterminated string literal: `" ++ literal ++ "`"

end LexFault.Help
