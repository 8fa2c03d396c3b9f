import LexFault.Text.Search
import LexFault.Text.Unit

/-!
# Number literals

Two faults of floating-point literals, an exponent without digits and more than one radix point, and
the radices that have fewer than ten digits.
-/

namespace LexFault

open TextUnit Text

namespace Number

variable {α : Type} [TextUnit α]

/-- Whether a unit announces an exponent. -/
def isMarker (a : α) : Bool := is 'e' a || is 'E' a

/-- Whether a unit is a sign. -/
def isSign (a : α) : Bool := is '+' a || is '-' a

/-- Whether a text is digits and points, an exponent marker, and at most a sign after it. -/
def lacksExponentDigits (t : List α) : Bool :=
  match t.dropWhile fun a => isDigit a || is '.' a with
  | [m] => isMarker m
  | [m, s] => isMarker m && isSign s
  | _ => false

/-- How many radix points a text holds. -/
def radixPoints (t : List α) : Nat := t.countP (is '.')

/-- Whether two points stand side by side. -/
def hasRange (t : List α) : Bool := decide (0 < countAdjacent (is '.') (is '.') t)

/-- Whether a decimal digit stands in a text. -/
def hasDigit (t : List α) : Bool := t.any isDigit

end Number

/-- The radices of integer literals that lack some of the decimal digits. -/
inductive Radix where
  | binary
  | octal
  deriving DecidableEq

namespace Radix

/-- How messages name the radix. -/
def name : Radix → String
  | .binary => "binary"
  | .octal => "octal"

/-- What a literal of the radix starts with. -/
def lead : Radix → String
  | .binary => "0b"
  | .octal => "0o"

/-- Whether a literal starts as those of the radix do. -/
def leads (r : Radix) (literal : String) : Bool := r.lead.toList.isPrefixOf literal.toList

/-- Whether a character is a decimal digit that the radix lacks. -/
def isUnknownDigit : Radix → Char → Bool
  | .binary => within '2' '9'
  | .octal => within '8' '9'

end Radix

end LexFault
