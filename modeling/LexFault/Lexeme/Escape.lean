import LexFault.Text.Bytes
import LexFault.Text.Unit

/-!
# Escapes

The escapes of character and string literals, each in full, from its backslash on. Three grammars
share the escapes of one letter and differ in the rest: two digits after `x`, up to 7f or up to ff,
or up to six digits in braces after `u`.
-/

namespace LexFault.Escape

open TextUnit Text

variable {α : Type} [TextUnit α]

/-- Whether a unit may stand alone behind a backslash. -/
def isSimple (a : α) : Bool := is 'n' a || is 'r' a || is 't' a || is '\\' a || is '0' a

/-- An escape of one letter, or a value of two hexadecimal digits that starts with 0 to 7. -/
def isAscii : List α → Bool
  | [b, c] => is '\\' b && isSimple c
  | [b, x, high, low] => is '\\' b && is 'x' x && within '0' '7' high && isHexDigit low
  | _ => false

/-- An escape of one letter, or a value of any two hexadecimal digits. -/
def isByte : List α → Bool
  | [b, c] => is '\\' b && isSimple c
  | [b, x, high, low] => is '\\' b && is 'x' x && isHexDigit high && isHexDigit low
  | _ => false

/-- Whether a text is one to six hexadecimal digits and a closing brace. -/
def isBracedRest (t : List α) : Bool :=
  match t.dropWhile isHexDigit with
  | [c] => is '}' c && decide (2 ≤ t.length) && decide (t.length ≤ 7)
  | _ => false

/-- A value of one to six hexadecimal digits in braces. -/
def isUnicode : List α → Bool
  | b :: u :: o :: rest => is '\\' b && is 'u' u && is '{' o && isBracedRest rest
  | _ => false

/-- What follows the backslash of an escape. -/
def behindBackslash? : List Char → Option (List Char)
  | '\\' :: rest => some rest
  | _ => none

theorem behindBackslash?_eq_some_iff {e rest : List Char} :
    behindBackslash? e = some rest ↔ e = '\\' :: rest := by
  unfold behindBackslash?
  split <;> simp_all

/-- The grammars that a literal's escapes may follow. -/
inductive Grammar where
  | ascii
  | byte
  | unicode
  deriving DecidableEq

namespace Grammar

def all : List Grammar := [.ascii, .byte, .unicode]

/-- How messages name the grammar. -/
def name : Grammar → String
  | .ascii => "ASCII"
  | .byte => "byte"
  | .unicode => "Unicode"

/-- Whether a text is an escape of the grammar. -/
def accepts : Grammar → List α → Bool
  | .ascii => isAscii
  | .byte => isByte
  | .unicode => isUnicode

/-- Whether a text, read as bytes, is an escape of the grammar. -/
def isValid (g : Grammar) (escape : String) : Bool := g.accepts (utf8 escape.toList)

end Grammar

/-- The grammars that a text is an escape of. -/
def grammarsOf (escape : String) : List Grammar := Grammar.all.filter fun g => g.isValid escape

end LexFault.Escape
