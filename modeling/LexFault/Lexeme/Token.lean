import LexFault.Text.Unit

/-!
# Starts of tokens

Which units can start a token: the printable ASCII characters except the blank, the tilde, the
backtick and the backslash.
-/

namespace LexFault.Token

open TextUnit

variable {α : Type} [TextUnit α]

/-- Whether a token can start with a unit. -/
def canStart (a : α) : Bool := within '!' '\x7d' a && !is '\x60' a && !is '\\' a

end LexFault.Token
