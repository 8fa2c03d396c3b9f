/-!
# Units of a text

A text is read either as its characters or as the bytes of their UTF-8 form. What the checks of this
library ask of a unit is only how it compares with ASCII characters, so they are stated once, for
any type of units, and run on either reading.
-/

namespace LexFault

/-- A unit of a text, known by the number that stands for it. -/
class TextUnit (α : Type) where
  /-- The number that stands for a unit. -/
  code : α → Nat

namespace TextUnit

instance : TextUnit Char := ⟨Char.toNat⟩

instance : TextUnit UInt8 := ⟨UInt8.toNat⟩

variable {α : Type} [TextUnit α]

/-- Whether a unit is the ASCII character `c`. -/
def is (c : Char) (a : α) : Bool := code a == c.toNat

/-- Whether a unit is one of the ASCII characters from `lo` to `hi`. -/
def within (lo hi : Char) (a : α) : Bool := decide (lo.toNat ≤ code a) && decide (code a ≤ hi.toNat)

/-- Whether a unit is a decimal digit. -/
def isDigit (a : α) : Bool := within '0' '9' a

/-- Whether a unit is a hexadecimal digit, of either case. -/
def isHexDigit (a : α) : Bool := within '0' '9' a || within 'a' 'f' a || within 'A' 'F' a

theorem is_char (c d : Char) : is c d = decide (d = c) := by
  show (d.toNat == c.toNat) = _
  rw [Bool.eq_iff_iff, beq_iff_eq, decide_eq_true_eq, Char.toNat_inj]

theorem within_char (lo hi c : Char) : within lo hi c = (decide (lo ≤ c) && decide (c ≤ hi)) := rfl

theorem isDigit_char (c : Char) : isDigit c = c.isDigit := rfl

end TextUnit

end LexFault
