import LexFault.Text.Search
import LexFault.Text.Unit

/-!
# Block comments

How a block comment starts, and how many delimiters of either kind stand in it. Delimiters are
counted wherever their two units stand side by side, so `/*/` holds one of each.
-/

namespace LexFault.Comment

open TextUnit Text

variable {α : Type} [TextUnit α]

/-- Whether a text starts with the opening delimiter. -/
def opens : List α → Bool
  | a :: b :: _ => is '/' a && is '*' b
  | _ => false

/-- How many opening delimiters a text holds. -/
def openings (t : List α) : Nat := countAdjacent (is '/') (is '*') t

/-- How many closing delimiters a text holds. -/
def closings (t : List α) : Nat := countAdjacent (is '*') (is '/') t

/-- The text before its first line feed. -/
def firstLine (t : List Char) : List Char := t.takeWhile (· ≠ '\n')

end LexFault.Comment
