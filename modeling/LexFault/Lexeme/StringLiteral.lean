import LexFault.Text.Bytes
import LexFault.Text.Search
import LexFault.Text.Unit

/-!
# String literals

Whether a string literal is closed at its very end. The first double quote opens a literal and the
last one after it closes it; what stands before the opening quote decides how. A lead that ends in
`r` and some hashes makes the literal raw: the closing quote is followed by just as many hashes.
Any other literal ends with its closing quote, which no backslash may escape.
-/

namespace LexFault.StringLiteral

open TextUnit Text

variable {α : Type} [TextUnit α]

/-- The hashes at the end of the lead of a raw literal; nothing if the lead does not make it raw. -/
def rawHashes? (lead : List α) : Option Nat :=
  match lead.reverse.dropWhile (is '#') with
  | a :: _ => if is 'r' a then some (countTrailing (is '#') lead) else none
  | [] => none

/-- Whether a quote behind `body` would be escaped: an odd run of backslashes ends the body. -/
def escapesNext (body : List α) : Bool := countTrailing (is '\\') body % 2 == 1

/-- Whether a literal with this lead and body may end with `tail` behind its closing quote. -/
def closedBy (lead body tail : List α) : Bool :=
  match rawHashes? lead with
  | some n => tail.length == n && tail.all (is '#')
  | none => tail.isEmpty && !escapesNext body

/-- Whether a text is a string literal that is closed at its end. -/
def isClosed (t : List α) : Bool :=
  match breakFirst (is '"') t with
  | none => false
  | some (lead, rest) =>
    match breakLast (is '"') rest with
    | none => false
    | some (body, tail) => closedBy lead body tail

/-- Whether a string literal, read as bytes, is correctly delimited. -/
def isTerminated (literal : String) : Bool := isClosed (utf8 literal.toList)

end LexFault.StringLiteral
