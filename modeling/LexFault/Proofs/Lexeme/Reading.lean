import LexFault.Lexeme.Number
import LexFault.Lexeme.Token
import LexFault.Proofs.Lexeme.Escape
import LexFault.Proofs.Lexeme.Nesting
import LexFault.Proofs.Lexeme.StringEnd

/-!
# One answer in either reading

The checks on a lexeme read its bytes, and every one of them answers as it would on the characters
(`readings_agree`). For string literals that goes down to the parts of the check: the quotes split the
bytes where they split the characters, and the hashes and backslashes at an end are as many.
-/

namespace LexFault

open Text TextUnit

theorem Token.agree_canStart : Agree Token.canStart Token.canStart :=
  ((agree_within (by decide)).and_not (agree_is (by decide))).and_not (agree_is (by decide))

theorem Number.agree_isDigit : Agree isDigit isDigit := agree_within (by decide)

/-- What the checks find in the bytes of a text they find in its characters. -/
theorem readings_agree (t : String) :
    (StringLiteral.isTerminated t = StringLiteral.isClosed t.toList ∧
        (breakFirst (is '"') (utf8 t.toList) =
            (breakFirst (is '"') t.toList).map fun (s, u) => (utf8 s, utf8 u)) ∧
          (breakLast (is '"') (utf8 t.toList) =
              (breakLast (is '"') t.toList).map fun (s, u) => (utf8 s, utf8 u)) ∧
            StringLiteral.rawHashes? (utf8 t.toList) = StringLiteral.rawHashes? t.toList ∧
              (∀ n, ((utf8 t.toList).length == n && (utf8 t.toList).all (is '#')) =
                  (t.toList.length == n && t.toList.all (is '#'))) ∧
                countTrailing (is '\\') (utf8 t.toList) = countTrailing (is '\\') t.toList) ∧
      (Escape.isAscii (utf8 t.toList) = Escape.isAscii t.toList ∧
          Escape.isByte (utf8 t.toList) = Escape.isByte t.toList ∧
            Escape.isUnicode (utf8 t.toList) = Escape.isUnicode t.toList) ∧
        (!(utf8 t.toList).any Token.canStart) = (!t.toList.any Token.canStart) ∧
          Number.hasDigit (utf8 t.toList) = Number.hasDigit t.toList ∧
            Comment.openings (utf8 t.toList) = Comment.openings t.toList ∧
              Comment.closings (utf8 t.toList) = Comment.closings t.toList := by
  refine ⟨⟨?_, ?_, ?_, ?_, ?_, ?_⟩, ⟨?_, ?_, ?_⟩, ?_, ?_, ?_, ?_⟩
  · exact StringLiteral.isClosed_utf8 t.toList
  · exact StringLiteral.agree_quote.breakFirst_utf8 t.toList
  · exact StringLiteral.agree_quote.breakLast_utf8 t.toList
  · exact StringLiteral.rawHashes?_utf8 t.toList
  · exact fun n => StringLiteral.hashes_utf8 n t.toList
  · exact StringLiteral.agree_backslash.countTrailing_utf8 t.toList
  · exact Escape.isAscii_utf8 t.toList
  · exact Escape.isByte_utf8 t.toList
  · exact Escape.isUnicode_utf8 t.toList
  · rw [Token.agree_canStart.any_utf8]
  · exact Number.agree_isDigit.any_utf8 t.toList
  · exact Comment.openings_utf8 t.toList
  · exact Comment.closings_utf8 t.toList

end LexFault
