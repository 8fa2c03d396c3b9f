import LexFault.Diagnostic

/-!
# Evidence that holds

For each defect, which evidence `Evidence.examine` accepts and with which help text. The byte offsets
of a digit or an escape are turned into a split of the lexeme. `Diagnostic.make` adds the kind and the
span to the help text and refuses nothing else, so evidence is `Accepted` at one span just as it is at
any other.
-/

namespace LexFault

open Condition Text

namespace Evidence

variable {literal identifier lexeme comment help : String} {radix : Radix}
  {grammar : Escape.Grammar} {offset start stop : Nat}

theorem examine_missingExponentDigits :
    examine (.missingExponentDigits literal) = .ok help ↔
      (literal ≠ "" ∧ Number.lacksExponentDigits literal.toList = true) ∧
        Help.missingExponentDigits literal = help := by
  simp [examine, require_bind_eq_ok, pure, Except.pure, and_assoc]

theorem examine_severalRadixPoints :
    examine (.severalRadixPoints literal) = .ok help ↔
      (1 < Number.radixPoints literal.toList ∧ Number.hasRange literal.toList = false ∧
          Number.hasDigit (utf8 literal.toList) = true) ∧
        Help.severalRadixPoints literal = help := by
  simp [examine, require_bind_eq_ok, pure, Except.pure, and_assoc]

theorem examine_reservedIdentifier :
    examine (.reservedIdentifier identifier) = .ok help ↔
      (Identifier.isRaw identifier = true ∧ Identifier.isReservedRaw identifier = true) ∧
        Help.reservedIdentifier identifier = help := by
  simp [examine, require_bind_eq_ok, pure, Except.pure, and_assoc]

theorem examine_unknownDigit :
    examine (.unknownDigit radix literal offset) = .ok help ↔
      radix.leads literal = true ∧
        ∃ before digit after, literal.toList = before ++ digit :: after ∧
          byteLength before = offset ∧ radix.isUnknownDigit digit = true ∧
            Help.unknownDigit radix literal before digit = help := by
  simp only [examine, require_bind_eq_ok, found_bind_eq_ok, pure, Except.pure, Except.ok.injEq,
    Prod.exists, charAt?_eq_some_iff]
  constructor
  · intro h
    obtain ⟨hlead, before, digit, ⟨after, hliteral, hoffset⟩, hdigit, hhelp⟩ := h
    exact ⟨hlead, before, digit, after, hliteral, hoffset, hdigit, hhelp⟩
  · intro h
    obtain ⟨hlead, before, digit, after, hliteral, hoffset, hdigit, hhelp⟩ := h
    exact ⟨hlead, before, digit, ⟨after, hliteral, hoffset⟩, hdigit, hhelp⟩

theorem examine_unknownEscape :
    examine (.unknownEscape grammar lexeme start stop) = .ok help ↔
      (4 ≤ byteLength lexeme.toList ∧ 2 ≤ stop - start) ∧
        ∃ before rest after, lexeme.toList = before ++ '\\' :: rest ++ after ∧
          byteLength before = start ∧ byteLength (before ++ '\\' :: rest) = stop ∧
            grammar.accepts (utf8 ('\\' :: rest)) = false ∧
              Help.unknownEscape grammar lexeme before rest = help := by
  simp only [examine, require_bind_eq_ok, found_bind_eq_ok, pure, Except.pure, Except.ok.injEq,
    Prod.exists, slice?_eq_some_iff, Escape.behindBackslash?_eq_some_iff, decide_eq_true_eq,
    Bool.not_eq_true']
  constructor
  · intro h
    obtain ⟨hlexeme, hescape, before, escape, ⟨after, hsplit, hstart, hstop⟩, rest, rfl, hrejected,
      hhelp⟩ := h
    exact ⟨⟨hlexeme, hescape⟩, before, rest, after, hsplit, hstart, hstop, hrejected, hhelp⟩
  · intro h
    obtain ⟨⟨hlexeme, hescape⟩, before, rest, after, hsplit, hstart, hstop, hrejected, hhelp⟩ := h
    exact ⟨hlexeme, hescape, before, '\\' :: rest, ⟨after, hsplit, hstart, hstop⟩, rest, rfl,
      hrejected, hhelp⟩

theorem examine_unknownToken :
    examine (.unknownToken lexeme) = .ok help ↔
      (utf8 lexeme.toList).any Token.canStart = false ∧ Help.unknownToken lexeme = help := by
  simp [examine, require_bind_eq_ok, pure, Except.pure]

theorem examine_unterminatedComment :
    examine (.unterminatedComment comment) = .ok help ↔
      (Comment.opens (utf8 comment.toList) = true ∧
          Comment.closings (utf8 comment.toList) < Comment.openings (utf8 comment.toList)) ∧
        Help.unterminatedComment comment = help := by
  simp [examine, require_bind_eq_ok, pure, Except.pure, and_assoc]

theorem examine_unterminatedString :
    examine (.unterminatedString literal) = .ok help ↔
      StringLiteral.isTerminated literal = false ∧ Help.unterminatedString literal = help := by
  simp [examine, require_bind_eq_ok, pure, Except.pure]

end Evidence

theorem Diagnostic.make_eq_ok_iff {evidence : Evidence} {span : Span} {d : Diagnostic} :
    Diagnostic.make evidence span = .ok d ↔
      d.kind = evidence.kind ∧ d.span = span ∧ evidence.examine = .ok d.help := by
  obtain ⟨kind, span', help⟩ := d
  unfold Diagnostic.make
  cases evidence.examine with
  | error c => simp
  | ok help' =>
    simp only [Except.ok.injEq, mk.injEq]
    exact ⟨fun h => ⟨h.1.symm, h.2.1.symm, h.2.2⟩, fun h => ⟨h.1.symm, h.2.1.symm, h.2.2⟩⟩

/-- A diagnostic can be made from the evidence at a span. -/
def Evidence.Accepted (evidence : Evidence) (span : Span) : Prop :=
  ∃ d, Diagnostic.make evidence span = .ok d

theorem Evidence.accepted_iff {evidence : Evidence} {span : Span} :
    evidence.Accepted span ↔ ∃ help, evidence.examine = .ok help := by
  unfold Accepted
  simp only [Diagnostic.make_eq_ok_iff]
  constructor
  · intro h
    obtain ⟨d, -, -, hd⟩ := h
    exact ⟨d.help, hd⟩
  · intro h
    obtain ⟨help, hhelp⟩ := h
    exact ⟨⟨evidence.kind, span, help⟩, rfl, rfl, hhelp⟩

end LexFault
