import LexFault.Proofs.Help.Pointer
import LexFault.Proofs.Text.PrefixFree

/-!
# What a help text announces

A help text starts with words for the kind of diagnostic that it explains, and names the radix of a
digit or the grammar of an escape before it echoes the lexeme. `Kind.Announced` writes these words out,
apart from the functions that put the help texts together. No text announces two kinds, not even if a
digit or an escape is echoed among the words (`Kind.Announced.unique`), so the kind of a diagnostic can
be read off from its help text (`Diagnostic.announced_iff`).
-/

namespace LexFault

open Text

/-! ## Names of radices and grammars -/

/-- The word for a radix. -/
inductive Radix.Called : Radix → String → Prop
  | binary : Called .binary "binary"
  | octal : Called .octal "octal"

theorem Radix.called_iff {radix : Radix} {word : String} :
    radix.Called word ↔ word = radix.name := by
  constructor
  · intro h
    cases h <;> rfl
  · rintro rfl
    cases radix with
    | binary => exact .binary
    | octal => exact .octal

theorem Radix.prefixFree_name : PrefixFree Radix.name := by
  intro r r'
  cases r <;> cases r' <;> decide

/-- The word for a grammar of escapes. -/
inductive Escape.Grammar.Called : Escape.Grammar → String → Prop
  | ascii : Called .ascii "ASCII"
  | byte : Called .byte "byte"
  | unicode : Called .unicode "Unicode"

theorem Escape.Grammar.called_iff {grammar : Escape.Grammar} {word : String} :
    grammar.Called word ↔ word = grammar.name := by
  constructor
  · intro h
    cases h <;> rfl
  · rintro rfl
    cases grammar with
    | ascii => exact .ascii
    | byte => exact .byte
    | unicode => exact .unicode

theorem Escape.Grammar.prefixFree_name : PrefixFree Escape.Grammar.name := by
  intro g g'
  cases g <;> cases g' <;> decide

/-! ## Announcing a kind -/

/-- A text starts with the words for a kind. -/
inductive Kind.Announced : Kind → String → Prop
  | missingExponentDigits {rest : String} :
    Announced .missingExponentDigits ("floating-point exponent lacking digits: `" ++ rest)
  | severalRadixPoints {rest : String} :
    Announced .severalRadixPoints ("floating-point literal `" ++ rest)
  | reservedIdentifier {rest : String} : Announced .reservedIdentifier ("`" ++ rest)
  | unknownDigit {radix : Radix} {word rest : String} {digit : Char} : radix.Called word →
    Announced (.unknownDigit radix)
      ("unknown digit `" ++ String.singleton digit ++ "` in " ++ word ++ " literal `" ++ rest)
  | unknownEscape {grammar : Escape.Grammar} {word escape rest : String} : grammar.Called word →
    Announced (.unknownEscape grammar)
      ("unrecognised " ++ word ++ " escape '" ++ escape ++ "' in string literal `" ++ rest)
  | unknownToken {rest : String} : Announced .unknownToken ("unknown token \"" ++ rest)
  | unterminatedComment {rest : String} :
    Announced .unterminatedComment ("unterminated multi-line comment starting with:\n\t" ++ rest)
  | unterminatedString {rest : String} :
    Announced .unterminatedString ("unterminated string literal: `" ++ rest)

theorem Evidence.announced_of_examine {e : Evidence} {help : String} (h : e.examine = .ok help) :
    e.kind.Announced help := by
  cases e with
  | missingExponentDigits literal =>
    obtain ⟨-, rfl⟩ := examine_missingExponentDigits.1 h
    unfold Help.missingExponentDigits
    rw [String.append_assoc]
    exact .missingExponentDigits
  | severalRadixPoints literal =>
    obtain ⟨-, rfl⟩ := examine_severalRadixPoints.1 h
    unfold Help.severalRadixPoints
    rw [String.append_assoc, String.append_assoc, String.append_assoc]
    exact .severalRadixPoints
  | reservedIdentifier identifier =>
    obtain ⟨-, rfl⟩ := examine_reservedIdentifier.1 h
    unfold Help.reservedIdentifier
    rw [String.append_assoc]
    exact .reservedIdentifier
  | unknownDigit radix literal offset =>
    obtain ⟨-, before, digit, -, -, -, -, rfl⟩ := examine_unknownDigit.1 h
    unfold Help.unknownDigit
    rw [String.append_assoc, String.append_assoc]
    exact .unknownDigit (Radix.called_iff.2 rfl)
  | unknownEscape grammar lexeme start stop =>
    obtain ⟨-, before, rest, -, -, -, -, -, rfl⟩ := examine_unknownEscape.1 h
    unfold Help.unknownEscape
    rw [String.append_assoc, String.append_assoc]
    exact .unknownEscape (Escape.Grammar.called_iff.2 rfl)
  | unknownToken lexeme =>
    obtain ⟨-, rfl⟩ := examine_unknownToken.1 h
    unfold Help.unknownToken
    rw [String.append_assoc]
    exact .unknownToken
  | unterminatedComment comment =>
    obtain ⟨-, rfl⟩ := examine_unterminatedComment.1 h
    unfold Help.unterminatedComment
    rw [String.append_assoc]
    exact .unterminatedComment
  | unterminatedString literal =>
    obtain ⟨-, rfl⟩ := examine_unterminatedString.1 h
    unfold Help.unterminatedString
    rw [String.append_assoc]
    exact .unterminatedString

/-! ## One kind at a time -/

/-- What the words for a defect start with, up to where they differ from those for any other. -/
def Defect.heading : Defect → String
  | .missingExponentDigits => "floating-point exponent"
  | .severalRadixPoints => "floating-point literal"
  | .reservedIdentifier => "`"
  | .unknownDigit => "unknown digit"
  | .unknownEscape => "unrecognised"
  | .unknownToken => "unknown token"
  | .unterminatedComment => "unterminated multi-line comment"
  | .unterminatedString => "unterminated string literal"

theorem Defect.prefixFree_heading : PrefixFree heading := by
  intro defect defect'
  cases defect <;> cases defect' <;> decide

theorem prefix_toList_append {s : List Char} {lead tail : String} (h : s <+: lead.toList) :
    s <+: (lead ++ tail).toList := by
  rw [String.toList_append]
  exact h.trans (List.prefix_append _ _)

namespace Help

variable {radix radix' : Radix} {grammar grammar' : Escape.Grammar} {digit digit' : Char}
  {escape escape' : String} {u u' : List Char}

theorem digitLead_append_inj
    (h : (digitLead radix digit).toList ++ u = (digitLead radix' digit').toList ++ u') :
    radix = radix' ∧ digit = digit' ∧ u = u' := by
  simp only [toList_digitLead, List.append_assoc, List.cons_append] at h
  obtain ⟨hdigit, hname⟩ := List.cons.inj (List.append_cancel_left h)
  obtain ⟨hradix, hrest⟩ := Radix.prefixFree_name.append_inj (List.append_cancel_left hname)
  exact ⟨hradix, hdigit, List.append_cancel_left hrest⟩

/-- Where the echo of an escape ends is not settled, since it may hold the words behind it. -/
theorem escapeLead_append_inj
    (h : (escapeLead grammar escape).toList ++ u = (escapeLead grammar' escape').toList ++ u') :
    grammar = grammar' ∧ escape.toList ++ ("' in string literal `".toList ++ u) =
      escape'.toList ++ ("' in string literal `".toList ++ u') := by
  simp only [toList_escapeLead, List.append_assoc] at h
  obtain ⟨hgrammar, hescape⟩ :=
    Escape.Grammar.prefixFree_name.append_inj (List.append_cancel_left h)
  exact ⟨hgrammar, List.append_cancel_left hescape⟩

end Help

namespace Kind

variable {kind kind' : Kind} {radix radix' : Radix} {grammar grammar' : Escape.Grammar}
  {help : String}

theorem announced_unknownDigit_iff :
    Announced (.unknownDigit radix) help ↔
      ∃ digit rest, help = Help.digitLead radix digit ++ rest := by
  constructor
  · intro h
    cases h with
    | unknownDigit hword =>
      rw [Radix.called_iff.1 hword]
      exact ⟨_, _, rfl⟩
  · rintro ⟨digit, rest, rfl⟩
    exact .unknownDigit (Radix.called_iff.2 rfl)

theorem announced_unknownEscape_iff :
    Announced (.unknownEscape grammar) help ↔
      ∃ escape rest, help = Help.escapeLead grammar escape ++ rest := by
  constructor
  · intro h
    cases h with
    | unknownEscape hword =>
      rw [Escape.Grammar.called_iff.1 hword]
      exact ⟨_, _, rfl⟩
  · rintro ⟨escape, rest, rfl⟩
    exact .unknownEscape (Escape.Grammar.called_iff.2 rfl)

namespace Announced

theorem heading_prefix (h : kind.Announced help) : kind.defect.heading.toList <+: help.toList := by
  cases h with
  | unknownDigit hword =>
    have hheading : "unknown digit".toList <+: "unknown digit `".toList := by decide
    exact prefix_toList_append (prefix_toList_append (prefix_toList_append (prefix_toList_append
      (prefix_toList_append hheading))))
  | unknownEscape hword =>
    have hheading : "unrecognised".toList <+: "unrecognised ".toList := by decide
    exact prefix_toList_append (prefix_toList_append (prefix_toList_append (prefix_toList_append
      (prefix_toList_append hheading))))
  | _ => exact prefix_toList_append (by decide)

theorem defect_eq (h : kind.Announced help) (h' : kind'.Announced help) :
    kind.defect = kind'.defect :=
  Defect.prefixFree_heading.eq_of_prefix h.heading_prefix h'.heading_prefix

theorem radix_eq (h : Announced (.unknownDigit radix) help)
    (h' : Announced (.unknownDigit radix') help) : radix = radix' := by
  obtain ⟨digit, rest, rfl⟩ := announced_unknownDigit_iff.1 h
  obtain ⟨digit', rest', hhelp⟩ := announced_unknownDigit_iff.1 h'
  have hlist := congrArg String.toList hhelp
  rw [String.toList_append, String.toList_append] at hlist
  exact (Help.digitLead_append_inj hlist).1

theorem grammar_eq (h : Announced (.unknownEscape grammar) help)
    (h' : Announced (.unknownEscape grammar') help) : grammar = grammar' := by
  obtain ⟨escape, rest, rfl⟩ := announced_unknownEscape_iff.1 h
  obtain ⟨escape', rest', hhelp⟩ := announced_unknownEscape_iff.1 h'
  have hlist := congrArg String.toList hhelp
  rw [String.toList_append, String.toList_append] at hlist
  exact (Help.escapeLead_append_inj hlist).1

/-- No text announces two kinds. -/
theorem unique (h : kind.Announced help) (h' : kind'.Announced help) : kind = kind' := by
  have hdefect := h.defect_eq h'
  -- of two defects only equal ones are left
  cases kind <;> cases kind' <;> simp only [defect, reduceCtorEq] at hdefect
  case unknownDigit.unknownDigit => rw [h.radix_eq h']
  case unknownEscape.unknownEscape => rw [h.grammar_eq h']
  all_goals rfl

end Announced

end Kind

/-- A diagnostic is of the kind that its help text announces. -/
theorem Diagnostic.announced_iff {evidence : Evidence} {span : Span} {d : Diagnostic}
    (h : make evidence span = .ok d) (kind : Kind) : kind.Announced d.help ↔ kind = d.kind := by
  obtain ⟨hkind, -, hhelp⟩ := make_eq_ok_iff.1 h
  have hannounced : d.kind.Announced d.help := hkind ▸ Evidence.announced_of_examine hhelp
  constructor
  · intro hother
    exact hother.unique hannounced
  · rintro rfl
    exact hannounced

end LexFault
