import LexFault.Proofs.Help.Heading
import LexFault.Proofs.Text.Numeral

/-!
# Reading evidence back from a report

A report names its span before the help text, and the span ends at a colon, so both can be read off.
A help text announces one kind (`Kind.Announced.unique`). The echoed lexeme is arbitrary and may hold
anything that surrounds it. So it is found from the ends: it stands between two fixed texts, before a
numeral at the end, or above the pointer, whose indent and width give the place and the length of the
fault.

Of a comment only the part before its first line feed can be read back. All other evidence is what its
report shows (`Evidence.shown_eq_of_help_eq`).
-/

namespace LexFault

open Text

namespace Help

/-! ## One help text of each kind -/

theorem missingExponentDigits_inj {literal literal' : String}
    (h : missingExponentDigits literal = missingExponentDigits literal') : literal = literal' :=
  echo_inj h

theorem severalRadixPoints_inj {literal literal' : String}
    (h : severalRadixPoints literal = severalRadixPoints literal') : literal = literal' := by
  have hends : ∀ (s : String) (n : Nat), (s ++ "` has " ++ n.repr).toList =
      (s ++ "` has").toList ++ ' ' :: n.repr.toList := by
    intro s n
    have hgap : "` has ".toList = "` has".toList ++ [' '] := by decide
    rw [String.toList_append, String.toList_append, String.toList_append, hgap,
      ← List.append_assoc, ← List.append_cons]
  have hcount := congrArg String.toList ((String.append_left_inj _).1 h)
  rw [hends, hends] at hcount
  obtain ⟨htext, -⟩ := append_repr_inj rfl rfl hcount
  exact echo_inj (String.toList_inj.1 htext)

theorem reservedIdentifier_inj {identifier identifier' : String}
    (h : reservedIdentifier identifier = reservedIdentifier identifier') :
    identifier = identifier' := echo_inj h

theorem unknownToken_inj {lexeme lexeme' : String} (h : unknownToken lexeme = unknownToken lexeme') :
    lexeme = lexeme' := echo_inj h

theorem unterminatedComment_inj {comment comment' : String}
    (h : unterminatedComment comment = unterminatedComment comment') :
    comment.toList.takeWhile (· ≠ '\n') = comment'.toList.takeWhile (· ≠ '\n') :=
  String.ofList_inj.1 (echo_inj h)

theorem unterminatedString_inj {literal literal' : String}
    (h : unterminatedString literal = unterminatedString literal') : literal = literal' :=
  echo_inj h

theorem pointer_inj {indent indent' width width' : Nat}
    (h : (pointer indent width).toList = (pointer indent' width').toList) :
    indent = indent' ∧ width = width' := by
  rw [toList_pointer, toList_pointer] at h
  have hblank : ∀ n, ∀ c ∈ List.replicate n ' ', (c == '^') = false := by
    intro n c hc
    rw [List.eq_of_mem_replicate hc]
    rfl
  obtain ⟨hindent, -, hwidth⟩ :=
    split_first_unique h (p := (· == '^')) rfl rfl (hblank indent) (hblank indent')
  exact ⟨by simpa using congrArg List.length hindent, by simpa using congrArg List.length hwidth⟩

theorem newline_not_mem_pointer (indent width : Nat) :
    ∀ c ∈ (pointer indent width).toList, (c == '\n') = false := by
  intro c hc
  rw [toList_pointer, List.mem_append, List.mem_cons] at hc
  rcases hc with hc | hc | hc
  · rw [List.eq_of_mem_replicate hc]
    rfl
  · rw [hc]
    rfl
  · rw [List.eq_of_mem_replicate hc]
    rfl

theorem pointed_inj {lead lead' text text' : String} {before before' width width' : Nat}
    (h : pointed lead text before width = pointed lead' text' before' width') :
    lead.toList ++ text.toList = lead'.toList ++ text'.toList ∧
      lead.length + before = lead'.length + before' ∧ width = width' := by
  have hlist := congrArg String.toList h
  rw [toList_pointed, toList_pointed, ← toList_pointer, ← toList_pointer] at hlist
  obtain ⟨hecho, -, hpointer⟩ := split_last_unique hlist (p := (· == '\n')) rfl rfl
    (newline_not_mem_pointer _ _) (newline_not_mem_pointer _ _)
  exact ⟨List.append_cancel_right hecho, pointer_inj hpointer⟩

theorem unknownDigit_inj {radix radix' : Radix} {literal literal' : String}
    {before before' : List Char} {digit digit' : Char}
    (h : unknownDigit radix literal before digit = unknownDigit radix' literal' before' digit') :
    radix = radix' ∧ literal = literal' ∧ digit = digit' ∧ before.length = before'.length := by
  rw [unknownDigit_eq_pointed, unknownDigit_eq_pointed] at h
  obtain ⟨hecho, hplace, -⟩ := pointed_inj h
  obtain ⟨rfl, rfl, hliteral⟩ := digitLead_append_inj hecho
  exact ⟨rfl, String.toList_inj.1 hliteral, rfl, Nat.add_left_cancel hplace⟩

theorem unknownEscape_inj {grammar grammar' : Escape.Grammar} {lexeme lexeme' : String}
    {before before' rest rest' : List Char}
    (h : unknownEscape grammar lexeme before rest =
      unknownEscape grammar' lexeme' before' rest') :
    grammar = grammar' ∧ lexeme = lexeme' ∧ rest = rest' ∧ before.length = before'.length := by
  rw [unknownEscape_eq_pointed, unknownEscape_eq_pointed] at h
  obtain ⟨hecho, hplace, hwidth⟩ := pointed_inj h
  obtain ⟨rfl, hescape⟩ := escapeLead_append_inj hecho
  -- the escape is echoed as it is, but the pointer is as wide as the escape
  obtain ⟨hrest, hlexeme⟩ := List.append_inj hescape
    (by simpa only [String.toList_ofList, List.length_cons, Nat.add_right_cancel_iff] using hwidth)
  rw [String.toList_ofList, String.toList_ofList] at hrest
  obtain rfl : rest = rest' := (List.cons.inj hrest).2
  exact ⟨rfl, String.toList_inj.1 (List.append_cancel_left hlexeme), rfl,
    Nat.add_left_cancel hplace⟩

end Help

/-! ## From a help text to its evidence -/

namespace Evidence

variable {e e' : Evidence} {help help' : String}

/-- The evidence as far as a help text shows it: of a comment, what stands before its first line
feed. -/
def shown : Evidence → Evidence
  | .unterminatedComment comment =>
    .unterminatedComment (String.ofList (comment.toList.takeWhile (· ≠ '\n')))
  | e => e

theorem shown_eq_of_help_eq (h : e.examine = .ok help) (h' : e'.examine = .ok help) :
    e.shown = e'.shown := by
  have hkind : e.kind = e'.kind := (announced_of_examine h).unique (announced_of_examine h')
  -- of two kinds only equal ones are left
  cases e <;> cases e' <;> simp only [kind, reduceCtorEq] at hkind
  case missingExponentDigits.missingExponentDigits =>
    rw [Help.missingExponentDigits_inj ((examine_missingExponentDigits.1 h).2.trans
      (examine_missingExponentDigits.1 h').2.symm)]
  case severalRadixPoints.severalRadixPoints =>
    rw [Help.severalRadixPoints_inj ((examine_severalRadixPoints.1 h).2.trans
      (examine_severalRadixPoints.1 h').2.symm)]
  case reservedIdentifier.reservedIdentifier =>
    rw [Help.reservedIdentifier_inj ((examine_reservedIdentifier.1 h).2.trans
      (examine_reservedIdentifier.1 h').2.symm)]
  case unknownDigit.unknownDigit =>
    obtain ⟨-, before, digit, after, hliteral, rfl, -, hhelp⟩ := examine_unknownDigit.1 h
    obtain ⟨-, before', digit', after', hliteral', rfl, -, hhelp'⟩ := examine_unknownDigit.1 h'
    obtain ⟨rfl, rfl, rfl, hlength⟩ := Help.unknownDigit_inj (hhelp.trans hhelp'.symm)
    rw [(List.append_inj (hliteral.symm.trans hliteral') hlength).1]
  case unknownEscape.unknownEscape =>
    obtain ⟨-, before, rest, after, hlexeme, rfl, rfl, -, hhelp⟩ := examine_unknownEscape.1 h
    obtain ⟨-, before', rest', after', hlexeme', rfl, rfl, -, hhelp'⟩ :=
      examine_unknownEscape.1 h'
    obtain ⟨rfl, rfl, rfl, hlength⟩ := Help.unknownEscape_inj (hhelp.trans hhelp'.symm)
    rw [hlexeme, List.append_assoc, List.append_assoc] at hlexeme'
    rw [(List.append_inj hlexeme' hlength).1]
  case unknownToken.unknownToken =>
    rw [Help.unknownToken_inj ((examine_unknownToken.1 h).2.trans
      (examine_unknownToken.1 h').2.symm)]
  case unterminatedComment.unterminatedComment =>
    rw [shown, shown, Help.unterminatedComment_inj ((examine_unterminatedComment.1 h).2.trans
      (examine_unterminatedComment.1 h').2.symm)]
  case unterminatedString.unterminatedString =>
    rw [Help.unterminatedString_inj ((examine_unterminatedString.1 h).2.trans
      (examine_unterminatedString.1 h').2.symm)]

theorem help_eq_of_shown_eq (h : e.examine = .ok help) (h' : e'.examine = .ok help')
    (hshown : e.shown = e'.shown) : help = help' := by
  cases e <;> cases e' <;> simp only [shown, reduceCtorEq] at hshown
  case unterminatedComment.unterminatedComment comment comment' =>
    obtain ⟨-, hhelp⟩ := examine_unterminatedComment.1 h
    obtain ⟨-, hhelp'⟩ := examine_unterminatedComment.1 h'
    have hline : String.ofList (Comment.firstLine comment.toList) =
        String.ofList (Comment.firstLine comment'.toList) := unterminatedComment.inj hshown
    rw [← hhelp, ← hhelp']
    unfold Help.unterminatedComment
    rw [hline]
  all_goals
    rw [hshown] at h
    exact Except.ok.inj (h.symm.trans h')

end Evidence

/-! ## Reports -/

namespace Diagnostic

theorem report_eq_iff {d d' : Diagnostic} :
    d.report = d'.report ↔ d.span = d'.span ∧ d.help = d'.help := by
  constructor
  · intro h
    have hlist := congrArg String.toList h
    simp only [report, String.toList_append, List.append_assoc] at hlist
    have hcolon : ": ".toList = ':' :: [' '] := by decide
    rw [hcolon, List.cons_append, List.cons_append] at hlist
    obtain ⟨hspan, -, hhelp⟩ := Span.text_append_inj rfl rfl
      (List.append_cancel_left (List.append_cancel_left hlist))
    exact ⟨hspan, String.toList_inj.1 (List.cons.inj hhelp).2⟩
  · intro h
    rw [report, report, h.1, h.2]

/-- A report determines its diagnostic, and a diagnostic its span and all the evidence that a help
text shows. The help text alone determines the kind: it is the one kind that the text announces. -/
theorem report_determines_evidence {e e' : Evidence} {span span' : Span} {d d' : Diagnostic}
    (h : make e span = .ok d) (h' : make e' span' = .ok d') :
    (d.report = d'.report ↔ d = d') ∧ (d = d' ↔ span = span' ∧ e.shown = e'.shown) ∧
      (d.help = d'.help → d.kind = d'.kind) ∧
        ∀ kind : Kind, kind.Announced d.help ↔ kind = d.kind := by
  obtain ⟨-, hspan, hhelp⟩ := make_eq_ok_iff.1 h
  obtain ⟨-, hspan', hhelp'⟩ := make_eq_ok_iff.1 h'
  have hshown : d.help = d'.help ↔ e.shown = e'.shown :=
    ⟨fun heq => Evidence.shown_eq_of_help_eq hhelp (heq ▸ hhelp'),
      Evidence.help_eq_of_shown_eq hhelp hhelp'⟩
  have hkinds : d.help = d'.help → d.kind = d'.kind := by
    intro heq
    exact (announced_iff h' d.kind).1 (heq ▸ (announced_iff h d.kind).2 rfl)
  have heq : d = d' ↔ d.span = d'.span ∧ d.help = d'.help := by
    constructor
    · intro hd
      rw [hd]
      exact ⟨rfl, rfl⟩
    · intro hd
      cases d
      cases d'
      exact mk.injEq .. ▸ ⟨hkinds hd.2, hd.1, hd.2⟩
  refine ⟨report_eq_iff.trans heq.symm, ?_, hkinds, announced_iff h⟩
  rw [heq, hspan, hspan', hshown]

/-- Two comments that differ behind their first line feeds only have one report, and one that differs
from them before has another. -/
theorem report_determines_first_line :
    ∃ (span : Span) (d d' d'' : Diagnostic),
      make (.unterminatedComment "/*a\nb") span = .ok d ∧
        make (.unterminatedComment "/*a\nc") span = .ok d' ∧
        make (.unterminatedComment "/*b") span = .ok d'' ∧
          d.report = d'.report ∧ d.report ≠ d''.report ∧ Kind.unterminatedComment.Announced d.help := by
  have haccepted : ∀ comment : String, Comment.opens (utf8 comment.toList) = true →
      Comment.closings (utf8 comment.toList) < Comment.openings (utf8 comment.toList) →
        (Evidence.unterminatedComment comment).Accepted ⟨.origin, .origin, by decide⟩ := by
    intro comment hopens hunbalanced
    exact Evidence.accepted_iff.2
      ⟨_, Evidence.examine_unterminatedComment.2 ⟨⟨hopens, hunbalanced⟩, rfl⟩⟩
  obtain ⟨d, hd⟩ := haccepted "/*a\nb" (by decide) (by decide)
  obtain ⟨d', hd'⟩ := haccepted "/*a\nc" (by decide) (by decide)
  obtain ⟨d'', hd''⟩ := haccepted "/*b" (by decide) (by decide)
  obtain ⟨hreport, hequal, -, hkind⟩ := report_determines_evidence hd hd'
  obtain ⟨hreport', hequal', -, -⟩ := report_determines_evidence hd hd''
  refine ⟨_, d, d', d'', hd, hd', hd'', ?_, ?_, (hkind _).2 ?_⟩
  · exact hreport.2 (hequal.2 ⟨rfl, by decide⟩)
  · intro h
    exact absurd (hequal'.1 (hreport'.1 h)).2 (by decide)
  · exact (make_eq_ok_iff.1 hd).1.symm

end Diagnostic

end LexFault
