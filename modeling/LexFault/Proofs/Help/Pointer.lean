import LexFault.Proofs.Evidence

/-!
# The pointer below a digit or an escape

The help texts on an unknown digit and an unknown escape have one layout, `pointed`: a lead, the echo
of the lexeme between backticks, and on a line of its own the pointer. Its indent is the number of
characters in front of the fault, counted from the start of the whole message (`PointsAt.at_place`).
That is the column of the fault just if no line ends before it, and the pointer's line is the one below
the fault just if no line ends behind it: together, if the lexeme has one line (`help_points_at_fault`).
-/

namespace LexFault.Help

open Text

/-! ## Lines and columns -/

/-- The line that a place of a text is on, counted from 0. -/
def lineAt (t : List Char) (i : Nat) : Nat := (t.take i).count '\n'

/-- The column of a place: how many characters its line has in front of it. -/
def columnAt (t : List Char) (i : Nat) : Nat := countTrailing (· != '\n') (t.take i)

/-- The second place is right below the first one. -/
def Beneath (t : List Char) (i j : Nat) : Prop :=
  lineAt t j = lineAt t i + 1 ∧ columnAt t j = columnAt t i

theorem lineAt_length (s u : List Char) : lineAt (s ++ u) s.length = s.count '\n' := by
  rw [lineAt, List.take_left]

theorem columnAt_length (s u : List Char) :
    columnAt (s ++ u) s.length = countTrailing (· != '\n') s := by
  rw [columnAt, List.take_left]

theorem columnAt_eq_length_iff (s u : List Char) :
    columnAt (s ++ u) s.length = s.length ↔ '\n' ∉ s := by
  rw [columnAt_length, countTrailing_eq_length_iff]
  simp only [bne_iff_ne]
  exact ⟨fun h hmem => h _ hmem rfl, fun h c hc heq => h (heq ▸ hc)⟩

/-- A mark as deep in the last line as a place is in the whole text is right below this place just if
no line ends before the last one. -/
theorem beneath_iff {t s u v : List Char}
    (ht : t = s ++ u ++ '\n' :: (List.replicate s.length ' ' ++ v)) :
    Beneath t s.length ((s ++ u).length + 1 + s.length) ↔ '\n' ∉ s ++ u := by
  have hmark : t.take ((s ++ u).length + 1 + s.length) =
      s ++ u ++ '\n' :: List.replicate s.length ' ' := by
    rw [ht, Nat.add_assoc, Nat.add_comm 1, List.take_length_add_append, List.take_succ_cons,
      List.take_left' List.length_replicate]
  have hblank : ∀ c ∈ List.replicate s.length ' ', (c != '\n') = true := by
    intro c hc
    rw [List.eq_of_mem_replicate hc]
    rfl
  have hline : lineAt t ((s ++ u).length + 1 + s.length) = s.count '\n' + u.count '\n' + 1 := by
    rw [lineAt, hmark, List.count_append, List.count_append, List.count_cons_self,
      List.count_replicate]
    rfl
  have hcolumn : columnAt t ((s ++ u).length + 1 + s.length) = s.length := by
    rw [columnAt, hmark, countTrailing_append_cons rfl hblank, List.length_replicate]
  rw [List.append_assoc] at ht
  unfold Beneath
  rw [hline, hcolumn, ht, lineAt_length, List.mem_append, not_or, ← columnAt_eq_length_iff s,
    ← List.count_eq_zero (l := u)]
  constructor
  · intro h
    exact ⟨h.2.symm, by omega⟩
  · intro h
    exact ⟨by omega, h.1.symm⟩

/-! ## The layout -/

/-- An echo of a text behind a lead, and below it a pointer to what follows `before` characters of the
text. -/
def pointed (lead text : String) (before width : Nat) : String :=
  lead ++ text ++ "`\n" ++ pointer (lead.length + before) width

theorem unknownDigit_eq_pointed (radix : Radix) (literal : String) (before : List Char)
    (digit : Char) :
    unknownDigit radix literal before digit =
      pointed (digitLead radix digit) literal before.length 0 := rfl

theorem unknownEscape_eq_pointed (grammar : Escape.Grammar) (lexeme : String)
    (before rest : List Char) :
    unknownEscape grammar lexeme before rest =
      pointed (escapeLead grammar (String.ofList ('\\' :: rest))) lexeme before.length rest.length :=
  rfl

theorem toList_pointer (indent width : Nat) :
    (pointer indent width).toList =
      List.replicate indent ' ' ++ '^' :: List.replicate width '~' := String.toList_ofList

theorem toList_pointed (lead text : String) (before width : Nat) :
    (pointed lead text before width).toList =
      (lead.toList ++ text.toList ++ ['\x60']) ++ '\n' ::
        (List.replicate (lead.length + before) ' ' ++ '^' :: List.replicate width '~') := by
  simp [pointed, toList_pointer]

theorem toList_digitLead (radix : Radix) (digit : Char) :
    (digitLead radix digit).toList =
      "unknown digit `".toList ++
        (digit :: ("` in ".toList ++ (radix.name.toList ++ " literal `".toList))) := by
  unfold digitLead
  rw [String.toList_append, String.toList_append, String.toList_append, String.toList_append,
    String.toList_singleton, List.append_assoc, List.append_assoc, List.append_assoc,
    List.singleton_append]

theorem toList_escapeLead (grammar : Escape.Grammar) (escape : String) :
    (escapeLead grammar escape).toList =
      "unrecognised ".toList ++ (grammar.name.toList ++
        (" escape '".toList ++ (escape.toList ++ "' in string literal `".toList))) := by
  unfold escapeLead
  rw [String.toList_append, String.toList_append, String.toList_append, String.toList_append,
    List.append_assoc, List.append_assoc, List.append_assoc]

theorem newline_not_mem_digitLead (radix : Radix) {digit : Char}
    (h : radix.isUnknownDigit digit = true) : '\n' ∉ (digitLead radix digit).toList := by
  have hdigit : '\n' ≠ digit := by
    intro hnewline
    subst hnewline
    revert h
    cases radix <;> decide
  rw [toList_digitLead]
  simp only [List.mem_append, List.mem_cons, not_or]
  refine ⟨by decide, hdigit, by decide, ?_, by decide⟩
  cases radix <;> decide

theorem newline_mem_escapeLead {grammar : Escape.Grammar} {escape : String}
    (h : '\n' ∈ (escapeLead grammar escape).toList) : '\n' ∈ escape.toList := by
  rw [toList_escapeLead] at h
  simp only [List.mem_append] at h
  rcases h with h | h | h | h | h
  · exact absurd h (by decide)
  · cases grammar <;> exact absurd h (by decide)
  · exact absurd h (by decide)
  · exact h
  · exact absurd h (by decide)

/-! ## Where the pointer points -/

/-- A message that echoes the text `before ++ fault ++ after` points at the fault from its place `p` on. -/
structure PointsAt (message before fault after : List Char) (p : Nat) : Prop where
  /-- The text is echoed with its fault at `p`, and the last line is a caret behind `p` blanks, drawn
  out to the width of the fault. -/
  layout : ∃ lead, p = lead.length + before.length ∧
    message = lead ++ (before ++ fault ++ after) ++ ['\x60'] ++ '\n' ::
      (List.replicate p ' ' ++ '^' :: List.replicate (fault.length - 1) '~')
  /-- The places from `p` on hold the fault. -/
  at_place : (message.drop p).take fault.length = fault
  /-- The caret, as far from the end as the fault is wide, is right below the start of the fault if the
  text has one line, and only then. -/
  beneath_iff : Beneath message p (message.length - fault.length) ↔ '\n' ∉ before ++ fault ++ after

theorem pointsAt_pointed {lead text : String} {before fault after : List Char}
    (htext : text.toList = before ++ fault ++ after) (hfault : fault ≠ [])
    (hlead : '\n' ∈ lead.toList → '\n' ∈ fault) :
    PointsAt (pointed lead text before.length (fault.length - 1)).toList before fault after
      (lead.length + before.length) := by
  have hmessage := toList_pointed lead text before.length (fault.length - 1)
  rw [htext] at hmessage
  have hplace : lead.length + before.length = (lead.toList ++ before).length := by
    rw [List.length_append, String.length_toList]
  have hsplit : lead.toList ++ (before ++ fault ++ after) ++ ['\x60'] =
      (lead.toList ++ before) ++ (fault ++ (after ++ ['\x60'])) := by
    simp only [List.append_assoc]
  refine ⟨⟨lead.toList, ?_, hmessage⟩, ?_, ?_⟩
  · rw [String.length_toList]
  · rw [hmessage, hsplit, hplace, List.append_assoc, List.drop_left, List.append_assoc,
      List.take_left]
  · have hcaret : (pointed lead text before.length (fault.length - 1)).toList.length - fault.length =
        ((lead.toList ++ before) ++ (fault ++ (after ++ ['\x60']))).length + 1 +
          (lead.toList ++ before).length := by
      have := List.length_pos_iff.2 hfault
      rw [hmessage, hsplit, hplace]
      simp only [List.length_append, List.length_cons, List.length_replicate]
      omega
    rw [hsplit, hplace] at hmessage
    rw [hcaret, hplace, beneath_iff hmessage]
    simp only [List.mem_append, List.mem_singleton, not_or]
    constructor
    · intro h
      exact ⟨⟨h.1.2, h.2.1⟩, h.2.2.1⟩
    · intro h
      exact ⟨⟨fun hmem => h.1.2 (hlead hmem), h.1.1⟩, h.1.2, h.2, by decide⟩

end LexFault.Help

namespace LexFault

open Text Help

/-- The evidence is about a digit or an escape, the `fault` of a text `before ++ fault ++ after`. -/
inductive Evidence.Faulty : Evidence → List Char → List Char → List Char → Prop where
  | digit {radix : Radix} {literal : String} {before after : List Char} {digit : Char} :
    literal.toList = before ++ digit :: after →
      Faulty (.unknownDigit radix literal (byteLength before)) before [digit] after
  | escape {grammar : Escape.Grammar} {lexeme : String} {before fault after : List Char} :
    lexeme.toList = before ++ fault ++ after →
      Faulty (.unknownEscape grammar lexeme (byteLength before) (byteLength (before ++ fault)))
        before fault after

/-- Every help text on an unknown digit or escape points at the fault. -/
theorem Diagnostic.help_points_at_fault {evidence : Evidence} {span : Span} {d : Diagnostic}
    (h : make evidence span = .ok d)
    (hdefect : evidence.kind.defect = .unknownDigit ∨ evidence.kind.defect = .unknownEscape) :
    ∃ before fault after p,
      evidence.Faulty before fault after ∧ PointsAt d.help.toList before fault after p := by
  obtain ⟨-, -, hhelp⟩ := make_eq_ok_iff.1 h
  cases evidence with
  | unknownDigit radix literal offset =>
    obtain ⟨-, before, digit, after, hliteral, rfl, hdigit, hhelp⟩ :=
      Evidence.examine_unknownDigit.1 hhelp
    have hnewline : '\n' ∈ (digitLead radix digit).toList → '\n' ∈ [digit] :=
      fun hmem => absurd hmem (newline_not_mem_digitLead radix hdigit)
    have htext : literal.toList = before ++ [digit] ++ after := by
      rw [hliteral, List.append_cons]
    have hpoints := pointsAt_pointed htext (List.cons_ne_nil _ _) hnewline
    rw [← hhelp, unknownDigit_eq_pointed]
    exact ⟨before, [digit], after, _, .digit hliteral, hpoints⟩
  | unknownEscape grammar lexeme start stop =>
    obtain ⟨-, before, rest, after, hlexeme, rfl, rfl, -, hhelp⟩ :=
      Evidence.examine_unknownEscape.1 hhelp
    have hnewline : '\n' ∈ (escapeLead grammar (String.ofList ('\\' :: rest))).toList →
        '\n' ∈ '\\' :: rest := by
      intro hmem
      simpa only [String.toList_ofList] using newline_mem_escapeLead hmem
    have hpoints := pointsAt_pointed hlexeme (List.cons_ne_nil _ _) hnewline
    rw [← hhelp, unknownEscape_eq_pointed]
    exact ⟨before, '\\' :: rest, after, _, .escape hlexeme, hpoints⟩
  | _ => simp [Evidence.kind, Kind.defect] at hdefect

/-- The two characters of `\m` within a text of four. -/
theorem Diagnostic.help_points_at_lone_escape :
    ∃ d, make (.unknownEscape .ascii "a\\mb" 1 3) ⟨.origin, ⟨1, 5⟩, by decide⟩ = .ok d ∧
      ∃ before fault after p,
        (Evidence.unknownEscape .ascii "a\\mb" 1 3).Faulty before fault after ∧
          PointsAt d.help.toList before fault after p := by
  have hexamine : (Evidence.unknownEscape .ascii "a\\mb" 1 3).examine =
      .ok (Help.unknownEscape .ascii "a\\mb" ['a'] ['m']) :=
    Evidence.examine_unknownEscape.2 ⟨by decide, ['a'], ['m'], ['b'], by decide, by decide, by decide,
      by decide, rfl⟩
  obtain ⟨d, hd⟩ := Evidence.accepted_iff.2 ⟨_, hexamine⟩
  exact ⟨d, hd, help_points_at_fault hd (.inr rfl)⟩

end LexFault
