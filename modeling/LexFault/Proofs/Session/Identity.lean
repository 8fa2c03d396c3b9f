import LexFault.Proofs.Help.Heading
import LexFault.Proofs.Session.Ledger

/-!
# What a listed diagnostic is taken for

A session answers what a diagnostic of its list is by its place alone: whether it reports a given
defect, by which radix or grammar, and whether it equals another one. The answers never depend on how
the diagnostic came into the list. It is taken for one defect, that of the evidence it was first made
from (`Recognised`); copies of one diagnostic cannot be told apart (`Indistinguishable`); and two
diagnostics are equal just if their kinds, their spans and their help texts are.
-/

namespace LexFault

/-! ## Names of kinds -/

/-- The name of a defect. -/
def Defect.name : Defect → String
  | .missingExponentDigits => "FloatExponentMissingDigits"
  | .severalRadixPoints => "FloatMultipleRadixPoints"
  | .reservedIdentifier => "InvalidIdentifier"
  | .unknownDigit => "UnknownDigit"
  | .unknownEscape => "UnknownEscape"
  | .unknownToken => "UnknownToken"
  | .unterminatedComment => "UnterminatedComment"
  | .unterminatedString => "UnterminatedStringLiteral"

theorem Defect.name_inj {defect defect' : Defect} (h : defect.name = defect'.name) :
    defect = defect' := by
  cases defect <;> cases defect' <;> simp [name] at h ⊢

namespace Kind

/-- The name of a kind is that of its defect, up to a parenthesis. -/
def Names (kind : Kind) (defect : Defect) : Prop :=
  kind.text.toList.takeWhile (· != '(') = defect.name.toList

theorem names_defect (kind : Kind) : kind.Names kind.defect := by
  unfold Names
  cases kind with
  | unknownDigit radix => cases radix <;> decide
  | unknownEscape grammar => cases grammar <;> decide
  | _ => decide

theorem names_iff {kind : Kind} {defect : Defect} : kind.Names defect ↔ defect = kind.defect := by
  constructor
  · intro h
    exact Defect.name_inj (String.toList_inj.1 (h.symm.trans kind.names_defect))
  · rintro rfl
    exact kind.names_defect

/-- The kind carries a radix or a grammar of this name, and the help text announces it by this name. -/
inductive Details : Kind → String → String → Prop
  | radix {radix : Radix} {name help : String} :
    radix.Called name → Announced (.unknownDigit radix) help →
      Details (.unknownDigit radix) name help
  | grammar {grammar : Escape.Grammar} {name help : String} :
    grammar.Called name → Announced (.unknownEscape grammar) help →
      Details (.unknownEscape grammar) name help

theorem isSome_detail?_iff (kind : Kind) :
    kind.detail?.isSome = true ↔ kind.defect = .unknownDigit ∨ kind.defect = .unknownEscape := by
  cases kind <;> simp [detail?, defect]

theorem details_of_examine {evidence : Evidence} {help name : String}
    (h : evidence.examine = .ok help) (hname : evidence.kind.detail? = some name) :
    Details evidence.kind name help := by
  have hannounced := Evidence.announced_of_examine h
  cases evidence with
  | unknownDigit radix literal offset =>
    cases hname
    exact .radix (Radix.called_iff.2 rfl) hannounced
  | unknownEscape grammar lexeme start stop =>
    cases hname
    exact .grammar (Escape.Grammar.called_iff.2 rfl) hannounced
  | _ => cases hname

end Kind

/-- The defect that evidence is handed over for. -/
def Evidence.defect : Evidence → Defect
  | .missingExponentDigits _ => .missingExponentDigits
  | .severalRadixPoints _ => .severalRadixPoints
  | .reservedIdentifier _ => .reservedIdentifier
  | .unknownDigit _ _ _ => .unknownDigit
  | .unknownEscape _ _ _ _ => .unknownEscape
  | .unknownToken _ => .unknownToken
  | .unterminatedComment _ => .unterminatedComment
  | .unterminatedString _ => .unterminatedString

theorem Evidence.defect_kind (evidence : Evidence) : evidence.kind.defect = evidence.defect := by
  cases evidence <;> rfl

namespace Session

variable {s : Session} {ts : List Step} {d e : Diagnostic} {i i' k k' j : Nat}

/-! ## Answers about one diagnostic -/

/-- The diagnostic at place `i` is taken for the defect and for no other. That is the one its kind
names, and if it has a radix or a grammar, this is told to whoever asks for that defect. -/
structure Recognised (s : Session) (i : Nat) (d : Diagnostic) (defect : Defect) : Prop where
  named : ∀ asked, d.kind.Names asked ↔ asked = defect
  classified : ∀ asked, ∃ detail,
    (s.step (.classify i asked)).1 = .ok (.classified (decide (asked = defect)) detail) ∧
      (detail.isSome = true ↔
        asked = defect ∧ (defect = .unknownDigit ∨ defect = .unknownEscape)) ∧
      ∀ name, detail = some name → d.kind.Details name d.help

theorem recognised {evidence : Evidence} (hd : s.diagnostics[i]? = some d)
    (hkind : d.kind = evidence.kind) (hexamine : evidence.examine = .ok d.help) :
    Recognised s i d evidence.defect := by
  rw [← evidence.defect_kind]
  have hreports : ∀ asked, d.reports asked = decide (asked = evidence.kind.defect) := by
    intro asked
    rw [Diagnostic.reports, hkind, Bool.eq_iff_iff, beq_iff_eq, decide_eq_true_eq, eq_comm]
  refine ⟨fun asked => ?_, fun asked => ⟨d.detail? asked, ?_, ?_, ?_⟩⟩
  · rw [hkind, Kind.names_iff]
  · rw [step_of_accepts (.classify hd), hreports]
  · rw [Diagnostic.detail?, hreports, hkind, ← Kind.isSome_detail?_iff]
    by_cases h : asked = evidence.kind.defect <;> simp [h]
  · intro name hname
    rw [Diagnostic.detail?, hreports, hkind] at hname
    by_cases h : asked = evidence.kind.defect
    · rw [if_pos (decide_eq_true h)] at hname
      rw [hkind]
      exact Kind.details_of_examine hexamine hname
    · rw [if_neg (by simpa using h)] at hname
      cases hname

/-! ## Answers about two diagnostics -/

/-- No answer tells the diagnostics at two places apart. -/
structure Indistinguishable (s : Session) (i i' : Nat) : Prop where
  same : ∃ d, s.diagnostics[i]? = some d ∧ s.diagnostics[i']? = some d
  classified : ∀ asked, (s.step (.classify i asked)).1 = (s.step (.classify i' asked)).1
  compared_first : ∀ x, (s.step (.compare i x)).1 = (s.step (.compare i' x)).1
  compared_second : ∀ x, (s.step (.compare x i)).1 = (s.step (.compare x i')).1

theorem indistinguishable (hd : s.diagnostics[i]? = some d) (hd' : s.diagnostics[i']? = some d) :
    Indistinguishable s i i' := by
  refine ⟨⟨d, hd, hd'⟩, fun asked => ?_, fun x => ?_, fun x => ?_⟩
  · rw [step_of_accepts (.classify hd), step_of_accepts (.classify hd')]
  · cases hx : s.diagnostics[x]? with
    | none =>
      rw [step_of_refuses (.compareSecond hd hx), step_of_refuses (.compareSecond hd' hx)]
    | some e => rw [step_of_accepts (.compare hd hx), step_of_accepts (.compare hd' hx)]
  · cases hx : s.diagnostics[x]? with
    | none => rw [step_of_refuses (.compareFirst hx), step_of_refuses (.compareFirst hx)]
    | some e => rw [step_of_accepts (.compare hx hd), step_of_accepts (.compare hx hd')]

/-- Two places whose diagnostics stem from one report hold the same diagnostic. -/
theorem indistinguishable_of_stems (hi : (ledger ts)[i]? = some k) (hi' : (ledger ts)[i']? = some k')
    (h : Stems ts k j) (h' : Stems ts k' j) : Indistinguishable (after ts) i i' := by
  obtain ⟨d, l, evidence, hd, hl, hreported⟩ := exists_origin (List.mem_of_getElem? hi)
  obtain ⟨d', l', evidence', hd', hl', hreported'⟩ := exists_origin (List.mem_of_getElem? hi')
  obtain rfl : l = j := hl.unique h
  obtain rfl : l' = l := hl'.unique h'
  have hsame : d = d' := by
    have hstep := hreported.step_eq.symm.trans hreported'.step_eq
    cases hstep
    exact Except.ok.inj (hreported.between_eq.symm.trans hreported'.between_eq)
  rw [← hsame] at hd'
  exact indistinguishable (getElem?_diagnostics_iff.2 ⟨k, hi, hd⟩)
    (getElem?_diagnostics_iff.2 ⟨k', hi', hd'⟩)

theorem compare_answer (hd : s.diagnostics[i]? = some d) (he : s.diagnostics[i']? = some e) :
    ∃ kinds spans whole, (s.step (.compare i i')).1 = .ok (.compared kinds spans whole) ∧
      (kinds = true ↔ d.kind = e.kind) ∧ (spans = true ↔ d.span = e.span) ∧
        (whole = true ↔ kinds = true ∧ spans = true ∧ d.help = e.help) := by
  refine ⟨_, _, _, congrArg Prod.fst (step_of_accepts (.compare hd he)), beq_iff_eq, beq_iff_eq, ?_⟩
  rw [beq_iff_eq, beq_iff_eq, beq_iff_eq]
  cases d
  cases e
  exact Diagnostic.mk.injEq .. ▸ Iff.rfl

/-- In every session that a run leads to, each diagnostic is taken for the defect of the evidence that
it stems from and for no other, a copy and its original answer alike, and two diagnostics are equal
just if their kinds, their spans and their help texts are. -/
theorem diagnostics_keep_identity (ts : List Step) :
    (∀ i d, (after ts).diagnostics[i]? = some d → ∃ k j evidence, (ledger ts)[i]? = some k ∧
        Stems ts k j ∧ ts[j]? = some (.report evidence) ∧
          Recognised (after ts) i d evidence.defect) ∧
      (∀ i i' k k' j, (ledger ts)[i]? = some k → (ledger ts)[i']? = some k' →
        Stems ts k j → Stems ts k' j → Indistinguishable (after ts) i i') ∧
      ∀ i i' d e, (after ts).diagnostics[i]? = some d → (after ts).diagnostics[i']? = some e →
        ∃ kinds spans whole, ((after ts).step (.compare i i')).1 = .ok (.compared kinds spans whole) ∧
          (kinds = true ↔ d.kind = e.kind) ∧ (spans = true ↔ d.span = e.span) ∧
            (whole = true ↔ kinds = true ∧ spans = true ∧ d.help = e.help) := by
  refine ⟨fun i d hd => ?_, fun i i' k k' j => indistinguishable_of_stems,
    fun i i' d e => compare_answer⟩
  obtain ⟨k, hk, hmade⟩ := getElem?_diagnostics_iff.1 hd
  obtain ⟨d', j, evidence, hd', hstems, hreported⟩ := exists_origin (List.mem_of_getElem? hk)
  rw [hmade] at hd'
  cases hd'
  have hmake := hreported.between_eq
  rw [Diagnostic.between_of_le hreported.in_order, Diagnostic.make_eq_ok_iff] at hmake
  exact ⟨k, j, evidence, hk, hstems, hreported.step_eq, recognised hd hmake.1 hmake.2.2⟩

/-- A copy and the copy of that copy, when the original is gone and another report has been made: the
copies are unknown binary digits, nothing tells them apart, and neither equals the other report. -/
theorem copies_keep_identity_of_dropped :
    ∃ (ts : List Step) (d : Diagnostic),
      ts = [.report (.unknownDigit .binary "0b12" 3), .copy 0, .copy 1, .drop 0,
        .report (.unknownToken "~")] ∧
        (after ts).diagnostics[0]? = some d ∧ Recognised (after ts) 0 d .unknownDigit ∧
        ((after ts).step (.classify 0 .unknownDigit)).1 = .ok (.classified true (some "binary")) ∧
        Indistinguishable (after ts) 0 1 ∧
        ∃ spans, ((after ts).step (.compare 0 2)).1 = .ok (.compared false spans false) := by
  obtain ⟨ts, hts⟩ : ∃ ts : List Step, ts = [.report (.unknownDigit .binary "0b12" 3), .copy 0,
      .copy 1, .drop 0, .report (.unknownToken "~")] := ⟨_, rfl⟩
  have hledger : ledger ts = [1, 2, 4] := by
    rw [hts]
    decide
  have hcopy : Stems ts 1 0 := hts ▸ .copy rfl (by decide) (.report rfl)
  have hcopies : Stems ts 2 0 := hts ▸ .copy rfl (by decide) (hts ▸ hcopy)
  obtain ⟨d, hd, hdkind⟩ : ∃ d, (after ts).diagnostics[0]? = some d ∧ d.kind = .unknownDigit .binary := by
    rw [hts]
    exact ⟨_, rfl, rfl⟩
  obtain ⟨e, he, hekind⟩ : ∃ e, (after ts).diagnostics[2]? = some e ∧ e.kind = .unknownToken := by
    rw [hts]
    exact ⟨_, rfl, rfl⟩
  obtain ⟨hidentity, hsame, hcompared⟩ := diagnostics_keep_identity ts
  have hrecognised : Recognised (after ts) 0 d .unknownDigit := by
    obtain ⟨k, j, evidence, hk, hstems, hreport, hrecognised⟩ := hidentity 0 d hd
    rw [hledger] at hk
    cases hk
    obtain rfl : j = 0 := hstems.unique hcopy
    rw [hts] at hreport
    cases hreport
    exact hrecognised
  refine ⟨ts, d, hts, hd, hrecognised, ?_, ?_, ?_⟩
  · obtain ⟨detail, hanswer, hdetail, hname⟩ := hrecognised.classified .unknownDigit
    obtain ⟨name, rfl⟩ := Option.isSome_iff_exists.1 (hdetail.2 ⟨rfl, .inl rfl⟩)
    have hdetails := hname name rfl
    rw [hdkind] at hdetails
    cases hdetails with
    | radix hcalled =>
      cases hcalled
      exact hanswer
  · exact hsame 0 1 1 2 0 (by rw [hledger]; rfl) (by rw [hledger]; rfl) hcopy hcopies
  · obtain ⟨kinds, spans, whole, hanswer, hkinds, -, hwhole⟩ := hcompared 0 2 d e hd he
    rw [hdkind, hekind] at hkinds
    obtain rfl : kinds = false := Bool.eq_false_iff.2 fun h => by cases hkinds.1 h
    obtain rfl : whole = false := Bool.eq_false_iff.2 fun h => by cases (hwhole.1 h).1
    exact ⟨spans, hanswer⟩

end Session

end LexFault
