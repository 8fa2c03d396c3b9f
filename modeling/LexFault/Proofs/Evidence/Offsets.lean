import LexFault.Proofs.Evidence.Conditions
import LexFault.Proofs.Help.Pointer

/-!
# Byte offsets that come from outside

A scanner says by byte offsets where in a lexeme a digit or an escape stands, and nothing keeps the
offsets inside the lexeme, off the inner bytes of a character or in their order. `digitByOffset` and
`escapeByOffsets` go through the checks with the offsets alone, and then cut the lexeme at them once
more for the pointer; a cut that there is no place for, or a count below zero, is a `Fault` there. None
ever happens, whatever the offsets, and the outcome is that of `Evidence.examine`
(`Evidence.digitByOffset_eq`, `Evidence.escapeByOffsets_eq`). What a refusal names is written out by
its text, in the order of the checks (`Evidence.DigitRefused`, `Evidence.EscapeRefused`).
-/

namespace LexFault

open Condition Text

/-! ## Cuts that may go wrong -/

/-- What stops a computation on a text that asks for the impossible. -/
inductive Fault where
  /-- A cut behind the end of the text. -/
  | pastEnd
  /-- A cut inside a character. -/
  | insideCharacter
  /-- A count below zero. -/
  | belowZero
  deriving DecidableEq

/-- Why an examination ends without a help text. -/
inductive Stop where
  | unmet (condition : Condition)
  | fault (fault : Fault)
  deriving DecidableEq

/-- The text up to a byte offset, which must fall between two characters. -/
def Text.upTo (t : List Char) (offset : Nat) : Except Stop (List Char) :=
  match cut t offset with
  | some (s, _) => .ok s
  | none => .error (.fault (if byteLength t < offset then .pastEnd else .insideCharacter))

/-- One less than a count. -/
def oneLess : Nat → Except Stop Nat
  | 0 => .error (.fault .belowZero)
  | n + 1 => .ok n

/-- Goes on if the condition holds. -/
def Condition.ask (c : Condition) (holds : Bool) : Except Stop Unit :=
  (c.require holds).mapError .unmet

/-! ## Both ways of asking -/

section Ask
variable {α β : Type} {c : Condition} {holds : Bool} {f : Unit → Except Stop α}

theorem ask_bind_eq {g : Unit → Except Condition α}
    (h : holds = true → f () = (g ()).mapError .unmet) :
    (c.ask holds >>= f) = (c.require holds >>= g).mapError .unmet := by
  cases holds with
  | false => rfl
  | true => exact h rfl

theorem ask_bind_of_true (h : holds = true) : (c.ask holds >>= f) = f () := by
  rw [h]
  rfl

/-- Asking for a part of a text is asking about what stands in for it, if what stands in for a part
that is not there does not satisfy the condition. -/
theorem ask_bind_eq_of_found {o : Option β} {g : β → Except Condition α}
    (hnone : o = none → holds = false)
    (hsome : ∀ x, o = some x → (c.ask holds >>= f) = (g x).mapError .unmet) :
    (c.ask holds >>= f) = (c.found o >>= g).mapError .unmet := by
  cases o with
  | none =>
    rw [hnone rfl]
    rfl
  | some x => exact hsome x rfl

end Ask

theorem Text.upTo_eq_ok {t s u : List Char} {n : Nat} (h : t = s ++ u) (hn : byteLength s = n) :
    upTo t n = .ok s := by
  unfold upTo
  rw [cut_eq_some_iff.2 ⟨h, hn⟩]

example : upTo ['é'] 1 = .error (.fault .insideCharacter) := rfl

/-! ## The checks on offsets -/

namespace Evidence

/-- The check of an unknown digit by its offset alone. Where there is no digit, it goes on with NUL. -/
def digitByOffset (radix : Radix) (literal : String) (offset : Nat) : Except Stop String := do
  literalHasRadix.ask (radix.leads literal)
  let digit := charAt literal.toList offset
  digitUnknown.ask (radix.isUnknownDigit digit)
  let lead := Help.digitLead radix digit
  let before ← upTo literal.toList offset
  return Help.pointed lead literal before.length 0

/-- The check of an unknown escape by its offsets alone. Where they select nothing, it goes on with
the empty text. -/
def escapeByOffsets (grammar : Escape.Grammar) (lexeme : String) (start stop : Nat) :
    Except Stop String := do
  lexemeLong.ask (decide (4 ≤ byteLength lexeme.toList))
  escapeLong.ask (decide (2 ≤ stop - start))
  let escape := slice lexeme.toList start stop
  escapeHasBackslash.ask (escape.head? == some '\\')
  escapeInvalid.ask (!grammar.accepts (utf8 escape))
  let lead := Help.escapeLead grammar (String.ofList escape)
  let width ← oneLess escape.length
  let before ← upTo lexeme.toList start
  return Help.pointed lead lexeme before.length width

theorem digitByOffset_eq (radix : Radix) (literal : String) (offset : Nat) :
    digitByOffset radix literal offset =
      (examine (.unknownDigit radix literal offset)).mapError .unmet := by
  refine ask_bind_eq fun _ => ask_bind_eq_of_found (fun hnone => ?_) fun x hdigit => ?_
  · -- NUL stands in for a digit that is not there, and no radix lacks it.
    rw [charAt, hnone]
    exact radix.isUnknownDigit_nul
  · obtain ⟨before, digit⟩ := x
    have hchar : charAt literal.toList offset = digit := by rw [charAt, hdigit]; rfl
    obtain ⟨after, hsplit, hoffset⟩ := charAt?_eq_some_iff.1 hdigit
    rw [hchar]
    refine ask_bind_eq fun _ => ?_
    rw [upTo_eq_ok hsplit hoffset]
    rfl

theorem escapeByOffsets_eq (grammar : Escape.Grammar) (lexeme : String) (start stop : Nat) :
    escapeByOffsets grammar lexeme start stop =
      (examine (.unknownEscape grammar lexeme start stop)).mapError .unmet := by
  refine ask_bind_eq fun _ => ask_bind_eq fun _ =>
    ask_bind_eq_of_found (fun hnone => ?_) fun x hslice => ?_
  · -- The empty text stands in for an escape that is not there, and it has no backslash.
    rw [slice, hnone]
    rfl
  · obtain ⟨before, escape⟩ := x
    have hescape : slice lexeme.toList start stop = escape := by rw [slice, hslice]; rfl
    obtain ⟨after, hsplit, hstart, -⟩ := slice?_eq_some_iff.1 hslice
    rw [hescape]
    refine ask_bind_eq_of_found (fun hnone => ?_) fun rest hrest => ?_
    · rw [Escape.head?_beq_backslash, hnone]
      rfl
    · obtain rfl := Escape.behindBackslash?_eq_some_iff.1 hrest
      have hhead : (('\\' :: rest).head? == some '\\') = true := rfl
      rw [ask_bind_of_true hhead]
      refine ask_bind_eq fun _ => ?_
      -- What starts with a backslash has one character or more, so the width is no fault either.
      rw [List.append_assoc] at hsplit
      rw [upTo_eq_ok hsplit hstart]
      rfl

/-- The check of the evidence by offsets alone never asks for the impossible and ends as `examine`
does; the evidence comes to a diagnostic just if `fits` holds, and else fails for the condition whose
text `refused` names. -/
structure HandledExactly (e : Evidence) (check : Except Stop String) (fits : Prop)
    (refused : String → Prop) (span : Span) : Prop where
  no_fault : ∀ fault, check ≠ .error (.fault fault)
  check_eq : check = e.examine.mapError .unmet
  accepted_iff : e.Accepted span ↔ fits
  refused_iff : ∀ failure, Diagnostic.make e span = .error failure ↔
    ∃ text, refused text ∧ failure = .unmet text

theorem handledExactly {e : Evidence} {check : Except Stop String} {fits : Prop}
    {refused : String → Prop} {span : Span} (hcheck : check = e.examine.mapError .unmet)
    (hfits : e.Accepted span ↔ fits)
    (hrefused : ∀ text, refused text ↔ ∃ c, firstUnmet e.conditions = some c ∧ c.text = text) :
    HandledExactly e check fits refused span where
  no_fault fault := by
    rw [hcheck]
    cases e.examine with
    | ok help => intro h; cases h
    | error c => intro h; cases h
  check_eq := hcheck
  accepted_iff := hfits
  refused_iff failure := by
    rw [Diagnostic.make_eq_error_iff]
    constructor
    · rintro ⟨c, hc, rfl⟩
      exact ⟨c.text, (hrefused _).2 ⟨c, hc, rfl⟩, rfl⟩
    · rintro ⟨text, htext, rfl⟩
      obtain ⟨c, hc, rfl⟩ := (hrefused text).1 htext
      exact ⟨c, hc, rfl⟩

/-- A digit that a radix lacks is no part of what the literals of the radix start with. -/
theorem two_le_byteLength {radix : Radix} {t before after : List Char} {digit : Char}
    (hlead : radix.lead.toList <+: t) (ht : t = before ++ [digit] ++ after)
    (hdigit : radix.isUnknownDigit digit = true) : 2 ≤ byteLength before := by
  obtain ⟨x, y, hxy, hx, hy⟩ : ∃ x y, radix.lead.toList = [x, y] ∧
      radix.isUnknownDigit x = false ∧ radix.isUnknownDigit y = false := by
    cases radix <;> exact ⟨_, _, rfl, by decide, by decide⟩
  obtain ⟨rest, rfl⟩ := hlead
  rw [hxy] at ht
  match before, ht with
  | [], ht =>
    obtain rfl : x = digit := (List.cons.inj ht).1
    rw [hx] at hdigit
    cases hdigit
  | [c], ht =>
    obtain rfl : y = digit := (List.cons.inj (List.cons.inj ht).2).1
    rw [hy] at hdigit
    cases hdigit
  | c :: d :: before, _ =>
    have := c.utf8Size_pos
    have := d.utf8Size_pos
    simp only [byteLength]
    omega

/-! ## What is accepted -/

theorem leads_iff {radix : Radix} {literal : String} :
    radix.leads literal = true ↔ radix.lead.toList <+: literal.toList := List.isPrefixOf_iff_prefix

theorem isUnknownDigit_charAt_iff {radix : Radix} {t : List Char} {offset : Nat} :
    radix.isUnknownDigit (charAt t offset) = true ↔
      ∃ before digit after, t = before ++ [digit] ++ after ∧ byteLength before = offset ∧
        radix.isUnknownDigit digit = true := by
  constructor
  · intro h
    cases hchar : charAt? t offset with
    | none =>
      rw [charAt, hchar] at h
      exact absurd (h.symm.trans radix.isUnknownDigit_nul) (by decide)
    | some x =>
      obtain ⟨before, digit⟩ := x
      obtain ⟨after, hsplit, hoffset⟩ := charAt?_eq_some_iff.1 hchar
      rw [charAt, hchar] at h
      exact ⟨before, digit, after, by rw [hsplit, List.append_cons], hoffset, h⟩
  · rintro ⟨before, digit, after, hsplit, hoffset, hdigit⟩
    rw [← List.append_cons] at hsplit
    rw [charAt, charAt?_eq_some_iff.2 ⟨after, hsplit, hoffset⟩]
    exact hdigit

theorem accepted_unknownDigit_iff {radix : Radix} {literal : String} {offset : Nat} {span : Span} :
    Accepted (.unknownDigit radix literal offset) span ↔
      radix.lead.toList <+: literal.toList ∧ ∃ before digit after,
        literal.toList = before ++ [digit] ++ after ∧ byteLength before = offset ∧
          radix.isUnknownDigit digit = true := by
  rw [accepted_iff_conditions, conditions, List.forall_mem_cons, List.forall_mem_singleton, leads_iff,
    isUnknownDigit_charAt_iff]

theorem accepted_unknownEscape_iff {grammar : Escape.Grammar} {lexeme : String} {start stop : Nat}
    {span : Span} :
    Accepted (.unknownEscape grammar lexeme start stop) span ↔
      4 ≤ byteLength lexeme.toList ∧ ∃ before escape after,
        lexeme.toList = before ++ escape ++ after ∧ byteLength before = start ∧
          byteLength (before ++ escape) = stop ∧ ['\\'] <+: escape ∧ 2 ≤ byteLength escape ∧
            grammar.isValid (String.ofList escape) = false := by
  simp only [accepted_iff, examine_unknownEscape, Escape.Grammar.isValid, String.toList_ofList]
  constructor
  · rintro ⟨help, ⟨hlexeme, hescape⟩, before, rest, after, hsplit, rfl, rfl, hinvalid, -⟩
    rw [byteLength_append] at hescape
    exact ⟨hlexeme, before, '\\' :: rest, after, hsplit, rfl, rfl, ⟨rest, rfl⟩, by omega, hinvalid⟩
  · rintro ⟨hlexeme, before, _, after, hsplit, rfl, rfl, ⟨rest, rfl⟩, hescape, hinvalid⟩
    rw [List.singleton_append] at hsplit hescape hinvalid ⊢
    have hlength := byteLength_append before ('\\' :: rest)
    exact ⟨_, ⟨hlexeme, by omega⟩, before, rest, after, hsplit, rfl, rfl, hinvalid, rfl⟩

/-! ## What refusals name -/

/-- The text of the first condition that an unknown digit does not satisfy. -/
inductive DigitRefused (radix : Radix) (literal : String) (offset : Nat) : String → Prop
  | noLead (hlead : ¬ radix.lead.toList <+: literal.toList) :
    DigitRefused radix literal offset "literal.starts_with(radix.prefix())"
  | noDigit (hlead : radix.lead.toList <+: literal.toList)
    (hdigit : ¬ ∃ before digit after, literal.toList = before ++ [digit] ++ after ∧
      byteLength before = offset ∧ radix.isUnknownDigit digit = true) :
    DigitRefused radix literal offset "radix.is_unknown_digit(digit_value)"

/-- The text of the first condition that an unknown escape does not satisfy. -/
inductive EscapeRefused (grammar : Escape.Grammar) (lexeme : String) (start stop : Nat) :
    String → Prop
  | shortLexeme (hlexeme : byteLength lexeme.toList < 4) :
    EscapeRefused grammar lexeme start stop "lexeme.len() >= 4"
  | shortEscape (hlexeme : 4 ≤ byteLength lexeme.toList) (hescape : stop < start + 2) :
    EscapeRefused grammar lexeme start stop "escape.len() >= 2"
  | noBackslash (hlexeme : 4 ≤ byteLength lexeme.toList) (hescape : start + 2 ≤ stop)
    (hbackslash : ¬ ∃ before escape after, lexeme.toList = before ++ escape ++ after ∧
      byteLength before = start ∧ byteLength (before ++ escape) = stop ∧ ['\\'] <+: escape) :
    EscapeRefused grammar lexeme start stop "unrecognised_escape.starts_with('\\\\')"
  | valid {before escape after : List Char} (hlexeme : 4 ≤ byteLength lexeme.toList)
    (hescape : start + 2 ≤ stop) (hsplit : lexeme.toList = before ++ escape ++ after)
    (hstart : byteLength before = start) (hstop : byteLength (before ++ escape) = stop)
    (hbackslash : ['\\'] <+: escape) (hvalid : grammar.isValid (String.ofList escape) = true) :
    EscapeRefused grammar lexeme start stop "!kind.is_valid_escape(unrecognised_escape)"

theorem digitRefused_iff {radix : Radix} {literal : String} {offset : Nat} (text : String) :
    DigitRefused radix literal offset text ↔
      ∃ c, firstUnmet (conditions (.unknownDigit radix literal offset)) = some c ∧
        c.text = text := by
  simp only [conditions, firstUnmet_cons_eq_some, firstUnmet_nil, reduceCtorEq, and_false, or_false,
    ← Bool.not_eq_true, leads_iff, isUnknownDigit_charAt_iff]
  constructor
  · intro h
    cases h with
    | noLead hlead => exact ⟨_, .inl ⟨hlead, rfl⟩, rfl⟩
    | noDigit hlead hdigit => exact ⟨_, .inr ⟨hlead, hdigit, rfl⟩, rfl⟩
  · rintro ⟨c, ⟨hlead, rfl⟩ | ⟨hlead, hdigit, rfl⟩, rfl⟩
    · exact .noLead hlead
    · exact .noDigit hlead hdigit

theorem slice_eq_of_split {t before escape after : List Char} {start stop : Nat}
    (hsplit : t = before ++ escape ++ after) (hstart : byteLength before = start)
    (hstop : byteLength (before ++ escape) = stop) : slice t start stop = escape := by
  rw [slice, slice?_eq_some_iff.2 ⟨after, hsplit, hstart, hstop⟩]
  rfl

theorem head?_slice_iff {t : List Char} {start stop : Nat} {c : Char} :
    (slice t start stop).head? = some c ↔
      ∃ before escape after, t = before ++ escape ++ after ∧ byteLength before = start ∧
        byteLength (before ++ escape) = stop ∧ [c] <+: escape := by
  constructor
  · intro h
    cases hslice : slice? t start stop with
    | none =>
      rw [slice, hslice] at h
      cases h
    | some x =>
      obtain ⟨before, escape⟩ := x
      obtain ⟨after, hsplit, hstart, hstop⟩ := slice?_eq_some_iff.1 hslice
      rw [slice_eq_of_split hsplit hstart hstop, List.head?_eq_some_iff] at h
      obtain ⟨rest, hrest⟩ := h
      exact ⟨before, escape, after, hsplit, hstart, hstop, rest, hrest.symm⟩
  · rintro ⟨before, _, after, hsplit, hstart, hstop, rest, rfl⟩
    rw [slice_eq_of_split hsplit hstart hstop]
    rfl

theorem escapeRefused_iff {grammar : Escape.Grammar} {lexeme : String} {start stop : Nat}
    (text : String) :
    EscapeRefused grammar lexeme start stop text ↔
      ∃ c, firstUnmet (conditions (.unknownEscape grammar lexeme start stop)) = some c ∧
        c.text = text := by
  simp only [conditions, firstUnmet_cons_eq_some, firstUnmet_nil, reduceCtorEq, and_false, or_false,
    decide_eq_true_eq, decide_eq_false_iff_not, ← Bool.not_eq_true (_ == _), beq_iff_eq,
    head?_slice_iff, Bool.not_eq_false']
  -- one case for each condition, behind those that come before it and hold
  constructor
  · intro h
    cases h with
    | shortLexeme hlexeme => exact ⟨_, .inl ⟨by omega, rfl⟩, rfl⟩
    | shortEscape hlexeme hescape => exact ⟨_, .inr ⟨hlexeme, .inl ⟨by omega, rfl⟩⟩, rfl⟩
    | noBackslash hlexeme hescape hbackslash =>
      exact ⟨_, .inr ⟨hlexeme, .inr ⟨by omega, .inl ⟨hbackslash, rfl⟩⟩⟩, rfl⟩
    | valid hlexeme hescape hsplit hstart hstop hbackslash hvalid =>
      refine ⟨_, .inr ⟨hlexeme, .inr ⟨by omega, .inr ⟨⟨_, _, _, hsplit, hstart, hstop, hbackslash⟩,
        ?_, rfl⟩⟩⟩, rfl⟩
      rw [slice_eq_of_split hsplit hstart hstop]
      rwa [Escape.Grammar.isValid, String.toList_ofList] at hvalid
  · rintro ⟨c, ⟨hlexeme, rfl⟩ | ⟨hlexeme, ⟨hescape, rfl⟩ | ⟨hescape, ⟨hbackslash, rfl⟩ |
      ⟨⟨before, escape, after, hsplit, hstart, hstop, hbackslash⟩, hvalid, rfl⟩⟩⟩, rfl⟩
    · exact .shortLexeme (by omega)
    · exact .shortEscape hlexeme (by omega)
    · exact .noBackslash hlexeme (by omega) hbackslash
    · rw [slice_eq_of_split hsplit hstart hstop] at hvalid
      refine .valid hlexeme (by omega) hsplit hstart hstop hbackslash ?_
      rwa [Escape.Grammar.isValid, String.toList_ofList]

/-- Whatever the offsets, an unknown digit is accepted just if the literal starts as those of the radix
do and splits at the offset in front of a digit that the radix lacks, and an unknown escape just if
the lexeme splits at both offsets into what stands before, a text that starts with a backslash and is no
escape of the grammar, and what stands behind. All else is refused for the first condition that fails,
and nothing is ever cut where it cannot be. -/
theorem offsets_handled_exactly (span : Span) :
    (∀ (radix : Radix) (literal : String) (offset : Nat),
        HandledExactly (.unknownDigit radix literal offset) (digitByOffset radix literal offset)
            (radix.lead.toList <+: literal.toList ∧ ∃ before digit after,
              literal.toList = before ++ [digit] ++ after ∧ byteLength before = offset ∧
                radix.isUnknownDigit digit = true)
            (DigitRefused radix literal offset) span ∧
          (Accepted (.unknownDigit radix literal offset) span → 2 ≤ offset)) ∧
      ∀ (grammar : Escape.Grammar) (lexeme : String) (start stop : Nat),
        HandledExactly (.unknownEscape grammar lexeme start stop)
          (escapeByOffsets grammar lexeme start stop)
          (4 ≤ byteLength lexeme.toList ∧ ∃ before escape after,
            lexeme.toList = before ++ escape ++ after ∧ byteLength before = start ∧
              byteLength (before ++ escape) = stop ∧ ['\\'] <+: escape ∧ 2 ≤ byteLength escape ∧
                grammar.isValid (String.ofList escape) = false)
          (EscapeRefused grammar lexeme start stop) span := by
  refine ⟨fun radix literal offset => ⟨?_, ?_⟩, fun grammar lexeme start stop => ?_⟩
  · exact handledExactly (digitByOffset_eq radix literal offset) accepted_unknownDigit_iff
      digitRefused_iff
  · intro h
    obtain ⟨hlead, before, digit, after, hsplit, rfl, hdigit⟩ := accepted_unknownDigit_iff.1 h
    exact two_le_byteLength hlead hsplit hdigit
  · exact handledExactly (escapeByOffsets_eq grammar lexeme start stop) accepted_unknownEscape_iff
      escapeRefused_iff

/-- A digit behind a character of two bytes: at its own offset it is accepted, at the one inside that
character it is refused and nothing is cut. Of two escapes at the same offsets the one that the grammar
lacks is accepted, and the other is refused as valid. -/
theorem digit_behind_wide_character :
    (Accepted (.unknownDigit .binary "0bé2" 4) ⟨.origin, .origin, by decide⟩ ∧ 2 ≤ 4) ∧
      (digitByOffset .binary "0bé2" 3 = .error (.unmet .digitUnknown) ∧
        ∀ fault, digitByOffset .binary "0bé2" 3 ≠ .error (.fault fault)) ∧
      Diagnostic.make (.unknownDigit .binary "0bé2" 3) ⟨.origin, .origin, by decide⟩ =
        .error (.unmet "radix.is_unknown_digit(digit_value)") ∧
      Accepted (.unknownEscape .ascii "a\\mb" 1 3) ⟨.origin, .origin, by decide⟩ ∧
      Diagnostic.make (.unknownEscape .ascii "a\\nb" 1 3) ⟨.origin, .origin, by decide⟩ =
        .error (.unmet "!kind.is_valid_escape(unrecognised_escape)") := by
  have haccepted : Accepted (.unknownDigit .binary "0bé2" 4) ⟨.origin, .origin, by decide⟩ :=
    accepted_iff.2 ⟨_, rfl⟩
  obtain ⟨hdigit, hescape⟩ := offsets_handled_exactly ⟨.origin, .origin, by decide⟩
  have hinside : ¬ ∃ before digit after, "0bé2".toList = before ++ [digit] ++ after ∧
      byteLength before = 3 ∧ Radix.binary.isUnknownDigit digit = true := by
    rw [← isUnknownDigit_charAt_iff]
    decide
  have hsplit : "a\\nb".toList = ['a'] ++ ['\\', 'n'] ++ ['b'] := by decide
  have hvalid : EscapeRefused .ascii "a\\nb" 1 3 "!kind.is_valid_escape(unrecognised_escape)" :=
    .valid (by decide) (by decide) hsplit (by decide) (by decide) (by decide) (by decide)
  refine ⟨⟨haccepted, (hdigit .binary "0bé2" 4).2 haccepted⟩,
    ⟨(hdigit .binary "0bé2" 3).1.check_eq, (hdigit .binary "0bé2" 3).1.no_fault⟩, ?_, ?_, ?_⟩
  · exact ((hdigit .binary "0bé2" 3).1.refused_iff _).2 ⟨_, .noDigit (by decide) hinside, rfl⟩
  · exact (hescape .ascii "a\\mb" 1 3).accepted_iff.2 ⟨by decide, ['a'], ['\\', 'm'], ['b'],
      by decide, by decide, by decide, by decide, by decide, by decide⟩
  · exact ((hescape .ascii "a\\nb" 1 3).refused_iff _).2 ⟨_, hvalid, rfl⟩

end Evidence

end LexFault
