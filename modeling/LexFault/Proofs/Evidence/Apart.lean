import LexFault.Proofs.Evidence
import LexFault.Proofs.Lexeme.Reading
import Mathlib.Data.Set.BooleanAlgebra
import Mathlib.Data.Set.Disjoint
import Mathlib.Order.CompletePartialOrder

/-!
# Kinds that no lexeme has in common

A lexeme that one kind of diagnostic can be made from cannot be passed off as one of another kind. For
six of the kinds the first one or two characters of the lexeme give the kind away (`startKind`), so
that any two of them have no lexeme in common; a number with several radix points has a digit and a
point, which no unknown token and no raw identifier has. An unterminated string, on the other hand, is
any text that is not a closed literal, which takes in all texts without a double quote
(`kinds_apart`).
-/

namespace LexFault

open Text TextUnit

/-! ## The characters of a lexeme -/

namespace Number

/-- Whether a character may stand in a number whose exponent lacks digits. -/
def isExponentUnit (c : Char) : Bool := isDigit c || is '.' c || isMarker c || isSign c

theorem isExponentUnit_of_mem {t : List Char} {c : Char} (h : lacksExponentDigits t = true)
    (hc : c ∈ t) : isExponentUnit c = true := by
  have ht := (List.takeWhile_append_dropWhile (p := fun a => isDigit a || is '.' a) (l := t)).symm
  have hmantissa : ∀ a ∈ t.takeWhile (fun a => isDigit a || is '.' a), isExponentUnit a = true := by
    intro a ha
    have := List.all_eq_true.1 List.all_takeWhile a ha
    simp [isExponentUnit, this]
  unfold lacksExponentDigits at h
  split at h
  · next m hm =>
    rw [ht, hm, List.mem_append, List.mem_singleton] at hc
    rcases hc with hc | rfl
    · exact hmantissa c hc
    · simp [isExponentUnit, h]
  · next m s hm =>
    rw [Bool.and_eq_true] at h
    rw [ht, hm, List.mem_append, List.mem_pair] at hc
    rcases hc with hc | rfl | rfl
    · exact hmantissa c hc
    · simp [isExponentUnit, h]
    · simp [isExponentUnit, h]
  · cases h

theorem canStart_of_isExponentUnit {c : Char} (h : isExponentUnit c = true) :
    Token.canStart c = true := by
  simp only [isExponentUnit, isDigit, isMarker, isSign, within, is, Bool.or_eq_true,
    Bool.and_eq_true, decide_eq_true_eq, beq_iff_eq, Char.reduceToNat] at h
  simp only [Token.canStart, within, is, Bool.and_eq_true, decide_eq_true_eq, Bool.not_eq_true',
    beq_eq_false_iff_ne, Char.reduceToNat]
  omega

theorem canStart_of_isDigit {c : Char} (h : isDigit c = true) : Token.canStart c = true :=
  canStart_of_isExponentUnit (by simp [isExponentUnit, h])

end Number

theorem Identifier.exists_of_isReservedRaw {identifier : String}
    (h : isReservedRaw identifier = true) :
    ∃ name ∈ reserved, identifier.toList = 'r' :: '#' :: name.toList := by
  obtain ⟨name, hname, heq⟩ := List.any_eq_true.1 h
  rw [beq_iff_eq] at heq
  exact ⟨name, hname, by rw [heq, String.toList_append]; rfl⟩

theorem Token.any_canStart_eq_false_iff {t : List Char} :
    (utf8 t).any canStart = false ↔ ∀ c ∈ t, canStart c = false := by
  rw [agree_canStart.any_utf8, List.any_eq_false]
  simp

/-! ## What the start of a lexeme gives away -/

/-- The kind that the first one or two characters of a text speak for. -/
def startKind : List Char → Kind
  | '/' :: _ => .unterminatedComment
  | 'r' :: _ => .reservedIdentifier
  | '0' :: 'b' :: _ => .unknownDigit .binary
  | '0' :: 'o' :: _ => .unknownDigit .octal
  | c :: _ => if Token.canStart c then .missingExponentDigits else .unknownToken
  | [] => .unknownToken

theorem startKind_of_lacksExponentDigits {t : List Char}
    (h : Number.lacksExponentDigits t = true) : startKind t = .missingExponentDigits := by
  have hunit : ∀ c ∈ t, Number.isExponentUnit c = true := fun c => Number.isExponentUnit_of_mem h
  -- None of the characters that would give another kind away stands in such a number.
  fun_cases startKind t with
  | case1 => exact absurd (hunit '/' (by simp)) (by decide)
  | case2 => exact absurd (hunit 'r' (by simp)) (by decide)
  | case3 => exact absurd (hunit 'b' (by simp)) (by decide)
  | case4 => exact absurd (hunit 'o' (by simp)) (by decide)
  | case5 c => rfl
  | case6 c t _ _ _ _ hc =>
    exact absurd (Number.canStart_of_isExponentUnit (hunit c (by simp))) hc
  | case7 => cases h

theorem startKind_of_not_canStart {t : List Char} (h : ∀ c ∈ t, Token.canStart c = false) :
    startKind t = .unknownToken := by
  fun_cases startKind t with
  | case1 => exact absurd (h '/' (by simp)) (by decide)
  | case2 => exact absurd (h 'r' (by simp)) (by decide)
  | case3 => exact absurd (h 'b' (by simp)) (by decide)
  | case4 => exact absurd (h 'o' (by simp)) (by decide)
  | case5 c t _ _ _ _ hc => exact absurd hc (by simp [h c (by simp)])
  | case6 c => rfl
  | case7 => rfl

theorem startKind_of_leads {radix : Radix} {literal : String} (h : radix.leads literal = true) :
    startKind literal.toList = .unknownDigit radix := by
  obtain ⟨rest, hrest⟩ := List.isPrefixOf_iff_prefix.1 h
  rw [← hrest]
  cases radix with
  | binary => rfl
  | octal => rfl

theorem startKind_of_opens {t : List Char} (h : Comment.opens t = true) :
    startKind t = .unterminatedComment := by
  obtain ⟨u, rfl⟩ := Comment.opens_iff.1 h
  rfl

/-- The kinds that the start of a lexeme gives away. -/
def startKinds : List Kind :=
  [.missingExponentDigits, .reservedIdentifier, .unknownDigit .binary, .unknownDigit .octal,
    .unterminatedComment, .unknownToken]

/-! ## The lexemes of a kind -/

namespace Kind

/-- A text as evidence for a kind, with the offsets of the fault where the kind asks for them. -/
def evidence : Kind → String → Nat → Nat → Evidence
  | .missingExponentDigits, t, _, _ => .missingExponentDigits t
  | .severalRadixPoints, t, _, _ => .severalRadixPoints t
  | .reservedIdentifier, t, _, _ => .reservedIdentifier t
  | .unknownDigit radix, t, start, _ => .unknownDigit radix t start
  | .unknownEscape grammar, t, start, stop => .unknownEscape grammar t start stop
  | .unknownToken, t, _, _ => .unknownToken t
  | .unterminatedComment, t, _, _ => .unterminatedComment t
  | .unterminatedString, t, _, _ => .unterminatedString t

/-- The texts that a diagnostic of a kind can be made from, with some offsets or other. -/
def lexemes (kind : Kind) (span : Span) : Set String :=
  {t | ∃ start stop, (kind.evidence t start stop).Accepted span}

variable {t : String} {span : Span} {radix : Radix} {kind : Kind}

theorem exists_examine_of_mem (ht : t ∈ kind.lexemes span) :
    ∃ start stop help, (kind.evidence t start stop).examine = .ok help := by
  obtain ⟨start, stop, haccepted⟩ := ht
  exact ⟨start, stop, Evidence.accepted_iff.1 haccepted⟩

theorem lacksExponentDigits_of_mem (ht : t ∈ missingExponentDigits.lexemes span) :
    Number.lacksExponentDigits t.toList = true := by
  obtain ⟨_, _, help, hhelp⟩ := exists_examine_of_mem ht
  exact (Evidence.examine_missingExponentDigits.1 hhelp).1.2

theorem point_and_digit_of_mem (ht : t ∈ severalRadixPoints.lexemes span) :
    '.' ∈ t.toList ∧ ∃ c ∈ t.toList, isDigit c = true := by
  obtain ⟨_, _, help, hhelp⟩ := exists_examine_of_mem ht
  obtain ⟨hpoints, -, hdigit⟩ := (Evidence.examine_severalRadixPoints.1 hhelp).1
  rw [Number.hasDigit, Number.agree_isDigit.any_utf8, List.any_eq_true] at hdigit
  obtain ⟨c, hc, hpoint⟩ := List.countP_pos_iff.1 (Nat.zero_lt_of_lt hpoints)
  rw [is_char, decide_eq_true_eq] at hpoint
  exact ⟨hpoint ▸ hc, hdigit⟩

theorem exists_reserved_of_mem (ht : t ∈ reservedIdentifier.lexemes span) :
    ∃ name ∈ Identifier.reserved, t.toList = 'r' :: '#' :: name.toList := by
  obtain ⟨_, _, help, hhelp⟩ := exists_examine_of_mem ht
  exact Identifier.exists_of_isReservedRaw (Evidence.examine_reservedIdentifier.1 hhelp).1.2

theorem leads_of_mem (ht : t ∈ (unknownDigit radix).lexemes span) : radix.leads t = true := by
  obtain ⟨_, _, help, hhelp⟩ := exists_examine_of_mem ht
  exact (Evidence.examine_unknownDigit.1 hhelp).1

theorem opens_of_mem (ht : t ∈ unterminatedComment.lexemes span) :
    Comment.opens t.toList = true := by
  obtain ⟨_, _, haccepted⟩ := ht
  exact (Comment.accepted_iff_lt.1 haccepted).1

theorem not_canStart_of_mem (ht : t ∈ unknownToken.lexemes span) :
    ∀ c ∈ t.toList, Token.canStart c = false := by
  obtain ⟨_, _, help, hhelp⟩ := exists_examine_of_mem ht
  exact Token.any_canStart_eq_false_iff.1 (Evidence.examine_unknownToken.1 hhelp).1

theorem startKind_of_mem (hkind : kind ∈ startKinds) (ht : t ∈ kind.lexemes span) :
    startKind t.toList = kind := by
  cases kind with
  | missingExponentDigits =>
    exact startKind_of_lacksExponentDigits (lacksExponentDigits_of_mem ht)
  | reservedIdentifier =>
    obtain ⟨name, -, hname⟩ := exists_reserved_of_mem ht
    rw [hname]
    rfl
  | unknownDigit radix => exact startKind_of_leads (leads_of_mem ht)
  | unterminatedComment => exact startKind_of_opens (opens_of_mem ht)
  | unknownToken => exact startKind_of_not_canStart (not_canStart_of_mem ht)
  | severalRadixPoints => simp [startKinds] at hkind
  | unknownEscape grammar => simp [startKinds] at hkind
  | unterminatedString => simp [startKinds] at hkind

theorem nonempty_lexemes (hkind : kind ∈ startKinds) : (kind.lexemes span).Nonempty := by
  have hmem : ∀ t start stop help, (kind.evidence t start stop).examine = .ok help →
      (kind.lexemes span).Nonempty := fun t start stop help h =>
    ⟨t, start, stop, Evidence.accepted_iff.2 ⟨help, h⟩⟩
  simp only [startKinds, List.mem_cons, List.not_mem_nil, or_false] at hkind
  rcases hkind with rfl | rfl | rfl | rfl | rfl | rfl
  · exact hmem "1e" 0 0 _ rfl
  · exact hmem "r#self" 0 0 _ rfl
  · exact hmem "0b2" 2 0 _ rfl
  · exact hmem "0o8" 2 0 _ rfl
  · exact hmem "/*" 0 0 _ rfl
  · exact hmem "~" 0 0 _ rfl

/-! ## Kinds apart, and a kind that takes in others -/

theorem disjoint_lexemes {k k' : Kind} {span span' : Span} (hk : k ∈ startKinds)
    (hk' : k' ∈ startKinds) (hne : k ≠ k') : Disjoint (k.lexemes span) (k'.lexemes span') := by
  rw [Set.disjoint_left]
  intro t ht ht'
  exact hne ((startKind_of_mem hk ht).symm.trans (startKind_of_mem hk' ht'))

end Kind

/-- A text without a double quote is no closed literal. -/
theorem StringLiteral.isTerminated_eq_false {t : String} (h : '"' ∉ t.toList) :
    isTerminated t = false := by
  rw [isTerminated, isClosed_utf8, ← Bool.not_eq_true, isClosed_iff]
  rintro ⟨lead, body, tail, ht, -, -⟩
  exact h (by simp [ht])

theorem mem_lexemes_unterminatedString {t : String} {span : Span} (h : '"' ∉ t.toList) :
    t ∈ Kind.unterminatedString.lexemes span :=
  ⟨0, 0, Evidence.accepted_iff.2
    ⟨_, Evidence.examine_unterminatedString.2 ⟨StringLiteral.isTerminated_eq_false h, rfl⟩⟩⟩

/-- Each of the kinds that the start of a lexeme gives away has lexemes, and no two of them have one in
common; nor has a number with several radix points any with a raw identifier or an unknown token. The
lexemes of three kinds, in which no double quote can stand, are unterminated strings as well. -/
theorem kinds_apart (span span' : Span) :
    (startKinds.Forall fun k => (k.lexemes span).Nonempty) ∧
      (startKinds.Pairwise fun k k' => Disjoint (k.lexemes span) (k'.lexemes span')) ∧
        Disjoint (Kind.severalRadixPoints.lexemes span) (Kind.reservedIdentifier.lexemes span') ∧
          Disjoint (Kind.severalRadixPoints.lexemes span) (Kind.unknownToken.lexemes span') ∧
            Kind.missingExponentDigits.lexemes span ⊆ Kind.unterminatedString.lexemes span' ∧
              Kind.reservedIdentifier.lexemes span ⊆ Kind.unterminatedString.lexemes span' ∧
                Kind.unknownToken.lexemes span ⊆ Kind.unterminatedString.lexemes span' := by
  have hnodup : startKinds.Nodup := by decide
  refine ⟨?_, ?_, ?_, ?_, ?_, ?_, ?_⟩
  · exact List.forall_iff_forall_mem.2 fun k hk => Kind.nonempty_lexemes hk
  · exact hnodup.imp_of_mem fun hk hk' hne => Kind.disjoint_lexemes hk hk' hne
  · rw [Set.disjoint_left]
    intro t ht ht'
    obtain ⟨name, hname, heq⟩ := Kind.exists_reserved_of_mem ht'
    have hpoint : ∀ name ∈ Identifier.reserved, '.' ∉ 'r' :: '#' :: name.toList := by decide
    exact hpoint name hname (heq ▸ (Kind.point_and_digit_of_mem ht).1)
  · rw [Set.disjoint_left]
    intro t ht ht'
    obtain ⟨-, c, hc, hdigit⟩ := Kind.point_and_digit_of_mem ht
    have := Kind.not_canStart_of_mem ht' c hc
    rw [Number.canStart_of_isDigit hdigit] at this
    cases this
  · intro t ht
    refine mem_lexemes_unterminatedString fun hquote => ?_
    exact absurd (Number.isExponentUnit_of_mem (Kind.lacksExponentDigits_of_mem ht) hquote)
      (by decide)
  · intro t ht
    obtain ⟨name, hname, heq⟩ := Kind.exists_reserved_of_mem ht
    have hquote : ∀ name ∈ Identifier.reserved, '"' ∉ 'r' :: '#' :: name.toList := by decide
    exact mem_lexemes_unterminatedString (heq ▸ hquote name hname)
  · intro t ht
    refine mem_lexemes_unterminatedString fun hquote => ?_
    exact absurd (Kind.not_canStart_of_mem ht '"' hquote) (by decide)

end LexFault
