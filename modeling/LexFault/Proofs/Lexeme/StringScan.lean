import LexFault.Proofs.Lexeme.StringEnd
import Mathlib.Computability.DFA

/-!
# A string literal read from left to right

`isTerminated` looks for the closing quote from the back of the bytes and counts the backslashes in
front of it backwards. A reader that goes forward over what follows the opening quote needs three
states instead, and it is the automaton `bodyReader`. Its run over a text tells the parity of the
backslashes at the end of it (`eval_bodyReader_eq_inEscape_iff`), so that both ways of reading find the
same literals closed (`isTerminated_iff_read`).
-/

namespace LexFault.StringLiteral

open Text TextUnit

/-! ## The reader -/

/-- Where a reader is in the body of a literal that is not raw. -/
inductive Place where
  /-- Neither of the other two. -/
  | inBody
  /-- Right behind a backslash that no other one escapes. -/
  | inEscape
  /-- Right behind a double quote that no backslash escapes. -/
  | behindQuote
  deriving DecidableEq

/-- Where one more character leads to. -/
def Place.next : Place → Char → Place
  | .inEscape, _ => .inBody
  | _, '\\' => .inEscape
  | _, '"' => .behindQuote
  | _, _ => .inBody

/-- The reader of what follows the opening quote of a literal that is not raw. -/
def bodyReader : DFA Char Place where
  step := Place.next
  start := .inBody
  accept := {.behindQuote}

theorem Place.next_eq_inEscape_iff {p : Place} {c : Char} :
    p.next c = .inEscape ↔ p ≠ .inEscape ∧ c = '\\' := by
  fun_cases Place.next p c with
  | case1 c => simp
  | case2 p hp => simpa using hp
  | case3 p hp => simp
  | case4 p c hp hbackslash hquote => simpa using fun _ => hbackslash

theorem Place.next_eq_behindQuote_iff {p : Place} {c : Char} :
    p.next c = .behindQuote ↔ p ≠ .inEscape ∧ c = '"' := by
  fun_cases Place.next p c with
  | case1 c => simp
  | case2 p hp => simp
  | case3 p hp => simpa using hp
  | case4 p c hp hbackslash hquote => simpa using fun _ => hquote

/-! ## What a run tells -/

theorem eval_bodyReader_concat (t : List Char) (c : Char) :
    bodyReader.eval (t ++ [c]) = (bodyReader.eval t).next c :=
  bodyReader.eval_append_singleton t c

/-- The reader is inside an escape just where the run of backslashes behind it is odd. -/
theorem eval_bodyReader_eq_inEscape_iff {t : List Char} :
    bodyReader.eval t = .inEscape ↔ insideEscape t = true := by
  induction t using List.reverseRecOn with
  | nil => simp [insideEscape, bodyReader]
  | append_singleton t c ih =>
    rw [eval_bodyReader_concat, Place.next_eq_inEscape_iff, insideEscape_concat, Ne, ih]
    simp

theorem mem_accepts_bodyReader_iff {t : List Char} :
    t ∈ bodyReader.accepts ↔ ∃ body, t = body ++ ['"'] ∧ insideEscape body = false := by
  rw [DFA.mem_accepts]
  show bodyReader.eval t = .behindQuote ↔ _
  cases t using List.reverseRecOn with
  | nil => simp [bodyReader]
  | append_singleton t c =>
    rw [eval_bodyReader_concat, Place.next_eq_behindQuote_iff, Ne, eval_bodyReader_eq_inEscape_iff,
      Bool.not_eq_true]
    constructor
    · rintro ⟨hbody, rfl⟩
      exact ⟨t, rfl, hbody⟩
    · rintro ⟨body, h, hbody⟩
      obtain ⟨rfl, hc⟩ := List.append_inj' h rfl
      exact ⟨hbody, List.singleton_inj.1 hc⟩

/-! ## The two ways of reading -/

/-- A text is a closed literal if and only if, behind its first double quote, either the lead makes it
raw and it ends in a quote with just the hashes of the lead, or the lead does not and the reader goes
through the rest up to a quote that is not escaped. At the end of any body, the count of backslashes
from the back agrees with the reader on whether a quote there would be escaped. -/
theorem isTerminated_iff_read (t : String) :
    (isTerminated t = true ↔
      ∃ lead rest, t.toList = lead ++ '"' :: rest ∧ '"' ∉ lead ∧
        ((∃ n, RawLead lead n ∧ ∃ body, rest = body ++ '"' :: List.replicate n '#') ∨
          (∀ n, ¬ RawLead lead n) ∧ rest ∈ bodyReader.accepts)) ∧
      ∀ body : List Char, escapesNext (utf8 body) = true ↔ bodyReader.eval body = .inEscape := by
  constructor
  · rw [isTerminated, isClosed_utf8, isClosed_iff]
    constructor
    · rintro ⟨lead, body, tail, ht, hlead, ⟨n, hraw, rfl⟩ | ⟨hraw, rfl, hbody⟩⟩
      · exact ⟨lead, _, ht, hlead, Or.inl ⟨n, hraw, body, rfl⟩⟩
      · exact ⟨lead, _, ht, hlead, Or.inr ⟨hraw, mem_accepts_bodyReader_iff.2 ⟨body, rfl, hbody⟩⟩⟩
    · rintro ⟨lead, rest, ht, hlead, ⟨n, hraw, body, rfl⟩ | ⟨hraw, hrest⟩⟩
      · exact ⟨lead, body, _, ht, hlead, Or.inl ⟨n, hraw, rfl⟩⟩
      · obtain ⟨body, rfl, hbody⟩ := mem_accepts_bodyReader_iff.1 hrest
        exact ⟨lead, body, [], ht, hlead, Or.inr ⟨hraw, rfl, hbody⟩⟩
  · intro body
    rw [eval_bodyReader_eq_inEscape_iff, escapesNext, agree_backslash.countTrailing_utf8,
      ← escapesNext_eq_insideEscape, escapesNext]

end LexFault.StringLiteral
