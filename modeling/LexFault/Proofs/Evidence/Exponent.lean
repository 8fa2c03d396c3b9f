import LexFault.Proofs.Evidence
import Mathlib.Computability.RegularExpressions

/-!
# Exponents without digits

The literals whose exponent lacks its digits are those of a regular expression, `bareExponent`, which
has to match all of the literal. Digits and points are no markers, so there is only one way to match: all
in front of the first marker, the marker, and at most a sign (`mem_bareExponent`). The check that runs
reads the literal in this way (`lacksExponentDigits_iff`).

The split at the first marker is unique, so what is appended to such a literal is appended behind the
marker. It leaves the literal without digits only if it is the one sign that may still follow
(`Bare.append_iff`).
-/

namespace LexFault

open RegularExpression Text TextUnit

namespace Number

variable {c m : Char} {cs s t u v : List Char}

/-! ## The pattern -/

/-- Any one of some characters. -/
def oneOf (cs : List Char) : RegularExpression Char := (cs.map char).sum

/-- Digits and points, a marker, and at most a sign. -/
def bareExponent : RegularExpression Char :=
  (oneOf "0123456789.".toList).star * oneOf ['e', 'E'] * (1 + oneOf ['+', '-'])

theorem mem_oneOf : t ∈ (oneOf cs).matches' ↔ ∃ c ∈ cs, t = [c] := by
  induction cs with
  | nil => simp [oneOf]
  | cons c cs ih =>
    have hcons : oneOf (c :: cs) = char c + oneOf cs := List.sum_cons
    rw [hcons, matches'_add, Language.mem_add, ih, matches'_char, List.exists_mem_cons_iff]
    exact or_congr_left Set.mem_singleton_iff

theorem mem_star_oneOf : t ∈ (oneOf cs).star.matches' ↔ ∀ c ∈ t, c ∈ cs := by
  rw [matches'_star, Language.mem_kstar]
  simp only [mem_oneOf]
  constructor
  · rintro ⟨ls, rfl, hls⟩ c hc
    obtain ⟨l, hl, hcl⟩ := List.mem_flatten.1 hc
    obtain ⟨d, hd, rfl⟩ := hls l hl
    rwa [List.mem_singleton.1 hcl]
  · intro h
    refine ⟨t.map fun c => [c], (List.flatMap_singleton' t).symm, ?_⟩
    simpa using h

/-! ## The reading at the first marker -/

/-- Digits and points before a marker, and at most a sign behind it. -/
structure Bare (s : List Char) (m : Char) (u : List Char) : Prop where
  plain : ∀ c ∈ s, c.isDigit = true ∨ c = '.'
  marker : m = 'e' ∨ m = 'E'
  sign : u = [] ∨ u = ['+'] ∨ u = ['-']

theorem mem_digits_point_iff : c ∈ "0123456789.".toList ↔ c.isDigit = true ∨ c = '.' := by
  constructor
  · intro hc
    have h : ("0123456789.".toList.all fun c => c.isDigit || c == '.') = true := by decide
    simpa using List.all_eq_true.1 h c hc
  · rintro (hc | rfl)
    · have h : ((List.range' 48 10).all fun n => "0123456789.".toList.contains (Char.ofNat n)) =
          true := by decide
      simp only [← isDigit_char, isDigit, within, Bool.and_eq_true, decide_eq_true_eq] at hc
      rw [← Char.ofNat_toNat c]
      exact List.contains_iff_mem.1
        (List.all_eq_true.1 h _ (List.mem_range'_1.2 ⟨hc.1, Nat.lt_succ_of_le hc.2⟩))
    · decide

theorem mem_bareExponent :
    t ∈ bareExponent.matches' ↔ ∃ s m u, t = s ++ m :: u ∧ Bare s m u := by
  simp only [bareExponent, matches'_mul, matches'_add, matches'_epsilon, Language.mem_mul,
    Language.mem_add, Language.mem_one, mem_star_oneOf, mem_oneOf, List.mem_pair,
    mem_digits_point_iff]
  constructor
  · rintro ⟨_, ⟨s, hs, _, ⟨m, hm, rfl⟩, rfl⟩, u, hu, rfl⟩
    refine ⟨s, m, u, by simp, hs, hm, hu.imp_right ?_⟩
    rintro ⟨_, rfl | rfl, rfl⟩
    · exact .inl rfl
    · exact .inr rfl
  · rintro ⟨s, m, u, rfl, hs, hm, hu⟩
    refine ⟨_, ⟨s, hs, _, ⟨m, hm, rfl⟩, rfl⟩, u, hu.imp_right ?_, by simp⟩
    rintro (rfl | rfl)
    · exact ⟨_, .inl rfl, rfl⟩
    · exact ⟨_, .inr rfl, rfl⟩

theorem isPlain_iff : (isDigit c || is '.' c) = true ↔ c.isDigit = true ∨ c = '.' := by
  simp [isDigit_char, is_char]

theorem isMarker_iff : isMarker c = true ↔ c = 'e' ∨ c = 'E' := by
  simp [isMarker, is_char]

theorem isSign_iff : isSign c = true ↔ c = '+' ∨ c = '-' := by
  simp [isSign, is_char]

theorem not_isPlain_of_isMarker (h : isMarker m = true) :
    (isDigit m || is '.' m) = false := by
  rcases isMarker_iff.1 h with rfl | rfl <;> rfl

theorem lacksExponentDigits_iff :
    lacksExponentDigits t = true ↔ ∃ s m u, t = s ++ m :: u ∧ Bare s m u := by
  constructor
  · intro h
    have hplain : ∀ c ∈ t.takeWhile (fun a => isDigit a || is '.' a),
        c.isDigit = true ∨ c = '.' := fun c hc =>
      isPlain_iff.1 (List.all_eq_true.1 List.all_takeWhile c hc)
    have ht := List.takeWhile_append_dropWhile (p := fun a => isDigit a || is '.' a) (l := t)
    unfold lacksExponentDigits at h
    split at h
    · next m hm =>
      rw [hm] at ht
      exact ⟨_, m, [], ht.symm, hplain, isMarker_iff.1 h, .inl rfl⟩
    · next m c hm =>
      rw [hm] at ht
      rw [Bool.and_eq_true] at h
      refine ⟨_, m, [c], ht.symm, hplain, isMarker_iff.1 h.1, .inr ?_⟩
      exact (isSign_iff.1 h.2).imp (congrArg fun c => [c]) (congrArg fun c => [c])
    · cases h
  · rintro ⟨s, m, u, rfl, hplain, hmarker, hsign⟩
    have hm := isMarker_iff.2 hmarker
    have hdrop : (s ++ m :: u).dropWhile (fun a => isDigit a || is '.' a) = m :: u := by
      rw [List.dropWhile_append_of_pos fun c hc => isPlain_iff.2 (hplain c hc),
        List.dropWhile_cons_of_neg (by simp [not_isPlain_of_isMarker hm])]
    unfold lacksExponentDigits
    rw [hdrop]
    rcases hsign with rfl | rfl | rfl
    · exact hm
    · simp [hm, isSign_iff]
    · simp [hm, isSign_iff]

/-! ## What is appended -/

theorem Bare.not_marker_of_mem (h : Bare s m u) (hc : c ∈ s) : isMarker c = false := by
  rw [← Bool.not_eq_true]
  intro hmarker
  have := not_isPlain_of_isMarker hmarker
  rw [isPlain_iff.2 (h.plain c hc)] at this
  cases this

theorem Bare.ne_marker_of_mem (h : Bare s m u) (hc : c ∈ s) : c ≠ 'e' ∧ c ≠ 'E' := by
  have hplain := mt isMarker_iff.2 (Bool.eq_false_iff.1 (h.not_marker_of_mem hc))
  exact not_or.1 hplain

/-- Behind a literal without exponent digits only one sign leaves it without them, and only where there
is no sign yet. -/
theorem Bare.append_iff (h : Bare s m u) (hv : v ≠ []) :
    (∃ s' m' u', s ++ m :: u ++ v = s' ++ m' :: u' ∧ Bare s' m' u') ↔
      u = [] ∧ (v = ['+'] ∨ v = ['-']) := by
  constructor
  · rintro ⟨s', m', u', heq, h'⟩
    rw [List.append_assoc, List.cons_append] at heq
    -- Both sides are split at their first marker, so they are split at the same one.
    obtain ⟨-, -, rfl⟩ := split_first_unique (p := isMarker) heq (isMarker_iff.2 h.marker)
      (isMarker_iff.2 h'.marker) (fun c => h.not_marker_of_mem) fun c => h'.not_marker_of_mem
    have hu' := h'.sign
    cases u with
    | nil => exact ⟨rfl, hu'.resolve_left hv⟩
    | cons c u =>
      obtain ⟨d, v, rfl⟩ := List.exists_cons_of_ne_nil hv
      simp at hu'
  · rintro ⟨rfl, hsign⟩
    exact ⟨s, m, v, by simp, h.plain, h.marker, .inr hsign⟩

theorem Bare.getLast?_iff (h : Bare s m u) :
    (s ++ m :: u).getLast? = some 'e' ∨ (s ++ m :: u).getLast? = some 'E' ↔ u = [] := by
  rcases h.sign with rfl | rfl | rfl
  · simpa using h.marker
  · simp
  · simp

end Number

namespace Evidence

open Number

theorem accepted_missingExponentDigits_iff {literal : String} {span : Span} :
    Accepted (.missingExponentDigits literal) span ↔
      ∃ s m u, literal.toList = s ++ m :: u ∧ Bare s m u := by
  simp only [accepted_iff, examine_missingExponentDigits, lacksExponentDigits_iff]
  constructor
  · rintro ⟨help, ⟨-, h⟩, -⟩
    exact h
  · intro h
    refine ⟨_, ⟨?_, h⟩, rfl⟩
    obtain ⟨s, m, u, heq, -⟩ := h
    rintro rfl
    simp at heq

/-- The literals whose exponent lacks digits are those that all of a regular expression matches: digits
and points before the first marker, and nothing or one sign behind it. They are unfinished: such a
literal with more behind it is one just if it ends at the marker and a single sign is added, and never
if a digit is. -/
theorem bare_exponent_language (span : Span) :
    (∀ t : String,
      (Accepted (.missingExponentDigits t) span ↔ t.toList ∈ bareExponent.matches') ∧
        (Accepted (.missingExponentDigits t) span ↔
          ∃ before marker behind, t.toList = before ++ marker :: behind ∧
            (marker = 'e' ∨ marker = 'E') ∧ (∀ c ∈ before, c ≠ 'e' ∧ c ≠ 'E') ∧
              (∀ c ∈ before, c.isDigit = true ∨ c = '.') ∧
                (behind = [] ∨ behind = ['+'] ∨ behind = ['-']))) ∧
      ∀ t u : String, Accepted (.missingExponentDigits t) span → u ≠ "" →
        (Accepted (.missingExponentDigits (t ++ u)) span ↔
          (t.toList.getLast? = some 'e' ∨ t.toList.getLast? = some 'E') ∧ (u = "+" ∨ u = "-")) ∧
          ((∃ c ∈ u.toList, c.isDigit = true) →
            ¬ Accepted (.missingExponentDigits (t ++ u)) span) := by
  refine ⟨fun t => ⟨?_, ?_⟩, fun t u ht hu => ?_⟩
  · rw [accepted_missingExponentDigits_iff, mem_bareExponent]
  · rw [accepted_missingExponentDigits_iff]
    constructor
    · rintro ⟨s, m, v, hsplit, h⟩
      exact ⟨s, m, v, hsplit, h.marker, fun c => h.ne_marker_of_mem, h.plain, h.sign⟩
    · rintro ⟨s, m, v, hsplit, hmarker, -, hplain, hsign⟩
      exact ⟨s, m, v, hsplit, hplain, hmarker, hsign⟩
  · obtain ⟨s, m, v, hsplit, hbare⟩ := accepted_missingExponentDigits_iff.1 ht
    have htext : ∀ w : String, u.toList = w.toList ↔ u = w := fun w => String.toList_inj
    have happend : Accepted (.missingExponentDigits (t ++ u)) span ↔
        (t.toList.getLast? = some 'e' ∨ t.toList.getLast? = some 'E') ∧ (u = "+" ∨ u = "-") := by
      rw [accepted_missingExponentDigits_iff, String.toList_append, hsplit,
        hbare.append_iff (mt (htext "").1 hu), hbare.getLast?_iff, ← htext, ← htext]
      rfl
    refine ⟨happend, ?_⟩
    rintro ⟨c, hc, hdigit⟩ haccepted
    rcases (happend.1 haccepted).2 with rfl | rfl
    · rw [List.mem_singleton.1 hc] at hdigit
      cases hdigit
    · rw [List.mem_singleton.1 hc] at hdigit
      cases hdigit

/-- Behind the marker of a literal with one point: a sign leaves it without digits, a sign and a digit
do not. -/
theorem bare_exponent_language_of_point :
    Accepted (.missingExponentDigits "1.5e") ⟨.origin, .origin, by decide⟩ ∧ "+" ≠ "" ∧
      Accepted (.missingExponentDigits ("1.5e" ++ "+")) ⟨.origin, .origin, by decide⟩ ∧
        ¬ Accepted (.missingExponentDigits ("1.5e" ++ "+7")) ⟨.origin, .origin, by decide⟩ := by
  have haccepted : Accepted (.missingExponentDigits "1.5e") ⟨.origin, .origin, by decide⟩ :=
    accepted_iff.2 ⟨_, rfl⟩
  obtain ⟨-, happend⟩ := bare_exponent_language ⟨.origin, .origin, by decide⟩
  have hsign : "+" ≠ "" := by decide
  refine ⟨haccepted, hsign, ?_, ?_⟩
  · exact (happend "1.5e" "+" haccepted hsign).1.2 ⟨.inl (by decide), .inl rfl⟩
  · exact (happend "1.5e" "+7" haccepted (by decide)).2 ⟨'7', by decide, by decide⟩

end Evidence

end LexFault
