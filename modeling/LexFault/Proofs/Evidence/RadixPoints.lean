import LexFault.Proofs.Evidence.Conditions
import LexFault.Proofs.Lexeme.Reading

/-!
# Numbers cut at their points

A text with `k` points is cut by them into `k + 1` pieces (`length_pieces`). Two points stand side by
side just if a piece with a point on either side is empty (`hasRange_iff`), and a digit stands in one of
the pieces if it stands in the text (`hasDigit_iff`). So the three conditions on a number with several
radix points, which scan the text one after the other, can be read off from its pieces
(`several_points_by_pieces`).
-/

namespace LexFault

open Condition Text TextUnit

namespace Number

/-- The pieces of a text between its points. -/
def pieces (t : List Char) : List (List Char) := t.splitOn '.'

/-- The pieces that have a point on either side. -/
def innerPieces (t : List Char) : List (List Char) := (pieces t).tail.dropLast

variable {c : Char} {t p : List Char} {ps : List (List Char)}

/-! ## Cutting at the points -/

theorem pieces_point (t : List Char) : pieces ('.' :: t) = [] :: pieces t :=
  List.splitOn_cons_eq_if_modifyHead '.' t

theorem pieces_cons (hc : c ≠ '.') (t : List Char) :
    pieces (c :: t) = (pieces t).modifyHead (c :: ·) := by
  unfold pieces
  rw [List.splitOn_cons_eq_if_modifyHead, if_neg (by simpa using hc)]

theorem exists_pieces (t : List Char) : ∃ p ps, pieces t = p :: ps :=
  List.exists_cons_of_ne_nil (List.splitOn_ne_nil '.' t)

theorem length_pieces (t : List Char) : (pieces t).length = radixPoints t + 1 := by
  induction t with
  | nil => rfl
  | cons c t ih =>
    unfold radixPoints at ih ⊢
    rw [List.countP_cons, is_char]
    by_cases hc : c = '.'
    · subst hc
      rw [pieces_point, List.length_cons, ih]
      rfl
    · rw [pieces_cons hc, List.length_modifyHead, ih]
      simp [hc]

example : pieces ".1..2".toList = [[], ['1'], [], ['2']] := by decide

/-- The pieces hold all of the text but the points. -/
theorem flatten_pieces (t : List Char) : (pieces t).flatten = t.filter (· ≠ '.') := by
  induction t with
  | nil => rfl
  | cons c t ih =>
    obtain ⟨p, ps, hp⟩ := exists_pieces t
    by_cases hc : c = '.'
    · subst hc
      rw [pieces_point, List.flatten_cons, ih]
      rfl
    · rw [pieces_cons hc, hp, List.filter_cons_of_pos (by simpa using hc), ← ih, hp]
      rfl

theorem hasDigit_iff (t : List Char) :
    hasDigit (utf8 t) = true ↔ ∃ p ∈ pieces t, ∃ c ∈ p, c.isDigit = true := by
  have hmem : ∀ c : Char, c.isDigit = true → (c ∈ t ↔ c ∈ (pieces t).flatten) := by
    intro c hc
    have hne : c ≠ '.' := by
      rintro rfl
      cases hc
    rw [flatten_pieces, List.mem_filter, and_iff_left (by simpa using hne)]
  rw [hasDigit, agree_isDigit.any_utf8, List.any_eq_true]
  simp only [isDigit_char]
  constructor
  · rintro ⟨c, hc, hdigit⟩
    obtain ⟨p, hp, hcp⟩ := List.mem_flatten.1 ((hmem c hdigit).1 hc)
    exact ⟨p, hp, c, hcp, hdigit⟩
  · rintro ⟨p, hp, c, hcp, hdigit⟩
    exact ⟨c, (hmem c hdigit).2 (List.mem_flatten.2 ⟨p, hp, hcp⟩), hdigit⟩

/-! ## Points side by side -/

theorem hasRange_cons (c : Char) (t : List Char) :
    hasRange (c :: t) = true ↔ (c = '.' ∧ t.head? = some '.') ∨ hasRange t = true := by
  have hpair : (is '.' c && t.head?.any (is '.')) = true ↔ c = '.' ∧ t.head? = some '.' := by
    cases t <;> simp [is_char]
  unfold hasRange
  rw [countAdjacent_cons]
  by_cases h : c = '.' ∧ t.head? = some '.'
  · rw [if_pos (hpair.2 h), decide_eq_true_eq]
    exact iff_of_true (by omega) (.inl h)
  · rw [if_neg (mt hpair.1 h)]
    simp [h]

/-- A text starts with a point just if an empty piece comes first, but not alone. -/
theorem head?_eq_point_iff (h : pieces t = p :: ps) : t.head? = some '.' ↔ p = [] ∧ ps ≠ [] := by
  cases t with
  | nil => cases h; simp
  | cons c t =>
    obtain ⟨q, qs, hq⟩ := exists_pieces t
    by_cases hc : c = '.'
    · subst hc
      rw [pieces_point, hq] at h
      cases h
      simp
    · rw [pieces_cons hc, hq] at h
      cases h
      simp [hc]

theorem nil_mem_dropLast_cons : [] ∈ (p :: ps).dropLast ↔ (p = [] ∧ ps ≠ []) ∨ [] ∈ ps.dropLast := by
  cases ps with
  | nil => simp
  | cons q ps => simp [eq_comm]

theorem hasRange_iff (t : List Char) : hasRange t = true ↔ [] ∈ innerPieces t := by
  unfold innerPieces
  -- A point in front makes the first piece an inner one, unless it is also the last; any other
  -- character leaves the inner pieces as they are.
  induction t with
  | nil => decide
  | cons c t ih =>
    obtain ⟨p, ps, hp⟩ := exists_pieces t
    rw [hp, List.tail_cons] at ih
    rw [hasRange_cons, head?_eq_point_iff hp, ih]
    by_cases hc : c = '.'
    · subst hc
      rw [pieces_point, hp, List.tail_cons, nil_mem_dropLast_cons]
      simp
    · rw [pieces_cons hc, hp]
      simp [hc]

end Number

namespace Evidence

open Number

/-- The evidence of several radix points is decided by the pieces between the points, of which there are
`k + 1`. It holds just if there are two points or more, no piece between two points is empty, and some
piece has a digit; the help text then counts `k` points. Else it fails for the first of these that does
not hold. -/
theorem several_points_by_pieces (t : String) (span : Span) :
    ∃ k, (pieces t.toList).length = k + 1 ∧
      (Accepted (.severalRadixPoints t) span ↔
        2 ≤ k ∧ [] ∉ innerPieces t.toList ∧
          ∃ p ∈ pieces t.toList, ∃ c ∈ p, c.isDigit = true) ∧
      (∀ d, Diagnostic.make (.severalRadixPoints t) span = .ok d ↔
        Accepted (.severalRadixPoints t) span ∧
          d =
            { kind := .severalRadixPoints
              span
              help := "floating-point literal `" ++ t ++ "` has " ++ k.repr ++
                " radix-points: it must have at most one." }) ∧
      ∀ f, Diagnostic.make (.severalRadixPoints t) span = .error f ↔
        (k < 2 ∧ f = .unmet "radix_points > 1") ∨
        (2 ≤ k ∧ [] ∈ innerPieces t.toList ∧ f = .unmet "!literal.contains(\"..\")") ∨
        (2 ≤ k ∧ [] ∉ innerPieces t.toList ∧
          (¬∃ p ∈ pieces t.toList, ∃ c ∈ p, c.isDigit = true) ∧
            f = .unmet "literal.bytes().any(|c| c.is_ascii_digit())") := by
  refine ⟨radixPoints t.toList, length_pieces _, ?_, fun d => ?_, fun f => ?_⟩
  · simp [accepted_iff_conditions, conditions, ← hasRange_iff,
      ← hasDigit_iff, Nat.succ_le_iff]
  · constructor
    · intro h
      obtain ⟨hkind, hspan, hhelp⟩ := Diagnostic.make_eq_ok_iff.1 h
      obtain ⟨-, hhelp⟩ := examine_severalRadixPoints.1 hhelp
      obtain ⟨kind, _, help⟩ := d
      cases hkind
      cases hspan
      cases hhelp
      exact ⟨⟨_, h⟩, rfl⟩
    · rintro ⟨⟨d, h⟩, rfl⟩
      obtain ⟨-, -, hhelp⟩ := Diagnostic.make_eq_ok_iff.1 h
      exact Diagnostic.make_eq_ok_iff.2
        ⟨rfl, rfl, examine_severalRadixPoints.2 ⟨(examine_severalRadixPoints.1 hhelp).1, rfl⟩⟩
  · have hfew : radixPoints t.toList < 2 ↔ ¬1 < radixPoints t.toList := by omega
    have hseveral : pointsSeveral.text = "radix_points > 1" := rfl
    have hapart : pointsApart.text = "!literal.contains(\"..\")" := rfl
    have hpresent : digitPresent.text = "literal.bytes().any(|c| c.is_ascii_digit())" := rfl
    rw [Diagnostic.make_eq_error_iff, ← hasRange_iff, ← hasDigit_iff, hfew]
    simp only [conditions, firstUnmet_cons_eq_some, firstUnmet_nil]
    by_cases hpoints : 1 < radixPoints t.toList
    · cases hrange : hasRange t.toList <;> cases hdigit : hasDigit (utf8 t.toList) <;>
        simp [hpoints, Nat.succ_le_iff, hapart, hpresent]
    · simp [hpoints, Nat.succ_le_iff, hseveral]

end Evidence

end LexFault
