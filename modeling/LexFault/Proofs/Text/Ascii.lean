import LexFault.Text.Bytes
import LexFault.Text.Search
import LexFault.Text.Unit
import Mathlib.Data.List.Induction

/-!
# Tests of ASCII on bytes and on characters

An ASCII character is one byte of the same number, and no byte of any other character is ASCII. So a
test that accepts ASCII only answers alike on a text and on its UTF-8 form. `Agree` pairs such tests;
the searches of `Text.Search` then break at the same places and count the same in both readings.
-/

namespace LexFault.Text

open TextUnit

/-! ## The bytes of a character -/

theorem utf8EncodeChar_cases (c : Char) :
    (∃ b, String.utf8EncodeChar c = [b] ∧ b.toNat = c.toNat) ∨
      128 ≤ c.toNat ∧ ∀ b ∈ String.utf8EncodeChar c, 128 ≤ b.toNat := by
  have hval : c.val.toNat = c.toNat := rfl
  fun_cases String.utf8EncodeChar c with
  | case1 v h =>
    refine Or.inl ⟨_, rfl, ?_⟩
    rw [UInt8.toNat_ofNat']
    omega
  | case2 v h _ =>
    refine Or.inr ⟨by omega, ?_⟩
    simp only [List.forall_mem_cons, UInt8.toNat_ofNat', List.not_mem_nil, false_implies,
      implies_true, and_true]
    omega
  | case3 v h _ _ =>
    refine Or.inr ⟨by omega, ?_⟩
    simp only [List.forall_mem_cons, UInt8.toNat_ofNat', List.not_mem_nil, false_implies,
      implies_true, and_true]
    omega
  | case4 v h _ _ =>
    refine Or.inr ⟨by omega, ?_⟩
    simp only [List.forall_mem_cons, UInt8.toNat_ofNat', List.not_mem_nil, false_implies,
      implies_true, and_true]
    omega

theorem utf8_append (s t : List Char) : utf8 (s ++ t) = utf8 s ++ utf8 t := List.flatMap_append

theorem utf8_cons (c : Char) (t : List Char) : utf8 (c :: t) = String.utf8EncodeChar c ++ utf8 t :=
  rfl

theorem utf8_concat (t : List Char) (c : Char) :
    utf8 (t ++ [c]) = utf8 t ++ String.utf8EncodeChar c := by
  rw [utf8_append, utf8_cons]
  exact congrArg _ (List.append_nil _)

/-! ## Tests that agree -/

/-- A test of bytes and a test of characters that agree on ASCII and accept nothing else. -/
structure Agree (p : UInt8 → Bool) (q : Char → Bool) : Prop where
  same : ∀ b c, b.toNat = c.toNat → p b = q c
  byte_ascii : ∀ b, p b = true → b.toNat < 128
  char_ascii : ∀ c, q c = true → c.toNat < 128

theorem agree_is {c : Char} (hc : c.toNat < 128) : Agree (is c) (is c) where
  same b d h := by
    show (b.toNat == c.toNat) = (d.toNat == c.toNat)
    rw [h]
  byte_ascii b h := by
    have : b.toNat = c.toNat := eq_of_beq h
    omega
  char_ascii d h := by
    have : d.toNat = c.toNat := eq_of_beq h
    omega

theorem agree_within {lo hi : Char} (hhi : hi.toNat < 128) : Agree (within lo hi) (within lo hi) where
  same b d h := by
    show (decide (lo.toNat ≤ b.toNat) && decide (b.toNat ≤ hi.toNat)) =
      (decide (lo.toNat ≤ d.toNat) && decide (d.toNat ≤ hi.toNat))
    rw [h]
  byte_ascii b h := by
    have : b.toNat ≤ hi.toNat := of_decide_eq_true (Bool.and_eq_true_iff.1 h).2
    omega
  char_ascii d h := by
    have : d.toNat ≤ hi.toNat := of_decide_eq_true (Bool.and_eq_true_iff.1 h).2
    omega

namespace Agree

variable {p p' : UInt8 → Bool} {q q' : Char → Bool} {c : Char}

theorem or (h : Agree p q) (h' : Agree p' q') :
    Agree (fun b => p b || p' b) (fun c => q c || q' c) where
  same b c hbc := by rw [h.same b c hbc, h'.same b c hbc]
  byte_ascii b hb := (Bool.or_eq_true_iff.1 hb).elim (h.byte_ascii b) (h'.byte_ascii b)
  char_ascii c hc := (Bool.or_eq_true_iff.1 hc).elim (h.char_ascii c) (h'.char_ascii c)

theorem and_not (h : Agree p q) (h' : Agree p' q') :
    Agree (fun b => p b && !p' b) (fun c => q c && !q' c) where
  same b c hbc := by rw [h.same b c hbc, h'.same b c hbc]
  byte_ascii b hb := h.byte_ascii b (Bool.and_eq_true_iff.1 hb).1
  char_ascii c hc := h.char_ascii c (Bool.and_eq_true_iff.1 hc).1

theorem encode_of_true (h : Agree p q) (hc : q c = true) :
    ∃ b, String.utf8EncodeChar c = [b] ∧ p b = true := by
  rcases utf8EncodeChar_cases c with ⟨b, hb, hbc⟩ | ⟨hlarge, -⟩
  · exact ⟨b, hb, (h.same b c hbc).trans hc⟩
  · have := h.char_ascii c hc
    omega

theorem encode_of_false (h : Agree p q) (hc : q c = false) :
    ∀ b ∈ String.utf8EncodeChar c, p b = false := by
  intro b hb
  rcases utf8EncodeChar_cases c with ⟨b', hb', hbc⟩ | ⟨-, hlarge⟩
  · rw [hb', List.mem_singleton] at hb
    subst hb
    exact (h.same b c hbc).trans hc
  · refine Bool.eq_false_iff.2 fun hp => ?_
    have := h.byte_ascii b hp
    have := hlarge b hb
    omega

end Agree

/-- The first byte of a character, with the other bytes if the character is not ASCII. -/
theorem utf8EncodeChar_eq_cons (c : Char) :
    ∃ b l, String.utf8EncodeChar c = b :: l ∧
      ∀ p q, Agree p q → p b = q c ∧ (q c = true → l = []) := by
  obtain ⟨b, l, hl⟩ := List.exists_cons_of_ne_nil (String.utf8EncodeChar_ne_nil (c := c))
  refine ⟨b, l, hl, fun p q h => ?_⟩
  cases hc : q c
  · exact ⟨h.encode_of_false hc b (by simp [hl]), by simp⟩
  · obtain ⟨b', hl', hb'⟩ := h.encode_of_true hc
    obtain ⟨rfl, rfl⟩ := List.cons.inj (hl.symm.trans hl')
    exact ⟨hb', fun _ => rfl⟩

/-- The last byte of a character, with the other bytes if the character is not ASCII. -/
theorem utf8EncodeChar_eq_concat (c : Char) :
    ∃ l b, String.utf8EncodeChar c = l ++ [b] ∧
      ∀ p q, Agree p q → p b = q c ∧ (q c = true → l = []) := by
  have hne : String.utf8EncodeChar c ≠ [] := String.utf8EncodeChar_ne_nil
  have hl := (List.dropLast_concat_getLast hne).symm
  refine ⟨_, _, hl, fun p q h => ?_⟩
  cases hc : q c
  · exact ⟨h.encode_of_false hc _ (List.getLast_mem hne), by simp⟩
  · obtain ⟨b', hl', hb'⟩ := h.encode_of_true hc
    simp only [hl', List.getLast_singleton, List.dropLast_singleton, implies_true, and_true]
    exact hb'

namespace Agree

variable {p p' : UInt8 → Bool} {q q' : Char → Bool}

/-! ## Searching both readings -/

theorem forall_utf8_iff (h : Agree p q) (t : List Char) :
    (∀ b ∈ utf8 t, p b = false) ↔ ∀ c ∈ t, q c = false := by
  constructor
  · intro hb c hc
    refine Bool.eq_false_iff.2 fun hq => ?_
    obtain ⟨b, hcb, hp⟩ := h.encode_of_true hq
    have := hb b (List.mem_flatMap.2 ⟨c, hc, by simp [hcb]⟩)
    rw [hp] at this
    cases this
  · intro hq b hb
    obtain ⟨c, hc, hbc⟩ := List.mem_flatMap.1 hb
    exact h.encode_of_false (hq c hc) b hbc

theorem any_utf8 (h : Agree p q) (t : List Char) : (utf8 t).any p = t.any q := by
  rw [Bool.eq_iff_iff, ← not_iff_not, Bool.not_eq_true, Bool.not_eq_true, List.any_eq_false,
    List.any_eq_false]
  simpa only [Bool.not_eq_true] using h.forall_utf8_iff t

theorem head?_any_utf8 (h : Agree p q) (t : List Char) : (utf8 t).head?.any p = t.head?.any q := by
  cases t with
  | nil => rfl
  | cons c t =>
    obtain ⟨b, l, hl, hb⟩ := utf8EncodeChar_eq_cons c
    rw [utf8_cons, hl]
    simp [(hb p q h).1]

theorem breakFirst_utf8 (h : Agree p q) (t : List Char) :
    breakFirst p (utf8 t) = (breakFirst q t).map fun (s, u) => (utf8 s, utf8 u) := by
  cases hbreak : breakFirst q t with
  | none =>
    rw [breakFirst_eq_none_iff] at hbreak
    exact breakFirst_eq_none_iff.2 ((h.forall_utf8_iff t).2 hbreak)
  | some su =>
    obtain ⟨c, rfl, hc, hs⟩ := breakFirst_eq_some_iff.1 hbreak
    obtain ⟨b, hcb, hb⟩ := h.encode_of_true hc
    refine breakFirst_eq_some_iff.2 ⟨b, ?_, hb, (h.forall_utf8_iff _).2 hs⟩
    rw [utf8_append, utf8_cons, hcb]
    rfl

theorem breakLast_utf8 (h : Agree p q) (t : List Char) :
    breakLast p (utf8 t) = (breakLast q t).map fun (s, u) => (utf8 s, utf8 u) := by
  cases hbreak : breakLast q t with
  | none =>
    rw [breakLast_eq_none_iff] at hbreak
    exact breakLast_eq_none_iff.2 ((h.forall_utf8_iff t).2 hbreak)
  | some su =>
    obtain ⟨c, rfl, hc, hu⟩ := breakLast_eq_some_iff.1 hbreak
    obtain ⟨b, hcb, hb⟩ := h.encode_of_true hc
    refine breakLast_eq_some_iff.2 ⟨b, ?_, hb, (h.forall_utf8_iff _).2 hu⟩
    rw [utf8_append, utf8_cons, hcb]
    rfl

theorem countTrailing_utf8 (h : Agree p q) (t : List Char) :
    countTrailing p (utf8 t) = countTrailing q t := by
  induction t using List.reverseRecOn with
  | nil => rfl
  | append_singleton t c ih =>
    obtain ⟨l, b, hl, hb⟩ := utf8EncodeChar_eq_concat c
    obtain ⟨hbc, hlone⟩ := hb p q h
    rw [utf8_concat, hl, ← List.append_assoc, countTrailing_concat, countTrailing_concat, hbc]
    cases hc : q c
    · rfl
    · rw [hlone hc, List.append_nil, ih]

theorem countAdjacent_append_of_false {l : List UInt8} (hl : ∀ b ∈ l, p b = false)
    (t : List UInt8) : countAdjacent p p' (l ++ t) = countAdjacent p p' t := by
  induction l with
  | nil => rfl
  | cons b l ih =>
    rw [List.forall_mem_cons] at hl
    rw [List.cons_append, countAdjacent_cons, hl.1, ih hl.2]
    simp

theorem countAdjacent_utf8 (h : Agree p q) (h' : Agree p' q') (t : List Char) :
    countAdjacent p p' (utf8 t) = countAdjacent q q' t := by
  induction t with
  | nil => rfl
  | cons c t ih =>
    rw [utf8_cons, countAdjacent_cons]
    cases hc : q c
    · rw [countAdjacent_append_of_false (h.encode_of_false hc), ih]
      simp
    · obtain ⟨b, hl, hb⟩ := h.encode_of_true hc
      rw [hl, List.singleton_append, countAdjacent_cons, hb, h'.head?_any_utf8, ih]

end Agree

end LexFault.Text
