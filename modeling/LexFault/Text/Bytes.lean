/-!
# Bytes and byte offsets

The UTF-8 form of a text, and what stands at a byte offset of it. An offset may lie past the end or
inside a character; `cut` then finds nothing. `cut_eq_some_iff` says that it finds exactly the split
of the text whose first part has that many bytes; `charAt?` and `slice?` are read off from it.
-/

namespace LexFault.Text

/-- The bytes of the UTF-8 form of a text. -/
def utf8 (t : List Char) : List UInt8 := t.flatMap String.utf8EncodeChar

/-- How many bytes the UTF-8 form of a text has. -/
def byteLength : List Char → Nat
  | [] => 0
  | c :: t => c.utf8Size + byteLength t

theorem byteLength_append (s t : List Char) :
    byteLength (s ++ t) = byteLength s + byteLength t := by
  induction s with
  | nil => simp [byteLength]
  | cons c s ih => simp [byteLength, ih, Nat.add_assoc]

theorem length_utf8 (t : List Char) : (utf8 t).length = byteLength t := by
  induction t with
  | nil => rfl
  | cons c t ih =>
    rw [utf8, List.flatMap_cons, List.length_append, String.length_utf8EncodeChar]
    exact congrArg _ ih

/-- The text before and from a byte offset, where the offset falls between two characters. -/
def cut : List Char → Nat → Option (List Char × List Char)
  | t, 0 => some ([], t)
  | [], _ + 1 => none
  | c :: t, n + 1 =>
    if c.utf8Size ≤ n + 1 then
      (cut t (n + 1 - c.utf8Size)).map fun (s, u) => (c :: s, u)
    else none

theorem cut_eq_some_iff {t s u : List Char} {n : Nat} :
    cut t n = some (s, u) ↔ t = s ++ u ∧ byteLength s = n := by
  fun_induction cut t n generalizing s u with
  | case1 t =>
    constructor
    · rintro ⟨⟩
      exact ⟨rfl, rfl⟩
    · rintro ⟨rfl, h⟩
      cases s with
      | nil => rfl
      | cons c s =>
        have := c.utf8Size_pos
        simp only [byteLength] at h
        omega
  | case2 n =>
    simp only [reduceCtorEq, List.nil_eq, List.append_eq_nil_iff, false_iff]
    rintro ⟨⟨rfl, -⟩, h⟩
    simp [byteLength] at h
  | case3 c t n h ih =>
    simp only [Option.map_eq_some_iff, Prod.mk.injEq, Prod.exists]
    constructor
    · rintro ⟨s', u', hc, rfl, rfl⟩
      obtain ⟨rfl, hn⟩ := ih.1 hc
      exact ⟨rfl, by simp only [byteLength]; omega⟩
    · rintro ⟨ht, hn⟩
      cases s with
      | nil => simp [byteLength] at hn
      | cons d s =>
        obtain ⟨rfl, rfl⟩ := List.cons.inj ht
        simp only [byteLength] at hn
        exact ⟨s, u, ih.2 ⟨rfl, by omega⟩, rfl, rfl⟩
  | case4 c t n h =>
    simp only [reduceCtorEq, false_iff]
    rintro ⟨ht, hn⟩
    cases s with
    | nil => simp [byteLength] at hn
    | cons d s =>
      obtain ⟨rfl, -⟩ := List.cons.inj ht
      simp only [byteLength] at hn
      omega

/-- The character at a byte offset, after the text before it. -/
def charAt? (t : List Char) (offset : Nat) : Option (List Char × Char) :=
  match cut t offset with
  | some (s, c :: _) => some (s, c)
  | _ => none

/-- The text from one byte offset up to another, after the text before it. -/
def slice? (t : List Char) (start stop : Nat) : Option (List Char × List Char) :=
  if start ≤ stop then
    (cut t start).bind fun (s, u) => (cut u (stop - start)).map fun (v, _) => (s, v)
  else none

theorem charAt?_eq_some_iff {t s : List Char} {n : Nat} {c : Char} :
    charAt? t n = some (s, c) ↔ ∃ u, t = s ++ c :: u ∧ byteLength s = n := by
  unfold charAt?
  constructor
  · intro h
    split at h
    · next s' c' u hc =>
      simp only [Option.some.injEq, Prod.mk.injEq] at h
      obtain ⟨rfl, rfl⟩ := h
      exact ⟨u, cut_eq_some_iff.1 hc⟩
    · cases h
  · rintro ⟨u, h⟩
    rw [cut_eq_some_iff.2 h]

theorem slice?_eq_some_iff {t s v : List Char} {m n : Nat} :
    slice? t m n = some (s, v) ↔
      ∃ u, t = s ++ v ++ u ∧ byteLength s = m ∧ byteLength (s ++ v) = n := by
  unfold slice?
  constructor
  · intro h
    split at h
    · next hmn =>
      simp only [Option.bind_eq_some_iff, Option.map_eq_some_iff, Prod.exists, Prod.mk.injEq] at h
      obtain ⟨s', u', hc, v', w, hd, rfl, rfl⟩ := h
      obtain ⟨rfl, hm⟩ := cut_eq_some_iff.1 hc
      obtain ⟨rfl, hn⟩ := cut_eq_some_iff.1 hd
      exact ⟨w, by simp, hm, by rw [byteLength_append]; omega⟩
    · cases h
  · rintro ⟨u, rfl, rfl, rfl⟩
    have hs : cut (s ++ v ++ u) (byteLength s) = some (s, v ++ u) :=
      cut_eq_some_iff.2 ⟨List.append_assoc .., rfl⟩
    have hv : cut (v ++ u) (byteLength (s ++ v) - byteLength s) = some (v, u) :=
      cut_eq_some_iff.2 ⟨rfl, by rw [byteLength_append]; omega⟩
    rw [if_pos (by rw [byteLength_append]; omega), hs, Option.bind_some]
    simp only [hv, Option.map_some]

end LexFault.Text
