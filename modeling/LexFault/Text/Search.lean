/-!
# Searching a text

Where a text breaks at the first or the last unit of a kind, how often two kinds of unit stand side
by side, and how many units of a kind end a text. The breaks lose nothing but the unit they are at.
-/

namespace LexFault.Text

variable {α : Type}

/-- The text before and after the first unit that `p` accepts. -/
def breakFirst (p : α → Bool) : List α → Option (List α × List α)
  | [] => none
  | a :: t => if p a then some ([], t) else (breakFirst p t).map fun (s, u) => (a :: s, u)

/-- The text before and after the last unit that `p` accepts. -/
def breakLast (p : α → Bool) (t : List α) : Option (List α × List α) :=
  (breakFirst p t.reverse).map fun (s, u) => (u.reverse, s.reverse)

/-- How many places of a text hold a unit accepted by `p` and, right after it, one accepted by
`q`. Places may overlap. -/
def countAdjacent (p q : α → Bool) : List α → Nat
  | a :: b :: t => (if p a && q b then 1 else 0) + countAdjacent p q (b :: t)
  | _ => 0

/-- How many units at the end of a text `p` accepts in a row. -/
def countTrailing (p : α → Bool) (t : List α) : Nat := (t.reverse.takeWhile p).length

theorem breakFirst_eq_some_iff {p : α → Bool} {t s u : List α} :
    breakFirst p t = some (s, u) ↔ ∃ a, t = s ++ a :: u ∧ p a ∧ ∀ b ∈ s, p b = false := by
  induction t generalizing s with
  | nil => simp [breakFirst]
  | cons c t ih =>
    unfold breakFirst
    cases hc : p c
    · simp only [Bool.false_eq_true, ↓reduceIte, Option.map_eq_some_iff, Prod.mk.injEq, Prod.exists]
      constructor
      · rintro ⟨s', u', h, rfl, rfl⟩
        obtain ⟨a, rfl, ha, hs⟩ := ih.1 h
        exact ⟨a, rfl, ha, List.forall_mem_cons.2 ⟨hc, hs⟩⟩
      · rintro ⟨a, h, ha, hs⟩
        cases s with
        | nil =>
          obtain ⟨rfl, rfl⟩ := List.cons.inj h
          rw [hc] at ha
          cases ha
        | cons b s =>
          obtain ⟨rfl, rfl⟩ := List.cons.inj h
          exact ⟨s, u, ih.2 ⟨a, rfl, ha, (List.forall_mem_cons.1 hs).2⟩, rfl, rfl⟩
    · simp only [↓reduceIte, Option.some.injEq, Prod.mk.injEq]
      constructor
      · rintro ⟨rfl, rfl⟩
        exact ⟨c, rfl, hc, by simp⟩
      · rintro ⟨a, h, ha, hs⟩
        cases s with
        | nil => exact ⟨rfl, (List.cons.inj h).2⟩
        | cons b s =>
          obtain ⟨rfl, -⟩ := List.cons.inj h
          rw [hs c (by simp)] at hc
          cases hc

theorem breakFirst_eq_none_iff {p : α → Bool} {t : List α} :
    breakFirst p t = none ↔ ∀ a ∈ t, p a = false := by
  induction t with
  | nil => simp [breakFirst]
  | cons c t ih => cases hc : p c <;> simp [breakFirst, hc, ih]

theorem breakLast_eq_some_iff {p : α → Bool} {t s u : List α} :
    breakLast p t = some (s, u) ↔ ∃ a, t = s ++ a :: u ∧ p a ∧ ∀ b ∈ u, p b = false := by
  simp only [breakLast, Option.map_eq_some_iff, Prod.mk.injEq, Prod.exists, breakFirst_eq_some_iff,
    List.reverse_eq_iff]
  constructor
  · rintro ⟨u', s', ⟨a, h, ha, hu⟩, rfl, rfl⟩
    exact ⟨a, by simpa using h, ha, by simpa using hu⟩
  · rintro ⟨a, rfl, ha, hu⟩
    exact ⟨u.reverse, s.reverse, ⟨a, by simp, ha, by simpa using hu⟩, by simp, by simp⟩

theorem breakLast_eq_none_iff {p : α → Bool} {t : List α} :
    breakLast p t = none ↔ ∀ a ∈ t, p a = false := by
  simp [breakLast, breakFirst_eq_none_iff]

/-- A text holds no unit that `p` accepts, or splits at the last one. -/
theorem forall_false_or_split_last (p : α → Bool) (t : List α) :
    (∀ a ∈ t, p a = false) ∨ ∃ s a u, t = s ++ a :: u ∧ p a ∧ ∀ b ∈ u, p b = false := by
  cases h : breakLast p t with
  | none => exact .inl (breakLast_eq_none_iff.1 h)
  | some su =>
    obtain ⟨a, hsplit⟩ := breakLast_eq_some_iff.1 h
    exact .inr ⟨su.1, a, su.2, hsplit⟩

/-- A text splits in one way at the first unit that `p` accepts. -/
theorem split_first_unique {p : α → Bool} {s s' u u' : List α} {a a' : α}
    (h : s ++ a :: u = s' ++ a' :: u') (ha : p a) (ha' : p a')
    (hs : ∀ b ∈ s, p b = false) (hs' : ∀ b ∈ s', p b = false) : s = s' ∧ a = a' ∧ u = u' := by
  have hbreak : breakFirst p (s ++ a :: u) = some (s, u) :=
    breakFirst_eq_some_iff.2 ⟨a, rfl, ha, hs⟩
  have hbreak' : breakFirst p (s ++ a :: u) = some (s', u') :=
    breakFirst_eq_some_iff.2 ⟨a', h, ha', hs'⟩
  obtain ⟨rfl, rfl⟩ := Prod.mk.inj (Option.some.inj (hbreak.symm.trans hbreak'))
  exact ⟨rfl, by simpa using h, rfl⟩

/-- A text splits in one way at the last unit that `p` accepts. -/
theorem split_last_unique {p : α → Bool} {s s' u u' : List α} {a a' : α}
    (h : s ++ a :: u = s' ++ a' :: u') (ha : p a) (ha' : p a')
    (hu : ∀ b ∈ u, p b = false) (hu' : ∀ b ∈ u', p b = false) : s = s' ∧ a = a' ∧ u = u' := by
  have hbreak : breakLast p (s ++ a :: u) = some (s, u) :=
    breakLast_eq_some_iff.2 ⟨a, rfl, ha, hu⟩
  have hbreak' : breakLast p (s ++ a :: u) = some (s', u') :=
    breakLast_eq_some_iff.2 ⟨a', h, ha', hu'⟩
  obtain ⟨rfl, rfl⟩ := Prod.mk.inj (Option.some.inj (hbreak.symm.trans hbreak'))
  exact ⟨rfl, by simpa using h, rfl⟩

theorem countAdjacent_cons (p q : α → Bool) (a : α) (t : List α) :
    countAdjacent p q (a :: t) =
      (if p a && t.head?.any q then 1 else 0) + countAdjacent p q t := by
  cases t <;> simp [countAdjacent]

theorem countTrailing_concat (p : α → Bool) (t : List α) (a : α) :
    countTrailing p (t ++ [a]) = if p a then countTrailing p t + 1 else 0 := by
  cases h : p a <;> simp [countTrailing, h]

theorem countTrailing_append_cons {p : α → Bool} {s u : List α} {a : α} (ha : p a = false)
    (hu : ∀ b ∈ u, p b = true) : countTrailing p (s ++ a :: u) = u.length := by
  unfold countTrailing
  rw [List.reverse_append, List.reverse_cons, List.append_assoc,
    List.takeWhile_append_of_pos (by simpa using hu)]
  simp [ha]

theorem countTrailing_eq_length_iff {p : α → Bool} {t : List α} :
    countTrailing p t = t.length ↔ ∀ a ∈ t, p a = true := by
  unfold countTrailing
  constructor
  · intro h a ha
    have hself : t.reverse.takeWhile p = t.reverse :=
      (List.takeWhile_prefix p).eq_of_length (h.trans List.length_reverse.symm)
    have hall : (t.reverse.takeWhile p).all p = true := List.all_takeWhile
    rw [hself] at hall
    exact List.all_eq_true.1 hall a (List.mem_reverse.2 ha)
  · intro h
    have hself : (t.reverse ++ []).takeWhile p = t.reverse ++ [].takeWhile p :=
      List.takeWhile_append_of_pos (by simpa using h)
    simpa using congrArg List.length hself

end LexFault.Text
