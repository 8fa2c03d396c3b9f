import LexFault.Position
import Mathlib.Algebra.GroupWithZero.Nat

/-!
# Walks

A walk moves over a list of distances, one after another. Its lines add up until they reach the
greatest 32-bit number, and its columns too as long as no line is moved (`line_walk`, `column_walk`).
One motion leads forward unless the line can grow no more (`le_add_iff`). So a walk whose lines stay
within 32 bits never turns back (`pairwise_trail`), and it comes to rest where it started only if it
moves nothing, or only columns in the last one (`walk_eq_start_iff`).
-/

namespace LexFault.Position

variable {p q r : Position} {ds : List Position}

/-! ## Order -/

theorem le_refl (p : Position) : p ≤ p := by
  rw [le_iff_toNat]
  omega

theorem le_trans (hpq : p ≤ q) (hqr : q ≤ r) : p ≤ r := by
  rw [le_iff_toNat] at hpq hqr ⊢
  omega

theorem eq_iff_toNat :
    p = q ↔ p.line.toNat = q.line.toNat ∧ p.column.toNat = q.column.toNat := by
  rw [UInt32.toNat_inj, UInt32.toNat_inj]
  cases p
  cases q
  exact mk.injEq .. ▸ Iff.rfl

/-! ## One motion -/

theorem toNat_eq_zero_iff {a : UInt32} : a.toNat = 0 ↔ a = 0 := UInt32.toNat_inj (b := 0)

theorem toNat_line_add (p d : Position) :
    (p + d).line.toNat = min (p.line.toNat + d.line.toNat) 4294967295 :=
  toNat_addCapped p.line d.line

theorem toNat_column_add (p d : Position) :
    (p + d).column.toNat =
      if d.line.toNat = 0 then min (p.column.toNat + d.column.toNat) 4294967295
      else max d.column.toNat 1 := by
  rw [column_add]
  by_cases hline : d.line = 0
  · rw [if_pos hline, if_pos (toNat_eq_zero_iff.2 hline), toNat_addCapped]
  · rw [if_neg hline, if_neg (mt toNat_eq_zero_iff.1 hline)]
    by_cases hcolumn : d.column = 0
    · rw [if_pos hcolumn, hcolumn]
      rfl
    · have hpos := mt toNat_eq_zero_iff.1 hcolumn
      rw [if_neg hcolumn]
      omega

/-- What a motion does, in numbers: the lines add up, and the columns do too on the same line; on
another one they are those of the distance. -/
theorem add_cases (p d : Position) :
    (p + d).line.toNat = min (p.line.toNat + d.line.toNat) 4294967295 ∧
      (d.line.toNat = 0 ∧ (p + d).column.toNat = min (p.column.toNat + d.column.toNat) 4294967295 ∨
        d.line.toNat ≠ 0 ∧ (p + d).column.toNat = max d.column.toNat 1) := by
  rw [toNat_line_add, toNat_column_add]
  by_cases h : d.line.toNat = 0
  · exact ⟨rfl, .inl ⟨h, if_pos h⟩⟩
  · exact ⟨rfl, .inr ⟨h, if_neg h⟩⟩

theorem toNat_max (a b : UInt32) : (max a b).toNat = max a.toNat b.toNat := by
  show (if a ≤ b then b else a).toNat = _
  by_cases h : a ≤ b
  · rw [if_pos h]
    rw [UInt32.le_iff_toNat_le] at h
    omega
  · rw [if_neg h]
    rw [UInt32.le_iff_toNat_le] at h
    omega

/-- A motion leads back only from the last line that can be counted, to a smaller column of it. -/
theorem le_add_iff (p d : Position) :
    p ≤ p + d ↔ d.line = 0 ∨ p.line < 4294967295 ∨ p.column ≤ max d.column 1 := by
  have hline := p.line.toNat_lt
  have hcolumn := p.column.toNat_lt
  have hsum := add_cases p d
  rw [le_iff_toNat, ← UInt32.toNat_inj, UInt32.lt_iff_toNat_lt, UInt32.le_iff_toNat_le, toNat_max]
  show _ ↔ d.line.toNat = 0 ∨ p.line.toNat < 4294967295 ∨ p.column.toNat ≤ max d.column.toNat 1
  omega

/-- Behind a line feed on the last line the columns are counted anew. -/
example : ¬ (⟨4294967295, 5⟩ : Position) ≤ ⟨4294967295, 5⟩ + extent '\n' := by decide

/-! ## Many motions -/

/-- The position behind all of the distances. -/
def walk (p : Position) (ds : List Position) : Position := ds.foldl (· + ·) p

/-- How many lines the distances span together. -/
def lines (ds : List Position) : Nat := (ds.map fun d => d.line.toNat).sum

/-- How many columns the distances span together. -/
def columns (ds : List Position) : Nat := (ds.map fun d => d.column.toNat).sum

theorem walk_cons (p d : Position) (ds : List Position) : p.walk (d :: ds) = (p + d).walk ds := rfl

theorem walk_append (p : Position) (ds es : List Position) :
    p.walk (ds ++ es) = (p.walk ds).walk es := List.foldl_append

theorem lines_cons (d : Position) (ds : List Position) :
    lines (d :: ds) = d.line.toNat + lines ds := List.sum_cons

theorem columns_cons (d : Position) (ds : List Position) :
    columns (d :: ds) = d.column.toNat + columns ds := List.sum_cons

theorem lines_append (ds es : List Position) : lines (ds ++ es) = lines ds + lines es := by
  simp [lines]

theorem columns_append (ds es : List Position) :
    columns (ds ++ es) = columns ds + columns es := by
  simp [columns]

theorem line_walk (p : Position) (ds : List Position) :
    (p.walk ds).line.toNat = min (p.line.toNat + lines ds) 4294967295 := by
  induction ds generalizing p with
  | nil =>
    have := p.line.toNat_lt
    show p.line.toNat = min (p.line.toNat + 0) 4294967295
    omega
  | cons d ds ih =>
    rw [walk_cons, ih, toNat_line_add, lines_cons]
    omega

theorem column_walk (p : Position) (h : lines ds = 0) :
    (p.walk ds).column.toNat = min (p.column.toNat + columns ds) 4294967295 := by
  induction ds generalizing p with
  | nil =>
    have := p.column.toNat_lt
    show p.column.toNat = min (p.column.toNat + 0) 4294967295
    omega
  | cons d ds ih =>
    rw [lines_cons] at h
    rw [walk_cons, ih _ (by omega), toNat_column_add, if_pos (by omega), columns_cons]
    omega

/-! ## Walks that do not run out of lines -/

theorem le_add (h : p.line.toNat + lines (q :: ds) ≤ 4294967295) : p ≤ p + q := by
  rw [le_add_iff, ← UInt32.toNat_inj, UInt32.lt_iff_toNat_lt]
  rw [lines_cons] at h
  show q.line.toNat = 0 ∨ p.line.toNat < 4294967295 ∨ _
  omega

theorem lines_add_le (h : p.line.toNat + lines (q :: ds) ≤ 4294967295) :
    (p + q).line.toNat + lines ds ≤ 4294967295 := by
  rw [toNat_line_add]
  rw [lines_cons] at h
  omega

/-- A walk that does not run out of lines ends no earlier than it starts. -/
theorem le_walk (h : p.line.toNat + lines ds ≤ 4294967295) : p ≤ p.walk ds := by
  induction ds generalizing p with
  | nil => exact le_refl p
  | cons d ds ih => exact le_trans (le_add h) (ih (lines_add_le h))

theorem start_mem_trail (p : Position) (ds : List Position) : p ∈ p.trail ds := by
  cases ds with
  | nil => exact List.mem_singleton_self p
  | cons d ds => exact List.mem_cons_self

theorem mem_trail_bounds (h : p.line.toNat + lines ds ≤ 4294967295) (hq : q ∈ p.trail ds) :
    p ≤ q ∧ q ≤ p.walk ds := by
  induction ds generalizing p with
  | nil =>
    rw [trail, List.mem_singleton] at hq
    subst hq
    exact ⟨le_refl _, le_refl _⟩
  | cons d ds ih =>
    rw [trail, List.mem_cons] at hq
    rcases hq with rfl | hq
    · exact ⟨le_refl _, le_walk h⟩
    · obtain ⟨hlow, hhigh⟩ := ih (lines_add_le h) hq
      exact ⟨le_trans (le_add h) hlow, hhigh⟩

theorem pairwise_trail (h : p.line.toNat + lines ds ≤ 4294967295) :
    (p.trail ds).Pairwise (· ≤ ·) := by
  induction ds generalizing p with
  | nil => exact List.pairwise_singleton _ _
  | cons d ds ih =>
    rw [trail, List.pairwise_cons]
    refine ⟨fun q hq => ?_, ih (lines_add_le h)⟩
    exact le_trans (le_add h) (mem_trail_bounds (lines_add_le h) hq).1

theorem walk_eq_start_iff (h : p.line.toNat + lines ds ≤ 4294967295) :
    p.walk ds = p ↔ lines ds = 0 ∧ (columns ds = 0 ∨ p.column = 4294967295) := by
  rw [eq_iff_toNat, line_walk, ← UInt32.toNat_inj]
  show _ ↔ lines ds = 0 ∧ (columns ds = 0 ∨ p.column.toNat = 4294967295)
  by_cases hzero : lines ds = 0
  · have := p.column.toNat_lt
    rw [column_walk p hzero]
    omega
  · omega

/-! ## Texts -/

theorem passText_eq_walk (p : Position) (s : String) :
    p.passText s = p.walk (s.toList.map extent) := by
  rw [walk, List.foldl_map]
  rfl

theorem lines_extents (t : List Char) : lines (t.map extent) = t.count '\n' := by
  induction t with
  | nil => rfl
  | cons c t ih =>
    rw [List.map_cons, lines_cons, ih, List.count_cons, extent, Nat.add_comm]
    by_cases h : c = '\n' <;> simp [h]

theorem columns_extents (t : List Char) : columns (t.map extent) = t.countP (· != '\n') := by
  induction t with
  | nil => rfl
  | cons c t ih =>
    rw [List.map_cons, columns_cons, ih, List.countP_cons, extent, Nat.add_comm]
    by_cases h : c = '\n' <;> simp [h]

end LexFault.Position
