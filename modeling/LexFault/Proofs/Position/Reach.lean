import LexFault.Proofs.Position.Walk
import Mathlib.Logic.ExistsUnique

/-!
# What one motion can reach

From a position a motion leads on along the line, or to any column but 0 of a later line. On the
last line that can be counted, which counts as later than itself, it can also lead back. These are
all of the positions that it can reach (`exists_add_eq_iff`).

Below the greatest line and column nothing is capped, so the motion can be read off from its two
ends (`add_eq_iff_along`, `add_eq_iff_over`). It is the only one between them (`eq_of_add_eq`),
unless it leads to column 1 of a later line: there a width of 1 may as well be left unknown
(`add_eq_iff_of_column_eq_one`).
-/

namespace LexFault.Position

variable {p q d e : Position}

/-! ## Which positions -/

theorem add_eq_iff :
    p + d = q ↔ q.line.toNat = min (p.line.toNat + d.line.toNat) 4294967295 ∧
      (d.line.toNat = 0 ∧ q.column.toNat = min (p.column.toNat + d.column.toNat) 4294967295 ∨
        d.line.toNat ≠ 0 ∧ q.column.toNat = max d.column.toNat 1) := by
  have hsum := add_cases p d
  rw [eq_iff_toNat]
  omega

/-- One motion is enough from `p` to `q`: they lie in order on one line, or `q` lies on a later line
in a column that can be counted. -/
def Reaches (p q : Position) : Prop :=
  p.line = q.line ∧ p.column ≤ q.column ∨
    1 ≤ q.column ∧ (p.line < q.line ∨ p.line = q.line ∧ q.line = 4294967295)

theorem reaches_iff_toNat :
    Reaches p q ↔ p.line.toNat = q.line.toNat ∧ p.column.toNat ≤ q.column.toNat ∨
      1 ≤ q.column.toNat ∧ (p.line.toNat < q.line.toNat ∨
        p.line.toNat = q.line.toNat ∧ q.line.toNat = 4294967295) := by
  unfold Reaches
  rw [UInt32.lt_iff_toNat_lt, UInt32.le_iff_toNat_le, UInt32.le_iff_toNat_le, ← UInt32.toNat_inj,
    ← UInt32.toNat_inj]
  exact Iff.rfl

theorem reaches_add (p d : Position) : Reaches p (p + d) := by
  have hline := p.line.toNat_lt
  have hcolumn := p.column.toNat_lt
  have hsum := add_cases p d
  rw [reaches_iff_toNat]
  omega

/-- What is missing on the line leads along it. -/
theorem add_along (hlines : p.line = q.line) (hcolumns : p.column ≤ q.column) :
    p + ⟨0, q.column - p.column⟩ = q := by
  have hline := q.line.toNat_lt
  have hcolumn := q.column.toNat_lt
  rw [add_eq_iff, UInt32.toNat_sub_of_le _ _ hcolumns, hlines]
  rw [UInt32.le_iff_toNat_le] at hcolumns
  refine ⟨?_, .inl ⟨rfl, ?_⟩⟩
  · show q.line.toNat = min (q.line.toNat + 0) 4294967295
    omega
  · omega

/-- The lines between, at least one, lead to any column but 0 of a later line. -/
theorem add_over (hcolumn : 1 ≤ q.column)
    (hlines : p.line < q.line ∨ p.line = q.line ∧ q.line = 4294967295) :
    p + ⟨max (q.line - p.line) 1, q.column⟩ = q := by
  have hwidth : 1 ≤ q.column.toNat := UInt32.le_iff_toNat_le.1 hcolumn
  have hlater : p.line.toNat < q.line.toNat ∨
      p.line.toNat = q.line.toNat ∧ q.line.toNat = 4294967295 :=
    hlines.imp UInt32.lt_iff_toNat_lt.1 fun h => ⟨congrArg _ h.1, congrArg _ h.2⟩
  have hle : p.line ≤ q.line := by
    rw [UInt32.le_iff_toNat_le]
    omega
  have hbetween : (max (q.line - p.line) 1).toNat = max (q.line.toNat - p.line.toNat) 1 := by
    rw [toNat_max, UInt32.toNat_sub_of_le _ _ hle]
    rfl
  have hline := q.line.toNat_lt
  rw [add_eq_iff, hbetween]
  refine ⟨by omega, .inr ⟨by omega, ?_⟩⟩
  show q.column.toNat = max q.column.toNat 1
  omega

theorem exists_add_eq_iff : (∃ d, p + d = q) ↔ Reaches p q := by
  constructor
  · rintro ⟨d, rfl⟩
    exact reaches_add p d
  · rintro (⟨hlines, hcolumns⟩ | ⟨hcolumn, hlines⟩)
    · exact ⟨_, add_along hlines hcolumns⟩
    · exact ⟨_, add_over hcolumn hlines⟩

/-- On the last line that can be counted a motion may lead back. -/
example : (⟨4294967295, 9⟩ : Position) + ⟨1, 3⟩ = ⟨4294967295, 3⟩ := by decide

/-! ## How many motions -/

/-- A motion along the line adds what is missing. -/
theorem add_eq_iff_along (hlines : p.line = q.line) (hline : q.line < 4294967295)
    (hcolumn : q.column < 4294967295) :
    p + d = q ↔ d.line.toNat = 0 ∧ p.column.toNat + d.column.toNat = q.column.toNat := by
  rw [UInt32.lt_iff_toNat_lt] at hline hcolumn
  change q.line.toNat < 4294967295 at hline
  change q.column.toNat < 4294967295 at hcolumn
  rw [add_eq_iff, hlines]
  omega

/-- A motion to a later line adds the lines between; its width, if that is known, is the column. -/
theorem add_eq_iff_over (hlines : p.line < q.line) (hline : q.line < 4294967295) :
    p + d = q ↔ p.line.toNat + d.line.toNat = q.line.toNat ∧
      max d.column.toNat 1 = q.column.toNat := by
  rw [UInt32.lt_iff_toNat_lt] at hlines hline
  change q.line.toNat < 4294967295 at hline
  rw [add_eq_iff]
  omega

/-- Two motions between the same ends are the same, but for the one width that need not be known. -/
theorem eq_of_add_eq (hline : q.line < 4294967295) (hcolumn : q.column < 4294967295)
    (hone : ¬ (p.line < q.line ∧ q.column = 1)) (hd : p + d = q) (he : p + e = q) : d = e := by
  have hreach := reaches_iff_toNat.1 (exists_add_eq_iff.1 ⟨d, hd⟩)
  rw [eq_iff_toNat]
  by_cases hlines : p.line < q.line
  -- only a width of 1 can be given in two ways
  · have hwidth : q.column.toNat ≠ 1 := fun h => hone ⟨hlines, UInt32.toNat_inj.1 h⟩
    rw [add_eq_iff_over hlines hline] at hd he
    omega
  · have hsame : p.line = q.line := by
      rw [UInt32.lt_iff_toNat_lt] at hlines
      rw [← UInt32.toNat_inj]
      omega
    rw [add_eq_iff_along hsame hline hcolumn] at hd he
    omega

/-- Column 1 of a later line is reached with a width of 1 or one that is not known. -/
theorem add_eq_iff_of_column_eq_one (hlines : p.line < q.line) (hline : q.line < 4294967295)
    (hone : q.column = 1) :
    p + d = q ↔ d = ⟨q.line - p.line, 0⟩ ∨ d = ⟨q.line - p.line, 1⟩ := by
  have hsub := UInt32.toNat_sub_of_le _ _ (UInt32.le_of_lt hlines)
  rw [add_eq_iff_over hlines hline, eq_iff_toNat, eq_iff_toNat, hsub, hone]
  rw [UInt32.lt_iff_toNat_lt] at hlines
  show _ ∧ max _ 1 = 1 ↔ _ ∧ d.column.toNat = 0 ∨ _ ∧ d.column.toNat = 1
  omega

/-- A motion reaches what lies ahead on the line and every column but 0 of a later line, the last
line that can be counted being later than itself. Away from the greatest line and column there is
one such motion, or two if it leads to column 1 of a later line. -/
theorem reachable_positions :
    (∀ p q : Position, (∃ d, p + d = q) ↔
      p.line = q.line ∧ p.column ≤ q.column ∨
        1 ≤ q.column ∧ (p.line < q.line ∨ p.line = q.line ∧ q.line = 4294967295)) ∧
      ∀ p q : Position, (∃ d, p + d = q) → q.line < 4294967295 → q.column < 4294967295 →
        (¬ (p.line < q.line ∧ q.column = 1) → ∃! d, p + d = q) ∧
          (p.line < q.line ∧ q.column = 1 →
            ∀ d, p + d = q ↔ d = ⟨q.line - p.line, 0⟩ ∨ d = ⟨q.line - p.line, 1⟩) := by
  refine ⟨fun p q => exists_add_eq_iff, ?_⟩
  rintro p q ⟨d, hd⟩ hline hcolumn
  constructor
  · intro hone
    exact ⟨d, hd, fun e he => eq_of_add_eq hline hcolumn hone he hd⟩
  · rintro ⟨hlines, hone⟩ d
    exact add_eq_iff_of_column_eq_one hlines hline hone

/-- Four lines on there is one motion to the second column, and there are two to the first. -/
theorem reachable_positions_four_lines_on :
    ((∃ d, (⟨3, 5⟩ : Position) + d = ⟨7, 2⟩) ∧ ∃! d, (⟨3, 5⟩ : Position) + d = ⟨7, 2⟩) ∧
      (∃ d, (⟨3, 5⟩ : Position) + d = ⟨7, 1⟩) ∧
        ∀ d, (⟨3, 5⟩ : Position) + d = ⟨7, 1⟩ ↔ d = ⟨4, 0⟩ ∨ d = ⟨4, 1⟩ := by
  have hsecond : ∃ d, (⟨3, 5⟩ : Position) + d = ⟨7, 2⟩ := ⟨⟨4, 2⟩, by decide⟩
  have hfirst : ∃ d, (⟨3, 5⟩ : Position) + d = ⟨7, 1⟩ := ⟨⟨4, 0⟩, by decide⟩
  obtain ⟨-, hmotions⟩ := reachable_positions
  exact ⟨⟨hsecond, (hmotions _ _ hsecond (by decide) (by decide)).1 (by decide)⟩, hfirst,
    (hmotions _ _ hfirst (by decide) (by decide)).2 (by decide)⟩

end LexFault.Position
