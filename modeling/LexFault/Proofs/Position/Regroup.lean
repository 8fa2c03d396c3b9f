import LexFault.Proofs.Position.Walk

/-!
# Regrouping motions

Moving by two distances one after the other mostly leads to where their sum leads. The exception is
a distance to a later line that does not say how wide its last line is. Moved over, it ends in
column 1; but in a sum its column counts as 0, so the columns added to it end one place earlier
(`add_assoc_iff`).

A distance that does say so is `Measured`, and a sum that starts with it is too (`Measured.add`). So
a row of measured distances may be put in any brackets and added up before moving
(`Bracketing.walk_steps`).
-/

namespace LexFault.Position

variable {p d e : Position}

/-! ## Two motions -/

theorem line_add_assoc (p d e : Position) : (p + d + e).line = (p + (d + e)).line := by
  apply UInt32.toNat_inj.1
  simp only [toNat_line_add]
  omega

/-- Behind a distance that moves lines the columns are those of that distance alone. -/
theorem column_add_assoc_of_line_ne_zero (p d : Position) (he : e.line.toNat ≠ 0) :
    (p + d + e).column = (p + (d + e)).column := by
  apply UInt32.toNat_inj.1
  have hsum : (d + e).line.toNat ≠ 0 := by
    rw [toNat_line_add]
    omega
  rw [toNat_column_add, if_neg he, toNat_column_add, if_neg hsum, toNat_column_add, if_neg he]
  omega

/-- Along one line the columns of all three add up. -/
theorem column_add_assoc_of_line_eq_zero (p : Position) (hd : d.line.toNat = 0)
    (he : e.line.toNat = 0) : (p + d + e).column = (p + (d + e)).column := by
  apply UInt32.toNat_inj.1
  have hsum : (d + e).line.toNat = 0 := by
    rw [toNat_line_add]
    omega
  rw [toNat_column_add, if_pos he, toNat_column_add, if_pos hd, toNat_column_add, if_pos hsum,
    toNat_column_add, if_pos he]
  omega

/-- Along the line that `d` leads to, a width of `d` that is unknown counts as 1 or as 0. -/
theorem column_add_assoc_iff_of_line (p : Position) (hd : d.line.toNat ≠ 0)
    (he : e.line.toNat = 0) :
    (p + d + e).column = (p + (d + e)).column ↔
      ¬ (d.column.toNat = 0 ∧ 0 < e.column.toNat ∧ e.column.toNat < 4294967295) := by
  have hcolumn := e.column.toNat_lt
  have hsum : (d + e).line.toNat ≠ 0 := by
    rw [toNat_line_add]
    omega
  rw [← UInt32.toNat_inj, toNat_column_add, if_pos he, toNat_column_add, if_neg hd,
    toNat_column_add, if_neg hsum, toNat_column_add, if_pos he]
  omega

/-- Two motions in a row differ from the motion by their sum just if the first one leads to a line
of unknown width and the second one goes along that line, but not as far as the columns reach. -/
theorem add_assoc_iff (p d e : Position) :
    p + d + e = p + (d + e) ↔
      ¬ (0 < d.line ∧ d.column = 0 ∧ e.line = 0 ∧ 0 < e.column ∧ e.column < 4294967295) := by
  -- the lines always agree, so the columns decide
  have hcolumns : p + d + e = p + (d + e) ↔ (p + d + e).column = (p + (d + e)).column := by
    rw [eq_iff_toNat, UInt32.toNat_inj, UInt32.toNat_inj]
    exact and_iff_right (line_add_assoc p d e)
  rw [hcolumns, UInt32.lt_iff_toNat_lt, UInt32.lt_iff_toNat_lt, UInt32.lt_iff_toNat_lt,
    ← toNat_eq_zero_iff, ← toNat_eq_zero_iff]
  show _ ↔ ¬ (0 < d.line.toNat ∧ d.column.toNat = 0 ∧ e.line.toNat = 0 ∧ 0 < e.column.toNat ∧
    e.column.toNat < 4294967295)
  by_cases he : e.line.toNat = 0
  · by_cases hd : d.line.toNat = 0
    · exact iff_of_true (column_add_assoc_of_line_eq_zero p hd he) (by omega)
    · rw [column_add_assoc_iff_of_line p hd he]
      omega
  · exact iff_of_true (column_add_assoc_of_line_ne_zero p d he) (by omega)

/-- A line feed and three more characters, from the middle of a line. -/
example : (⟨1, 5⟩ : Position) + ⟨1, 0⟩ + ⟨0, 3⟩ = ⟨2, 4⟩ ∧
    (⟨1, 5⟩ : Position) + (⟨1, 0⟩ + ⟨0, 3⟩) = ⟨2, 3⟩ := by decide

/-! ## Measured distances -/

/-- The distance says how wide its last line is, if it leads to another line. -/
def Measured (d : Position) : Prop := 0 < d.line → 0 < d.column

theorem measured_iff_toNat : Measured d ↔ (0 < d.line.toNat → 0 < d.column.toNat) := by
  unfold Measured
  rw [UInt32.lt_iff_toNat_lt, UInt32.lt_iff_toNat_lt]
  exact Iff.rfl

/-- What is added to a measured distance leaves it measured: it goes on along the last line, or
leads to another one with a width of at least 1. -/
theorem Measured.add (hd : Measured d) (e : Position) : Measured (d + e) := by
  rw [measured_iff_toNat] at hd ⊢
  have hsum := add_cases d e
  omega

theorem add_assoc_of_measured (p e : Position) (hd : Measured d) : p + d + e = p + (d + e) := by
  rw [add_assoc_iff]
  rintro ⟨hline, hcolumn, -⟩
  have hpos := hd hline
  rw [hcolumn] at hpos
  exact UInt32.lt_irrefl _ hpos

/-! ## Brackets -/

/-- A row of distances put in brackets: a single one, or two such rows added together. -/
inductive Bracketing where
  | single (d : Position)
  | both (left right : Bracketing)

namespace Bracketing

/-- The distances in their order, without the brackets. -/
def steps : Bracketing → List Position
  | single d => [d]
  | both left right => left.steps ++ right.steps

/-- The sum of the distances, added up as the brackets say. -/
def total : Bracketing → Position
  | single d => d
  | both left right => left.total + right.total

/-- Every row of distances can be put in brackets. -/
theorem exists_steps_eq {ds : List Position} (h : ds ≠ []) : ∃ b : Bracketing, b.steps = ds := by
  induction ds with
  | nil => exact absurd rfl h
  | cons d ds ih =>
    cases ds with
    | nil => exact ⟨single d, rfl⟩
    | cons e es =>
      obtain ⟨b, hb⟩ := ih (List.cons_ne_nil e es)
      exact ⟨both (single d) b, congrArg (d :: ·) hb⟩

theorem measured_total (b : Bracketing) (h : ∀ d ∈ b.steps, Measured d) : Measured b.total := by
  induction b with
  | single d => exact h d (List.mem_singleton_self d)
  | both left right ihleft =>
    rw [steps, List.forall_mem_append] at h
    exact (ihleft h.1).add right.total

/-- Moving by one distance after another leads to where their sum in brackets leads. -/
theorem walk_steps (p : Position) (b : Bracketing) (h : ∀ d ∈ b.steps, Measured d) :
    p.walk b.steps = p + b.total := by
  induction b generalizing p with
  | single d => rfl
  | both left right ihleft ihright =>
    rw [steps, List.forall_mem_append] at h
    calc p.walk (left.steps ++ right.steps)
        = p + left.total + right.total := by rw [walk_append, ihleft p h.1, ihright _ h.2]
      _ = p + (left.total + right.total) :=
        add_assoc_of_measured p right.total (left.measured_total h.1)

end Bracketing

/-- Two motions may be added up before moving, but for one along a line of unknown width. So a row
of distances that all say how wide their last line is may be added up in any brackets. -/
theorem motions_regroup :
    (∀ p d e : Position, p + d + e = p + (d + e) ↔
      ¬ (0 < d.line ∧ d.column = 0 ∧ e.line = 0 ∧ 0 < e.column ∧ e.column < 4294967295)) ∧
      ∀ (p : Position) (ds : List Position), ds ≠ [] → (∀ d ∈ ds, 0 < d.line → 0 < d.column) →
        (∃ b : Bracketing, b.steps = ds) ∧
          ∀ b : Bracketing, b.steps = ds → p.walk ds = p + b.total := by
  refine ⟨add_assoc_iff, fun p ds hne hmeasured => ⟨Bracketing.exists_steps_eq hne, ?_⟩⟩
  rintro b rfl
  exact b.walk_steps p hmeasured

/-- Past the last line that can be counted and along it, with the later distances added up first. -/
theorem motions_regroup_past_last_line :
    [(⟨4294967295, 3⟩ : Position), ⟨0, 4294967295⟩, ⟨2, 9⟩] ≠ [] ∧
      (∀ d ∈ [(⟨4294967295, 3⟩ : Position), ⟨0, 4294967295⟩, ⟨2, 9⟩], 0 < d.line → 0 < d.column) ∧
        origin.walk [⟨4294967295, 3⟩, ⟨0, 4294967295⟩, ⟨2, 9⟩] =
          origin + (⟨4294967295, 3⟩ + (⟨0, 4294967295⟩ + ⟨2, 9⟩)) := by
  have hne : [(⟨4294967295, 3⟩ : Position), ⟨0, 4294967295⟩, ⟨2, 9⟩] ≠ [] := by decide
  have hmeasured : ∀ d ∈ [(⟨4294967295, 3⟩ : Position), ⟨0, 4294967295⟩, ⟨2, 9⟩],
      0 < d.line → 0 < d.column := by decide
  exact ⟨hne, hmeasured, (motions_regroup.2 origin _ hne hmeasured).2
    (.both (.single _) (.both (.single _) (.single _))) rfl⟩

end LexFault.Position
