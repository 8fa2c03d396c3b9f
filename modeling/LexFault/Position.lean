/-!
# Positions in a text

A position is a line and a column, both 32-bit and counted from 1. The same pair is also a distance,
the extent of a piece of text: `p + d` is the position behind that text when it starts at `p`. A
distance of no lines moves along the line; any other one starts a new column count. Lines and
columns stop at the greatest 32-bit number instead of wrapping.

Positions are ordered by line, then column; `compare`, `≤` and `sort` follow that one order.
-/

namespace LexFault

/-- A line and a column; a column of 0 in a distance means that its width is unknown. -/
structure Position where
  line : UInt32
  column : UInt32
  deriving DecidableEq

namespace Position

/-- Where a text begins. -/
def origin : Position := ⟨1, 1⟩

/-! ## Moving -/

theorem toNat_ofNatClamp (n : Nat) : (UInt32.ofNatClamp n).toNat = min n 4294967295 := by
  rcases Nat.lt_or_ge n UInt32.size with h | h
  · rw [UInt32.toNat_ofNatClamp_of_lt h]
    simp only [UInt32.size] at h
    omega
  · rw [UInt32.toNat_ofNatClamp_of_le h]
    simp only [UInt32.size] at h ⊢
    omega

/-- The sum of two counts, stopping at the greatest 32-bit number. -/
def addCapped (a b : UInt32) : UInt32 := UInt32.ofNatClamp (a.toNat + b.toNat)

theorem toNat_addCapped (a b : UInt32) :
    (addCapped a b).toNat = min (a.toNat + b.toNat) 4294967295 :=
  toNat_ofNatClamp (a.toNat + b.toNat)

/-- The position behind a text of extent `d` that starts at `p`. -/
def move (p d : Position) : Position where
  line := addCapped p.line d.line
  column :=
    if d.line = 0 then addCapped p.column d.column
    else if d.column = 0 then 1
    else d.column

instance : Add Position := ⟨move⟩

theorem line_add (p d : Position) : (p + d).line = addCapped p.line d.line := rfl

theorem column_add (p d : Position) :
    (p + d).column =
      if d.line = 0 then addCapped p.column d.column else if d.column = 0 then 1 else d.column :=
  rfl

/-- The extent of one character: a line feed ends the line, any other character is one column. -/
def extent (c : Char) : Position := if c = '\n' then ⟨1, 0⟩ else ⟨0, 1⟩

/-- The position behind `s`, moving over one character at a time. -/
def passText (p : Position) (s : String) : Position :=
  s.toList.foldl (fun q c => q + extent c) p

/-- The positions of a walk: where it starts, and where each step leads. -/
def trail (p : Position) : List Position → List Position
  | [] => [p]
  | d :: ds => p :: trail (p + d) ds

/-! ## Order -/

instance : Ord Position where
  compare p q := (compare p.line q.line).then (compare p.column q.column)

instance : LE Position where
  le p q := p.line < q.line ∨ p.line = q.line ∧ p.column ≤ q.column

instance : DecidableLE Position := fun p q =>
  inferInstanceAs (Decidable (p.line < q.line ∨ p.line = q.line ∧ p.column ≤ q.column))

instance : Max Position := maxOfLe

theorem le_def {p q : Position} :
    p ≤ q ↔ p.line < q.line ∨ p.line = q.line ∧ p.column ≤ q.column := Iff.rfl

/-- The order in numbers. -/
theorem le_iff_toNat {p q : Position} :
    p ≤ q ↔ p.line.toNat < q.line.toNat ∨
      p.line.toNat = q.line.toNat ∧ p.column.toNat ≤ q.column.toNat := by
  rw [le_def, UInt32.lt_iff_toNat_lt, UInt32.le_iff_toNat_le, UInt32.toNat_inj]

theorem compare_def (p q : Position) :
    compare p q = (compare p.line q.line).then (compare p.column q.column) := rfl

theorem isLE_compare {p q : Position} : (compare p q).isLE ↔ p ≤ q := by
  rw [compare_def, le_def, ← Std.compare_eq_lt, ← Std.compare_eq_iff_eq (a := p.line),
    ← Std.LawfulOrderOrd.isLE_compare p.column]
  cases compare p.line q.line <;> simp

theorem compare_eq_eq {p q : Position} : compare p q = .eq ↔ p = q := by
  rw [compare_def, Ordering.then_eq_eq, Std.compare_eq_iff_eq, Std.compare_eq_iff_eq]
  cases p; cases q; simp

/-- The positions of `ps` in ascending order. -/
def sort (ps : List Position) : List Position := ps.mergeSort fun p q => decide (p ≤ q)

/-! ## Text -/

/-- A position written as `line:column`. -/
def text (p : Position) : String := p.line.toNat.repr ++ ":" ++ p.column.toNat.repr

end Position

end LexFault
