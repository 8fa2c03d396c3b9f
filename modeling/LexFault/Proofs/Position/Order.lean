import LexFault.Proofs.Position.Walk
import LexFault.Span
import Mathlib.Data.List.Forall2

/-!
# The order under motion

The order of positions is linear, and `compare` decides it. Moving two positions by one distance
keeps their order: along the line the columns grow alike, to a later line both columns become that
of the distance, and a line or column that can grow no more only lets the two meet (`add_le_add`).
So two walks over the same distances stay in order (`forall₂_trail`), spans can be moved
(`Span.between_moved`), and to sort moved positions is to move sorted ones (`sort_map`), also where
different positions have met.
-/

namespace LexFault

namespace Position

variable {p q : Position} {ps qs : List Position}

/-! ## A linear order -/

theorem le_antisymm (hpq : p ≤ q) (hqp : q ≤ p) : p = q := by
  rw [le_iff_toNat] at hpq hqp
  rw [eq_iff_toNat]
  omega

theorem le_total (p q : Position) : p ≤ q ∨ q ≤ p := by
  rw [le_iff_toNat, le_iff_toNat]
  omega

theorem compare_swap (p q : Position) : (compare p q).swap = compare q p := by
  rw [compare_def, compare_def, Ordering.swap_then, ← Std.OrientedOrd.eq_swap,
    ← Std.OrientedOrd.eq_swap]

instance : Std.IsLinearOrder Position where
  le_refl := le_refl
  le_trans _ _ _ := le_trans
  le_antisymm _ _ := le_antisymm
  le_total := le_total

instance : Std.LawfulOrderOrd Position where
  isLE_compare _ _ := isLE_compare
  isGE_compare p q := by rw [← Ordering.isLE_swap, compare_swap, isLE_compare]

/-! ## Motion -/

theorem add_le_add (h : p ≤ q) (d : Position) : p + d ≤ q + d := by
  rw [le_iff_toNat] at h ⊢
  have hp := p.line.toNat_lt
  have hq := q.line.toNat_lt
  -- one distance takes both positions along their lines, or both to its own column
  have hpsum := add_cases p d
  have hqsum := add_cases q d
  omega

theorem walk_le_walk (h : p ≤ q) (ds : List Position) : p.walk ds ≤ q.walk ds := by
  induction ds generalizing p q with
  | nil => exact h
  | cons d ds ih => exact ih (add_le_add h d)

/-- Two walks that start in order are in order at every point. -/
theorem forall₂_trail (h : p ≤ q) (ds : List Position) :
    List.Forall₂ (· ≤ ·) (p.trail ds) (q.trail ds) := by
  induction ds generalizing p q with
  | nil => exact .cons h .nil
  | cons d ds ih => exact .cons h (ih (add_le_add h d))

/-! ## Sorting -/

/-- The positions `qs` are those of `ps` in ascending order. -/
structure Sorts (ps qs : List Position) : Prop where
  perm : qs.Perm ps
  pairwise : qs.Pairwise (· ≤ ·)

theorem sorts_sort (ps : List Position) : Sorts ps (sort ps) where
  perm := List.mergeSort_perm ps _
  pairwise := by
    have htrans : ∀ p q r : Position,
        decide (p ≤ q) = true → decide (q ≤ r) = true → decide (p ≤ r) = true := by
      intro p q r hpq hqr
      exact decide_eq_true (le_trans (of_decide_eq_true hpq) (of_decide_eq_true hqr))
    have htotal : ∀ p q : Position, (decide (p ≤ q) || decide (q ≤ p)) = true := by
      intro p q
      rw [Bool.or_eq_true, decide_eq_true_iff, decide_eq_true_iff]
      exact le_total p q
    exact (List.pairwise_mergeSort htrans htotal ps).imp of_decide_eq_true

/-- There is one ascending order of a list, even if positions occur in it several times. -/
theorem sorts_iff : Sorts ps qs ↔ qs = sort ps := by
  constructor
  · intro h
    have hsort := sorts_sort ps
    -- what the order cannot tell apart is equal, so equal entries do no harm
    exact List.Perm.eq_of_pairwise (fun _ _ _ _ => le_antisymm) h.pairwise hsort.pairwise
      (h.perm.trans hsort.perm.symm)
  · rintro rfl
    exact sorts_sort ps

theorem Sorts.map (h : Sorts ps qs) {f : Position → Position}
    (hf : ∀ p q, p ≤ q → f p ≤ f q) : Sorts (ps.map f) (qs.map f) where
  perm := h.perm.map f
  pairwise := h.pairwise.map f hf

theorem sort_map {f : Position → Position} (hf : ∀ p q, p ≤ q → f p ≤ f q) (ps : List Position) :
    sort (ps.map f) = (sort ps).map f :=
  (sorts_iff.1 ((sorts_sort ps).map hf)).symm

end Position

/-! ## Spans -/

/-- The span with both ends moved over the same distances. -/
def Span.moved (s : Span) (ds : List Position) : Span where
  start := s.start.walk ds
  stop := s.stop.walk ds
  start_le_stop := Position.walk_le_walk s.start_le_stop ds

theorem Span.between_moved {p q : Position} {s : Span} (h : Span.between p q = .ok s)
    (ds : List Position) : Span.between (p.walk ds) (q.walk ds) = .ok (s.moved ds) := by
  by_cases hle : p ≤ q
  · rw [between_of_le hle] at h
    cases h
    exact between_of_le (Position.walk_le_walk hle ds)
  · rw [between_of_not_le hle] at h
    cases h

namespace Position

/-- Positions are in a linear order, by line and then column, and motion keeps it. So walks over the
same distances that start in order stay in order, a span has a moved one, and sorting goes before or
after a motion alike. -/
theorem motion_preserves_order :
    (Std.IsLinearOrder Position ∧ Std.LawfulOrderOrd Position ∧ ∀ p q : Position,
      (p ≤ q ↔ p.line < q.line ∨ p.line = q.line ∧ p.column ≤ q.column) ∧
        (compare p q = .eq ↔ p = q)) ∧
      (∀ p q d : Position, p ≤ q → p + d ≤ q + d) ∧
      (∀ (p q : Position) (ds : List Position), p ≤ q →
        List.Forall₂ (· ≤ ·) (p.trail ds) (q.trail ds)) ∧
      (∀ (p q : Position) (s : Span) (ds : List Position), Span.between p q = .ok s →
        Span.between (p.walk ds) (q.walk ds) = .ok (s.moved ds)) ∧
      ∀ ps : List Position, (∀ qs, Sorts ps qs ↔ qs = sort ps) ∧
        ∀ d, sort (ps.map (· + d)) = (sort ps).map (· + d) := by
  refine ⟨⟨inferInstance, inferInstance, fun p q => ⟨le_def, compare_eq_eq⟩⟩,
    fun p q d h => add_le_add h d, fun p q ds h => forall₂_trail h ds,
    fun p q s ds h => Span.between_moved h ds, fun ps => ⟨fun qs => sorts_iff, fun d => ?_⟩⟩
  exact sort_map (fun p q h => add_le_add h d) ps

/-- Two positions of one line that meet on the next one, and stay together behind it. -/
theorem motion_preserves_order_of_met :
    (⟨3, 5⟩ : Position) ≤ ⟨3, 9⟩ ∧ (⟨3, 5⟩ : Position) + ⟨1, 0⟩ ≤ ⟨3, 9⟩ + ⟨1, 0⟩ ∧
      List.Forall₂ (· ≤ ·) ((⟨3, 5⟩ : Position).trail [⟨1, 0⟩, ⟨0, 4294967295⟩])
        ((⟨3, 9⟩ : Position).trail [⟨1, 0⟩, ⟨0, 4294967295⟩]) ∧
      ∃ s, Span.between ⟨3, 5⟩ ⟨3, 9⟩ = .ok s ∧
        Span.between ((⟨3, 5⟩ : Position).walk [⟨1, 0⟩]) ((⟨3, 9⟩ : Position).walk [⟨1, 0⟩]) =
          .ok (s.moved [⟨1, 0⟩]) := by
  have hle : (⟨3, 5⟩ : Position) ≤ ⟨3, 9⟩ := by decide
  have hspan := Span.between_of_le hle
  obtain ⟨-, hadd, htrail, hbetween, -⟩ := motion_preserves_order
  exact ⟨hle, hadd _ _ _ hle, htrail _ _ _ hle, _, hspan, hbetween _ _ _ _ hspan⟩

end Position

end LexFault
