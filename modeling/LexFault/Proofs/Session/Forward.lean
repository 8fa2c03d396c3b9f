import LexFault.Proofs.Position.Walk
import LexFault.Proofs.Session.Run

/-!
# Scanning forward

A scanner that sets its mark and then neither jumps nor marks again walks on from the mark: each step
moves the cursor over the `distances` of its own, which may be none. If the lines of the walk stay
within 32 bits, the cursor never turns back (`pairwise_cursors`). So there is a span from the mark to it
at every point, and no report fails for want of one (`spansFrom_run`).
-/

namespace LexFault.Session

open Position (lines columns)

variable {s next : Session} {t : Step} {ts : List Step} {a : Answer} {q : Position}

/-! ## Steps that move forward -/

/-- Whether a step neither jumps nor marks. -/
def isForward : Step → Bool
  | .jump _ => false
  | .mark => false
  | _ => true

/-- The distances that a step moves the cursor over, one for each character that it passes. -/
def distances : Step → List Position
  | .move distance => [distance]
  | .advance text => text.toList.map Position.extent
  | _ => []

/-- The lines that a step moves the cursor by: those of a distance, or the line feeds of a text. -/
def linesMoved : Step → Nat
  | .move distance => distance.line.toNat
  | .advance text => text.toList.count '\n'
  | _ => 0

/-- The columns that a step moves the cursor by: those of a distance, or all other characters of a
text. -/
def columnsMoved : Step → Nat
  | .move distance => distance.column.toNat
  | .advance text => text.toList.countP (· != '\n')
  | _ => 0

/-- The places that the cursor visits in a run. -/
def cursors (s : Session) : List Step → List Position
  | [] => [s.cursor]
  | t :: ts => s.cursor.trail (distances t) ++ (s.step t).2.cursors ts

theorem lines_distances (t : Step) : lines (distances t) = linesMoved t := by
  cases t with
  | advance text => exact Position.lines_extents text.toList
  | _ => rfl

theorem columns_distances (t : Step) : columns (distances t) = columnsMoved t := by
  cases t with
  | advance text => exact Position.columns_extents text.toList
  | _ => rfl

theorem lines_flatMap (ts : List Step) :
    lines (ts.flatMap distances) = (ts.map linesMoved).sum := by
  induction ts with
  | nil => rfl
  | cons t ts ih =>
    rw [List.flatMap_cons, Position.lines_append, lines_distances, ih, List.map_cons, List.sum_cons]

theorem columns_flatMap (ts : List Step) :
    columns (ts.flatMap distances) = (ts.map columnsMoved).sum := by
  induction ts with
  | nil => rfl
  | cons t ts ih =>
    rw [List.flatMap_cons, Position.columns_append, columns_distances, ih, List.map_cons,
      List.sum_cons]

/-! ## The cursor of a run -/

theorem step_forward (s : Session) (ht : isForward t = true) :
    (s.step t).2.cursor = s.cursor.walk (distances t) ∧ (s.step t).2.mark = s.mark := by
  rcases s.step_cases t with ⟨a, next, haccepts, hstep⟩ | ⟨refusal, hrefuses, hstep⟩
  · rw [hstep]
    cases haccepts with
    | jump => cases ht
    | mark => cases ht
    | advance => exact ⟨Position.passText_eq_walk _ _, rfl⟩
    | _ => exact ⟨rfl, rfl⟩
  · rw [hstep]
    cases hrefuses <;> exact ⟨rfl, rfl⟩

theorem run_forward (s : Session) (hts : ∀ t ∈ ts, isForward t = true) :
    (s.run ts).2.cursor = s.cursor.walk (ts.flatMap distances) ∧ (s.run ts).2.mark = s.mark := by
  induction ts generalizing s with
  | nil => exact ⟨rfl, rfl⟩
  | cons t ts ih =>
    rw [List.forall_mem_cons] at hts
    obtain ⟨hcursor, hmark⟩ := step_forward s hts.1
    obtain ⟨hcursors, hmarks⟩ := ih (s.step t).2 hts.2
    rw [run_cons, List.flatMap_cons, Position.walk_append, ← hcursor]
    exact ⟨hcursors, hmarks.trans hmark⟩

theorem pairwise_cursors (hts : ∀ t ∈ ts, isForward t = true)
    (h : s.cursor.line.toNat + (ts.map linesMoved).sum ≤ 4294967295) :
    (s.cursors ts).Pairwise (· ≤ ·) ∧ ∀ q ∈ s.cursors ts, s.cursor ≤ q := by
  induction ts generalizing s with
  | nil =>
    refine ⟨List.pairwise_singleton _ _, fun q hq => ?_⟩
    rw [cursors, List.mem_singleton] at hq
    exact hq ▸ Position.le_refl _
  | cons t ts ih =>
    rw [List.forall_mem_cons] at hts
    rw [List.map_cons, List.sum_cons, ← lines_distances] at h
    have hwalk := (step_forward s hts.1).1
    have hfirst : s.cursor.line.toNat + lines (distances t) ≤ 4294967295 := by omega
    have hrest : (s.step t).2.cursor.line.toNat + (ts.map linesMoved).sum ≤ 4294967295 := by
      rw [hwalk, Position.line_walk]
      omega
    obtain ⟨hpairwise, hlow⟩ := ih hts.2 hrest
    -- the places of the step lie before its end, and all later places behind it
    have hcross : ∀ p ∈ s.cursor.trail (distances t), ∀ q ∈ (s.step t).2.cursors ts, p ≤ q := by
      intro p hp q hq
      apply Position.le_trans (Position.mem_trail_bounds hfirst hp).2
      rw [← hwalk]
      exact hlow q hq
    rw [cursors]
    refine ⟨List.pairwise_append.2 ⟨Position.pairwise_trail hfirst, hpairwise, hcross⟩, ?_⟩
    intro q hq
    rcases List.mem_append.1 hq with hq | hq
    · exact (Position.mem_trail_bounds hfirst hq).1
    · exact hcross _ (Position.start_mem_trail _ _) q hq

/-! ## Spans from the mark -/

/-- The session has a span from its mark `start` to its cursor, with no text just if the steps since
the mark moved nothing, or only columns in the last one that can be counted. -/
structure SpansFrom (s : Session) (start : Position) (ts : List Step) : Prop where
  mark_eq : s.mark = start
  span : ∃ span, (s.step .span).1 = .ok (.span span) ∧ span.start = s.mark ∧ span.stop = s.cursor ∧
    (span.isEmpty = true ↔ (ts.map linesMoved).sum = 0 ∧
      ((ts.map columnsMoved).sum = 0 ∨ start.column = 4294967295))
  report : ∀ evidence p q, (s.step (.report evidence)).1 ≠ .error (.failure (.inverted p q))

theorem spansFrom_run (hmark : s.mark = s.cursor) (hts : ∀ t ∈ ts, isForward t = true)
    (h : s.cursor.line.toNat + (ts.map linesMoved).sum ≤ 4294967295) :
    SpansFrom (s.run ts).2 s.mark ts := by
  obtain ⟨hcursor, hkeeps⟩ := run_forward s hts
  rw [← lines_flatMap] at h
  have hle : (s.run ts).2.mark ≤ (s.run ts).2.cursor := by
    rw [hkeeps, hmark, hcursor]
    exact Position.le_walk h
  refine ⟨hkeeps, ⟨_, congrArg Prod.fst (step_of_accepts (.span hle)), rfl, rfl, ?_⟩, ?_⟩
  · rw [← lines_flatMap, ← columns_flatMap, hmark, ← Position.walk_eq_start_iff h, Span.isEmpty,
      beq_iff_eq]
    show (s.run ts).2.mark = (s.run ts).2.cursor ↔ _
    rw [hkeeps, hmark, hcursor]
    exact eq_comm
  · intro evidence p q hinverted
    have hrefuses := (refuses_of_step_eq_error hinverted).1
    cases hrefuses with
    | reportInverted hnot => exact hnot hle

/-- A motion leads back only where the line is the last one that can be counted, to a smaller column
of it. So where the lines moved since a mark stay within 32 bits, the cursor visits its places in
order, and at every point the session has a span from the mark. -/
theorem forward_spans_in_order :
    (∀ p d : Position,
        p ≤ p + d ↔ d.line = 0 ∨ p.line < 4294967295 ∨ p.column ≤ max d.column 1) ∧
      ∀ (s marked : Session) (ts : List Step), marked = (s.step .mark).2 →
        (∀ t ∈ ts, isForward t = true) →
          marked.mark.line.toNat + (ts.map linesMoved).sum ≤ 4294967295 →
            (marked.cursors ts).Pairwise (· ≤ ·) ∧
              ∀ us, us <+: ts → SpansFrom (s.run (.mark :: us)).2 marked.mark us := by
  refine ⟨Position.le_add_iff, ?_⟩
  rintro s marked ts rfl hts h
  have hmark : (s.step .mark).2.mark = (s.step .mark).2.cursor := rfl
  rw [hmark] at h
  refine ⟨(pairwise_cursors hts h).1, ?_⟩
  rintro us ⟨vs, rfl⟩
  rw [List.map_append, List.sum_append] at h
  rw [List.forall_mem_append] at hts
  exact spansFrom_run hmark hts.1 (by omega)

/-- From the last line but one, over a line feed and on. -/
theorem forward_spans_up_to_last_line :
    (∀ t ∈ [Step.advance "a\nb", .copy 0, .move ⟨0, 7⟩], isForward t = true) ∧
      4294967294 + ([Step.advance "a\nb", .copy 0, .move ⟨0, 7⟩].map linesMoved).sum ≤ 4294967295 ∧
        SpansFrom ((initial.withCursor ⟨4294967294, 5⟩).run
          [.mark, .advance "a\nb", .copy 0, .move ⟨0, 7⟩]).2 ⟨4294967294, 5⟩
          [.advance "a\nb", .copy 0, .move ⟨0, 7⟩] := by
  have hts : ∀ t ∈ [Step.advance "a\nb", .copy 0, .move ⟨0, 7⟩], isForward t = true := by decide
  have hlines : 4294967294 + ([Step.advance "a\nb", .copy 0, .move ⟨0, 7⟩].map linesMoved).sum ≤
      4294967295 := by decide
  exact ⟨hts, hlines,
    (forward_spans_in_order.2 (initial.withCursor ⟨4294967294, 5⟩) _ _ rfl hts hlines).2 _
      List.prefix_rfl⟩

end LexFault.Session
