import LexFault.Proofs.Position.Walk
import LexFault.Text.Search

/-!
# Where a walk ends

Capping after every step comes to the same as capping once at the end. The line of a walk is the
capped sum of all lines (`line_walk`). Its column is the capped sum of the columns behind the last
distance that leaves its line, counted on from the column where that one ends, or from the start if
there is none (`column_walk_of_level`, `column_walk_of_break`).

Over a text the last such distance is the last line feed. So passing a text is a single motion, by
its line feeds and the columns of its last line (`passText_eq_add_of_level`,
`passText_eq_add_of_break`).
-/

namespace LexFault.Position

variable {p d : Position} {ds es fs : List Position}

/-! ## The last position of a trail -/

theorem trail_ne_nil (p : Position) (ds : List Position) : p.trail ds ≠ [] := by
  cases ds <;> exact List.cons_ne_nil _ _

theorem getLast?_trail (p : Position) (ds : List Position) :
    (p.trail ds).getLast? = some (p.walk ds) := by
  induction ds generalizing p with
  | nil => rfl
  | cons d ds ih =>
    rw [trail, walk_cons, ← ih]
    exact List.getLast?_cons_of_ne_nil (trail_ne_nil _ _)

/-! ## The last line of a walk -/

/-- None of the distances leaves its line. -/
def Level (ds : List Position) : Prop := ∀ d ∈ ds, d.line = 0

theorem lines_eq_zero_iff : lines ds = 0 ↔ Level ds := by
  unfold lines Level
  rw [List.sum_eq_zero_iff_forall_eq_nat, List.forall_mem_map]
  exact forall₂_congr fun d _ => toNat_eq_zero_iff

/-- All distances stay on the line, or there is a last one that does not. -/
theorem level_or_break (ds : List Position) :
    Level ds ∨ ∃ es d fs, ds = es ++ d :: fs ∧ d.line ≠ 0 ∧ Level fs := by
  have h := Text.forall_false_or_split_last (fun d : Position => d.line != 0) ds
  simpa only [Level, bne_eq_false_iff_eq, bne_iff_ne] using h

theorem column_walk_of_level (p : Position) (h : Level ds) :
    (p.walk ds).column.toNat = min (p.column.toNat + columns ds) 4294967295 :=
  column_walk p (lines_eq_zero_iff.2 h)

theorem column_walk_of_break (p : Position) (es : List Position) (hd : d.line ≠ 0)
    (hfs : Level fs) :
    (p.walk (es ++ d :: fs)).column.toNat =
      min (max 1 d.column.toNat + columns fs) 4294967295 := by
  -- whatever column `es` leads to, `d` counts anew
  rw [walk_append, walk_cons, column_walk_of_level _ hfs, toNat_column_add,
    if_neg (mt toNat_eq_zero_iff.1 hd), Nat.max_comm]

/-! ## Texts -/

section Texts

variable {s : String} {t u : List Char}

/-- A text is one line, or splits at its last line feed. -/
theorem no_feed_or_break (t : List Char) : '\n' ∉ t ∨ ∃ s u, t = s ++ '\n' :: u ∧ '\n' ∉ u := by
  rcases Text.forall_false_or_split_last (· == '\n') t with h | ⟨s, c, u, hsplit, hc, hu⟩
  · exact .inl fun hmem => ne_of_beq_false (h _ hmem) rfl
  · rw [eq_of_beq hc] at hsplit
    exact .inr ⟨s, u, hsplit, fun hmem => ne_of_beq_false (hu _ hmem) rfl⟩

theorem level_extents_iff : Level (t.map extent) ↔ '\n' ∉ t := by
  rw [← lines_eq_zero_iff, lines_extents, List.count_eq_zero]

theorem columns_extents_of_level (h : '\n' ∉ t) : columns (t.map extent) = t.length := by
  rw [columns_extents, List.countP_eq_length]
  intro c hc
  exact bne_iff_ne.2 fun heq => h (heq ▸ hc)

theorem line_passText (p : Position) (s : String) :
    (p.passText s).line.toNat = min (p.line.toNat + s.toList.count '\n') 4294967295 := by
  rw [passText_eq_walk, line_walk, lines_extents]

theorem column_passText_of_level (p : Position) (h : '\n' ∉ s.toList) :
    (p.passText s).column.toNat = min (p.column.toNat + s.length) 4294967295 := by
  rw [passText_eq_walk, column_walk_of_level p (level_extents_iff.2 h), columns_extents_of_level h,
    String.length_toList]

theorem column_passText_of_break (p : Position) (hs : s.toList = t ++ '\n' :: u) (hu : '\n' ∉ u) :
    (p.passText s).column.toNat = min (1 + u.length) 4294967295 := by
  have hfeed : (extent '\n').line ≠ 0 := by decide
  rw [passText_eq_walk, hs, List.map_append, List.map_cons,
    column_walk_of_break p _ hfeed (level_extents_iff.2 hu), columns_extents_of_level hu]
  rfl

/-- Passing a text on one line is one motion by its length. -/
theorem passText_eq_add_of_level (p : Position) (h : '\n' ∉ s.toList) :
    p.passText s = p + ⟨.ofNatClamp (s.toList.count '\n'), .ofNatClamp s.length⟩ := by
  have hp := p.line.toNat_lt
  have hcount := List.count_eq_zero.2 h
  rw [eq_iff_toNat, line_passText, column_passText_of_level p h, toNat_line_add, toNat_column_add,
    toNat_ofNatClamp, toNat_ofNatClamp, hcount, if_pos (Nat.zero_min _)]
  omega

/-- Passing a text with line feeds is one motion, to the end of its last line. -/
theorem passText_eq_add_of_break (p : Position) (hs : s.toList = t ++ '\n' :: u) (hu : '\n' ∉ u) :
    p.passText s = p + ⟨.ofNatClamp (s.toList.count '\n'), .ofNatClamp (1 + u.length)⟩ := by
  have hcount : 0 < s.toList.count '\n' := by
    rw [hs]
    exact List.count_pos_iff.2 List.mem_append_cons_self
  rw [eq_iff_toNat, line_passText, column_passText_of_break p hs hu, toNat_line_add,
    toNat_column_add, toNat_ofNatClamp, toNat_ofNatClamp, if_neg (by omega)]
  omega

/-- Behind two line feeds, the second of them on the last line that can be counted. -/
example : (⟨4294967294, 7⟩ : Position).passText "a\n\nbc" = ⟨4294967294, 7⟩ + ⟨2, 3⟩ := by decide

end Texts

/-- Where a walk ends, in sums that are capped once. Its line comes from all lines, its column from
the columns behind the last distance that leaves its line. Over a text that distance is the last
line feed, and the walk is a single motion. -/
theorem walk_ends_at_capped_sums :
    (∀ (p : Position) (ds : List Position),
      (p.trail ds).getLast? = some (p.walk ds) ∧
        (p.walk ds).line.toNat = min (p.line.toNat + lines ds) 4294967295 ∧
          (Level ds ∧ (p.walk ds).column.toNat = min (p.column.toNat + columns ds) 4294967295 ∨
            ∃ es d fs, ds = es ++ d :: fs ∧ d.line ≠ 0 ∧ Level fs ∧
              (p.walk ds).column.toNat = min (max 1 d.column.toNat + columns fs) 4294967295)) ∧
      ∀ (p : Position) (s : String),
        (p.passText s).line.toNat = min (p.line.toNat + s.toList.count '\n') 4294967295 ∧
          ('\n' ∉ s.toList ∧
              (p.passText s).column.toNat = min (p.column.toNat + s.length) 4294967295 ∧
              p.passText s = p + ⟨.ofNatClamp (s.toList.count '\n'), .ofNatClamp s.length⟩ ∨
            ∃ t u, s.toList = t ++ '\n' :: u ∧ '\n' ∉ u ∧
              (p.passText s).column.toNat = min (1 + u.length) 4294967295 ∧
              p.passText s =
                p + ⟨.ofNatClamp (s.toList.count '\n'), .ofNatClamp (1 + u.length)⟩) := by
  constructor
  · intro p ds
    refine ⟨getLast?_trail p ds, line_walk p ds, ?_⟩
    rcases level_or_break ds with hlevel | ⟨es, d, fs, rfl, hd, hfs⟩
    · exact .inl ⟨hlevel, column_walk_of_level p hlevel⟩
    · exact .inr ⟨es, d, fs, rfl, hd, hfs, column_walk_of_break p es hd hfs⟩
  · intro p s
    refine ⟨line_passText p s, ?_⟩
    rcases no_feed_or_break s.toList with hfeed | ⟨t, u, hs, hu⟩
    · exact .inl ⟨hfeed, column_passText_of_level p hfeed, passText_eq_add_of_level p hfeed⟩
    · exact .inr ⟨t, u, hs, hu, column_passText_of_break p hs hu, passText_eq_add_of_break p hs hu⟩

end LexFault.Position
