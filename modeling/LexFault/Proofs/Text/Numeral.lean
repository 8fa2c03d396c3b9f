import LexFault.Span
import LexFault.Text.Search

/-!
# Reading echoes, numerals, positions and spans back

What is echoed between two fixed texts can be read off, whatever it is. A decimal numeral ends at the
first character that is no digit, and starts behind the last one. So a numeral, a position and a span
can each be read off from the front of a longer text that goes on with a character other than a digit.
-/

namespace LexFault

open Text

namespace Text

theorem echo_inj {lead tail text text' : String}
    (h : lead ++ text ++ tail = lead ++ text' ++ tail) : text = text' :=
  (String.append_right_inj lead).1 ((String.append_left_inj tail).1 h)

theorem isDigit_of_mem_repr {n : Nat} {c : Char} (h : c ∈ n.repr.toList) : c.isDigit = true := by
  rw [Nat.toList_repr] at h
  exact Nat.isDigit_of_mem_toDigits (by decide) (by decide) h

theorem repr_inj {m n : Nat} (h : m.repr.toList = n.repr.toList) : m = n := by
  rw [Nat.toList_repr, Nat.toList_repr] at h
  have := congrArg (Nat.ofDigitChars 10 · 0) h
  simpa only [Nat.ofDigitChars_ten_toDigits] using this

variable {m n : Nat} {x y : Char} {s s' u u' : List Char}

theorem repr_append_inj (hx : x.isDigit = false) (hy : y.isDigit = false)
    (h : m.repr.toList ++ x :: u = n.repr.toList ++ y :: u') : m = n ∧ x = y ∧ u = u' := by
  obtain ⟨hmn, hxy, hu⟩ := split_first_unique (p := fun c => !c.isDigit) h (by simp [hx])
    (by simp [hy]) (fun c hc => by simp [isDigit_of_mem_repr hc])
    (fun c hc => by simp [isDigit_of_mem_repr hc])
  exact ⟨repr_inj hmn, hxy, hu⟩

theorem append_repr_inj (hx : x.isDigit = false) (hy : y.isDigit = false)
    (h : s ++ x :: m.repr.toList = s' ++ y :: n.repr.toList) : s = s' ∧ x = y ∧ m = n := by
  obtain ⟨hs, hxy, hmn⟩ := split_last_unique (p := fun c => !c.isDigit) h (by simp [hx])
    (by simp [hy]) (fun c hc => by simp [isDigit_of_mem_repr hc])
    (fun c hc => by simp [isDigit_of_mem_repr hc])
  exact ⟨hs, hxy, repr_inj hmn⟩

end Text

variable {x y : Char} {u u' : List Char}

theorem Position.text_append_inj {p q : Position} (hx : x.isDigit = false) (hy : y.isDigit = false)
    (h : p.text.toList ++ x :: u = q.text.toList ++ y :: u') : p = q ∧ x = y ∧ u = u' := by
  have hcolon : ∀ (p : Position) (v : List Char), p.text.toList ++ v =
      p.line.toNat.repr.toList ++ ':' :: (p.column.toNat.repr.toList ++ v) := by
    intro p v
    simp [Position.text]
  rw [hcolon, hcolon] at h
  obtain ⟨hline, -, h⟩ := repr_append_inj rfl rfl h
  obtain ⟨hcolumn, hxy, hu⟩ := repr_append_inj hx hy h
  refine ⟨?_, hxy, hu⟩
  cases p
  cases q
  rw [UInt32.toNat_inj] at hline hcolumn
  exact Position.mk.injEq .. ▸ ⟨hline, hcolumn⟩

theorem Span.text_append_inj {s t : Span} (hx : x.isDigit = false) (hy : y.isDigit = false)
    (h : s.text.toList ++ x :: u = t.text.toList ++ y :: u') : s = t ∧ x = y ∧ u = u' := by
  have hends : ∀ (s : Span) (v : List Char), s.text.toList ++ v =
      "from ".toList ++ (s.start.text.toList ++ ' ' :: ("to ".toList ++ (s.stop.text.toList ++ v))) := by
    intro s v
    simp [Span.text]
  rw [hends, hends] at h
  obtain ⟨hstart, -, h⟩ := Position.text_append_inj rfl rfl (List.append_cancel_left h)
  obtain ⟨hstop, hxy, hu⟩ := Position.text_append_inj hx hy (List.append_cancel_left h)
  refine ⟨?_, hxy, hu⟩
  obtain ⟨start, stop, _⟩ := s
  obtain ⟨start', stop', _⟩ := t
  cases hstart
  cases hstop
  rfl

end LexFault
