import LexFault.Proofs.Evidence
import LexFault.Proofs.Text.Ascii

/-!
# Nesting of block comments

Block comments nest: a scanner that takes in delimiters from left to right, no character twice, is at
some depth behind each of them, and the comment is closed where the depth comes back to 0. The check
on a comment compares two counts instead, in which a character may belong to two delimiters. The
counts differ by the depth at the end and by how often two delimiters overlap
(`openings_eq_closings_add`); so the check is right where none do and the comment is not closed before
its end, and `unterminatedComment_accepted_iff` says just when it is right at all.
-/

namespace LexFault.Comment

open Text TextUnit

/-! ## Bytes and characters -/

theorem agree_slash : Agree (is '/') (is '/') := agree_is (by decide)

theorem agree_star : Agree (is '*') (is '*') := agree_is (by decide)

theorem openings_utf8 (t : List Char) : openings (utf8 t) = openings t :=
  agree_slash.countAdjacent_utf8 agree_star t

theorem closings_utf8 (t : List Char) : closings (utf8 t) = closings t :=
  agree_star.countAdjacent_utf8 agree_slash t

theorem opens_utf8 (t : List Char) : opens (utf8 t) = opens t := by
  cases t with
  | nil => rfl
  | cons c t =>
    obtain ⟨b, l, hl, hb⟩ := utf8EncodeChar_eq_cons c
    obtain ⟨hslash, hlone⟩ := hb _ _ agree_slash
    have opens_cons : ∀ {α : Type} [TextUnit α] (a : α) (u : List α),
        opens (a :: u) = (is '/' a && u.head?.any (is '*')) := by
      intro α _ a u
      cases u <;> simp [opens]
    rw [utf8_cons, hl, List.cons_append, opens_cons, opens_cons, hslash]
    cases hc : is '/' c
    · rfl
    · rw [hlone hc, List.nil_append, agree_star.head?_any_utf8]

theorem opens_iff {t : List Char} : opens t = true ↔ ∃ u, t = '/' :: '*' :: u := by
  unfold opens
  split
  · next a b u => simp [is_char]
  · next h =>
    simp only [Bool.false_eq_true, false_iff, not_exists]
    exact fun u => h '/' '*' u

/-! ## The scanner -/

/-- The depths that a scanner passes through from depth `d` on, one for each delimiter and for each
other character that it takes in. -/
def depths (d : Int) : List Char → List Int
  | '/' :: '*' :: t => (d + 1) :: depths (d + 1) t
  | '*' :: '/' :: t => (d - 1) :: depths (d - 1) t
  | _ :: t => d :: depths d t
  | [] => []

/-- The depth at the end of a text. -/
def finalDepth (t : List Char) : Int := (depths 0 t).getLastD 0

/-- A text that opens a comment and reaches its end before the depth comes back to 0. -/
def Unclosed (t : List Char) : Prop := opens t = true ∧ 0 ∉ depths 0 t

instance (t : List Char) : Decidable (Unclosed t) :=
  inferInstanceAs (Decidable (opens t = true ∧ 0 ∉ depths 0 t))

/-- How many of the delimiters that a scanner takes in share their last character with an opening
delimiter, less how many share it with a closing one. -/
def overlap : List Char → Int
  | '/' :: '*' :: t => overlap t - if t.head? = some '/' then 1 else 0
  | '*' :: '/' :: t => overlap t + if t.head? = some '*' then 1 else 0
  | _ :: t => overlap t
  | [] => 0

/-! ## What the counts compare -/

theorem openings_cons (c : Char) (t : List Char) :
    openings (c :: t) = (if c = '/' ∧ t.head? = some '*' then 1 else 0) + openings t := by
  unfold openings
  rw [countAdjacent_cons]
  cases t <;> simp [is_char]

theorem closings_cons (c : Char) (t : List Char) :
    closings (c :: t) = (if c = '*' ∧ t.head? = some '/' then 1 else 0) + closings t := by
  unfold closings
  rw [countAdjacent_cons]
  cases t <;> simp [is_char]

theorem counts_opening (t : List Char) :
    openings ('/' :: '*' :: t) = openings t + 1 ∧
      closings ('/' :: '*' :: t) = closings t + if t.head? = some '/' then 1 else 0 := by
  simp [openings_cons, closings_cons, Nat.add_comm]

theorem counts_closing (t : List Char) :
    openings ('*' :: '/' :: t) = openings t + (if t.head? = some '*' then 1 else 0) ∧
      closings ('*' :: '/' :: t) = closings t + 1 := by
  simp [openings_cons, closings_cons, Nat.add_comm]

theorem counts_other {c : Char} {t : List Char} (hopen : ∀ u, c = '/' → t = '*' :: u → False)
    (hclose : ∀ u, c = '*' → t = '/' :: u → False) :
    openings (c :: t) = openings t ∧ closings (c :: t) = closings t := by
  have hstar : ¬ (c = '/' ∧ t.head? = some '*') := by
    intro h
    obtain ⟨u, hu⟩ := List.head?_eq_some_iff.1 h.2
    exact hopen u h.1 hu
  have hslash : ¬ (c = '*' ∧ t.head? = some '/') := by
    intro h
    obtain ⟨u, hu⟩ := List.head?_eq_some_iff.1 h.2
    exact hclose u h.1 hu
  rw [openings_cons, closings_cons, if_neg hstar, if_neg hslash]
  exact ⟨Nat.zero_add _, Nat.zero_add _⟩

theorem openings_eq_closings_add (d : Int) (t : List Char) :
    (openings t : Int) = closings t + ((depths d t).getLastD d - d) + overlap t := by
  fun_induction depths d t with
  | case1 d t ih =>
    obtain ⟨hopenings, hclosings⟩ := counts_opening t
    rw [List.getLastD_cons, overlap, hopenings, hclosings]
    by_cases h : t.head? = some '/'
    · rw [if_pos h, if_pos h]
      omega
    · rw [if_neg h, if_neg h]
      omega
  | case2 d t ih =>
    obtain ⟨hopenings, hclosings⟩ := counts_closing t
    rw [List.getLastD_cons, overlap, hopenings, hclosings]
    by_cases h : t.head? = some '*'
    · rw [if_pos h, if_pos h]
      omega
    · rw [if_neg h, if_neg h]
      omega
  | case3 d c t hopen hclose ih =>
    obtain ⟨hopenings, hclosings⟩ := counts_other hopen hclose
    rw [List.getLastD_cons, overlap.eq_3 c t hopen hclose, hopenings, hclosings]
    exact ih
  | case4 d => simp [openings, closings, countAdjacent, overlap]

/-- Where no character belongs to two delimiters, none overlap. -/
theorem overlap_eq_zero {t : List Char} (hopen : ¬ ['/', '*', '/'] <:+: t)
    (hclose : ¬ ['*', '/', '*'] <:+: t) : overlap t = 0 := by
  fun_induction overlap t with
  | case1 t ih =>
    have hhead : t.head? ≠ some '/' := by
      intro h
      obtain ⟨u, rfl⟩ := List.head?_eq_some_iff.1 h
      exact hopen ⟨[], u, rfl⟩
    rw [if_neg hhead, ih (fun h => hopen (h.trans ⟨['/', '*'], [], by simp⟩))
      (fun h => hclose (h.trans ⟨['/', '*'], [], by simp⟩))]
    rfl
  | case2 t ih =>
    have hhead : t.head? ≠ some '*' := by
      intro h
      obtain ⟨u, rfl⟩ := List.head?_eq_some_iff.1 h
      exact hclose ⟨[], u, rfl⟩
    rw [if_neg hhead, ih (fun h => hopen (h.trans ⟨['*', '/'], [], by simp⟩))
      (fun h => hclose (h.trans ⟨['*', '/'], [], by simp⟩))]
    rfl
  | case3 c t _ _ ih =>
    exact ih (fun h => hopen (h.trans (List.infix_cons List.infix_rfl)))
      (fun h => hclose (h.trans (List.infix_cons List.infix_rfl)))
  | case4 => rfl

/-- A scanner that starts inside a comment and never leaves it ends inside it. -/
theorem getLastD_depths_pos {d : Int} {t : List Char} (hd : 0 < d) (h : 0 ∉ depths d t) :
    0 < (depths d t).getLastD d := by
  fun_induction depths d t with
  | case1 d t ih =>
    rw [List.mem_cons, not_or] at h
    rw [List.getLastD_cons]
    exact ih (by omega) h.2
  | case2 d t ih =>
    rw [List.mem_cons, not_or] at h
    rw [List.getLastD_cons]
    exact ih (by omega) h.2
  | case3 d c t _ _ ih =>
    rw [List.mem_cons, not_or] at h
    rw [List.getLastD_cons]
    exact ih hd h.2
  | case4 d => exact hd

theorem finalDepth_pos {t : List Char} (h : Unclosed t) : 0 < finalDepth t := by
  obtain ⟨hopens, hdepths⟩ := h
  obtain ⟨u, rfl⟩ := opens_iff.1 hopens
  unfold finalDepth
  rw [depths, List.mem_cons, not_or] at hdepths
  rw [depths, List.getLastD_cons]
  exact getLastD_depths_pos (by decide) hdepths.2

theorem finalDepth_eq_zero {t : List Char} (hlast : 0 ∉ (depths 0 t).dropLast)
    (h : 0 ∈ depths 0 t) : finalDepth t = 0 := by
  have hne : depths 0 t ≠ [] := List.ne_nil_of_mem h
  rw [← List.dropLast_concat_getLast hne, List.mem_append, List.mem_singleton] at h
  unfold finalDepth
  rw [List.getLastD_eq_getLast?, List.getLast?_eq_some_getLast hne]
  exact (h.resolve_left hlast).symm

/-! ## When the check is right -/

open Evidence (Accepted)

theorem accepted_iff_lt {comment : String} {span : Span} :
    Accepted (.unterminatedComment comment) span ↔
      opens comment.toList = true ∧ closings comment.toList < openings comment.toList := by
  simp only [Evidence.accepted_iff, Evidence.examine_unterminatedComment, opens_utf8,
    openings_utf8, closings_utf8, exists_and_left, exists_eq', and_true]

/-- A comment is reported as unterminated if it opens and the depth at its end, with what overlapping
delimiters add to it, is positive. So the reports are right just where this holds of the texts that
come to their end unclosed and of no others; in particular, where no character belongs to two
delimiters and the comment is not closed before its end. -/
theorem unterminatedComment_accepted_iff (comment : String) (span : Span) :
    (Accepted (.unterminatedComment comment) span ↔
        opens comment.toList = true ∧ 0 < finalDepth comment.toList + overlap comment.toList) ∧
      ((Accepted (.unterminatedComment comment) span ↔ Unclosed comment.toList) ↔
        (opens comment.toList = true →
          (0 ∉ depths 0 comment.toList ↔
            0 < finalDepth comment.toList + overlap comment.toList))) ∧
      (¬ ['/', '*', '/'] <:+: comment.toList → ¬ ['*', '/', '*'] <:+: comment.toList →
        0 ∉ (depths 0 comment.toList).dropLast →
          (Accepted (.unterminatedComment comment) span ↔ Unclosed comment.toList)) := by
  have haccepted : Accepted (.unterminatedComment comment) span ↔
      opens comment.toList = true ∧ 0 < finalDepth comment.toList + overlap comment.toList := by
    have hcounts := openings_eq_closings_add 0 comment.toList
    rw [accepted_iff_lt]
    unfold finalDepth
    refine and_congr_right fun _ => ?_
    omega
  refine ⟨haccepted, ?_, ?_⟩
  · rw [haccepted, Unclosed, and_congr_right_iff]
    exact forall_congr' fun _ => Iff.comm
  · intro hopen hclose hlast
    rw [haccepted, overlap_eq_zero hopen hclose, Int.add_zero]
    constructor
    · intro h
      refine ⟨h.1, fun hzero => ?_⟩
      have := finalDepth_eq_zero hlast hzero
      omega
    · intro h
      exact ⟨h.1, finalDepth_pos h⟩

/-- A nested comment that is closed at its very end, without a blank between the last delimiters, is
reported as unterminated; an opening delimiter with a slash behind it is not. -/
theorem closed_comment_accepted :
    (Accepted (.unterminatedComment "/* a /* b */*/") ⟨.origin, .origin, by decide⟩ ∧
        depths 0 "/* a /* b */*/".toList = [1, 1, 1, 1, 2, 2, 2, 2, 1, 0]) ∧
      ¬ Accepted (.unterminatedComment "/*/") ⟨.origin, .origin, by decide⟩ ∧
        Unclosed "/*/".toList := by
  rw [accepted_iff_lt, accepted_iff_lt]
  exact ⟨⟨by decide, by decide⟩, by decide, by decide⟩

theorem unterminatedComment_accepted_iff_of_nested :
    ¬ ['/', '*', '/'] <:+: "/* a /* b */ c".toList ∧
      ¬ ['*', '/', '*'] <:+: "/* a /* b */ c".toList ∧
      0 ∉ (depths 0 "/* a /* b */ c".toList).dropLast ∧
      (Accepted (.unterminatedComment "/* a /* b */ c") ⟨.origin, .origin, by decide⟩ ↔
        Unclosed "/* a /* b */ c".toList) := by
  have hopen : ¬ ['/', '*', '/'] <:+: "/* a /* b */ c".toList := by decide +kernel
  have hclose : ¬ ['*', '/', '*'] <:+: "/* a /* b */ c".toList := by decide +kernel
  have hlast : 0 ∉ (depths 0 "/* a /* b */ c".toList).dropLast := by decide +kernel
  exact ⟨hopen, hclose, hlast,
    (unterminatedComment_accepted_iff "/* a /* b */ c" _).2.2 hopen hclose hlast⟩

end LexFault.Comment
