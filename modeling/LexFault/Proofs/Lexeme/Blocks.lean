import LexFault.Proofs.Lexeme.Nesting
import Mathlib.Data.List.SplitBy

/-!
# Blocks of slashes and stars

What the two counts of delimiters compare, on any text, nested well or not. Delimiters that overlap
lie in one block, a run of slashes and stars in which any two neighbours differ. Along a block the
openings and the closings take turns, so that they differ by one at most, and the two ends of the
block tell which are ahead (`balance_of_isChain`). No delimiter reaches from one block into the next
(`balance_append`). So openings exceed closings by as many as the blocks from a slash to a star
exceed those from a star to a slash (`Cut.balance_eq`), and a comment is reported as unterminated if
there are more of the former.
-/

namespace LexFault.Comment

open Evidence (Accepted)
open Text

/-! ## Cutting a text into blocks -/

/-- Whether one of two characters is a slash and the other one a star. -/
def alternate (c d : Char) : Bool := (c == '/' && d == '*') || (c == '*' && d == '/')

/-- A text cut wherever two neighbouring characters are not a slash and a star. -/
structure Cut (t : List Char) (ps : List (List Char)) : Prop where
  eq_flatten : t = ps.flatten
  nil_notMem : [] ∉ ps
  alternates : ∀ p ∈ ps, p.IsChain fun c d => alternate c d
  apart : ps.IsChain fun p q => ∃ hp hq, alternate (p.getLast hp) (q.head hq) = false

/-- The pieces that a text is cut into. -/
def pieces (t : List Char) : List (List Char) := t.splitBy alternate

/-- The pieces made of slashes and stars; any other character is a piece of its own. -/
def blocks (t : List Char) : List (List Char) :=
  (pieces t).filter fun p => p.all fun c => c == '/' || c == '*'

/-- Whether a piece starts with one character and ends with another. -/
def joins (c d : Char) (p : List Char) : Bool := p.head? == some c && p.getLast? == some d

/-- How many blocks of a text start with one character and end with another. -/
def blocksFrom (c d : Char) (t : List Char) : Nat := (blocks t).countP (joins c d)

example : blocks "//*/ **".toList = [['/'], ['/', '*', '/'], ['*'], ['*']] := by decide

variable {c d : Char} {s t p : List Char} {ps : List (List Char)}

theorem cut_iff : Cut t ps ↔ ps = pieces t := by
  rw [pieces, eq_comm, List.splitBy_eq_iff]
  constructor
  · intro h
    exact ⟨h.eq_flatten, h.nil_notMem, h.alternates, h.apart⟩
  · intro h
    obtain ⟨hflatten, hnil, halternates, hapart⟩ := h
    exact ⟨hflatten, hnil, halternates, hapart⟩

theorem alternate_iff : alternate c d = true ↔ c = '/' ∧ d = '*' ∨ c = '*' ∧ d = '/' := by
  simp [alternate]

theorem forall_of_isChain (h : (c :: t).IsChain fun c d => alternate c d) (ht : t ≠ []) :
    ∀ d ∈ c :: t, d = '/' ∨ d = '*' := by
  induction t generalizing c with
  | nil => exact absurd rfl ht
  | cons d t ih =>
    obtain ⟨hcd, hchain⟩ := List.isChain_cons_cons.1 h
    have hends : (c = '/' ∨ c = '*') ∧ (d = '/' ∨ d = '*') := by
      rcases alternate_iff.1 hcd with ⟨hc, hd⟩ | ⟨hc, hd⟩
      · exact ⟨.inl hc, .inr hd⟩
      · exact ⟨.inr hc, .inl hd⟩
    refine List.forall_mem_cons.2 ⟨hends.1, ?_⟩
    by_cases htail : t = []
    · rw [htail]
      exact List.forall_mem_singleton.2 hends.2
    · exact ih hchain htail

/-- Of the pieces with two different ends none is left out of the blocks. -/
theorem blocksFrom_eq (hcd : c ≠ d) (t : List Char) :
    blocksFrom c d t = (pieces t).countP (joins c d) := by
  unfold blocksFrom blocks
  rw [List.countP_filter]
  refine List.countP_congr fun p hp => ?_
  rw [Bool.and_eq_true, and_iff_left_iff_imp]
  intro hjoins
  have hchain := (cut_iff.2 (Eq.refl (pieces t))).alternates p hp
  cases p with
  | nil => cases hjoins
  | cons a u =>
    have hu : u ≠ [] := by
      rintro rfl
      simp only [joins, List.head?_cons, List.getLast?_singleton, Bool.and_eq_true,
        beq_iff_eq, Option.some.injEq] at hjoins
      exact hcd (hjoins.1.symm.trans hjoins.2)
    rw [List.all_eq_true]
    intro b hb
    simpa using forall_of_isChain hchain hu b hb

/-! ## Openings less closings -/

/-- By how many the opening delimiters of a text exceed the closing ones. -/
def balance (t : List Char) : Int := openings t - closings t

/-- A slash weighs one and a star nothing, so that an opening delimiter loses what a closing one
gains. -/
def weight (c : Char) : Int := if c = '/' then 1 else 0

theorem balance_nil : balance [] = 0 := rfl

theorem balance_singleton (c : Char) : balance [c] = 0 := rfl

theorem balance_cons_of_alternate (h : alternate c d = true) (t : List Char) :
    balance (c :: d :: t) = weight c - weight d + balance (d :: t) := by
  unfold balance
  rw [openings_cons c, closings_cons c]
  rcases alternate_iff.1 h with ⟨rfl, rfl⟩ | ⟨rfl, rfl⟩
  · simp only [weight, List.head?_cons, Char.reduceEq, true_and, false_and, if_true, if_false]
    omega
  · simp only [weight, List.head?_cons, Char.reduceEq, true_and, false_and, if_true, if_false]
    omega

theorem balance_cons_of_not_alternate (h : ∀ d ∈ t.head?, alternate c d = false) :
    balance (c :: t) = balance t := by
  unfold balance
  have hne : ∀ d u, t = d :: u → ¬ alternate c d = true := by
    rintro d u rfl
    rw [h d rfl]
    exact Bool.false_ne_true
  obtain ⟨hopenings, hclosings⟩ := counts_other
    (fun u hc ht => hne '*' u ht (alternate_iff.2 (.inl ⟨hc, rfl⟩)))
    (fun u hc ht => hne '/' u ht (alternate_iff.2 (.inr ⟨hc, rfl⟩)))
  rw [hopenings, hclosings]

/-- The delimiters of a block take turns, so its two ends tell which are ahead. -/
theorem balance_of_isChain (h : (c :: t).IsChain fun c d => alternate c d) :
    balance (c :: t) = weight c - weight (t.getLastD c) := by
  induction t generalizing c with
  | nil => rw [balance_singleton, List.getLastD_nil, Int.sub_self]
  | cons d t ih =>
    obtain ⟨hcd, hchain⟩ := List.isChain_cons_cons.1 h
    rw [balance_cons_of_alternate hcd, ih hchain, List.getLastD_cons]
    omega

theorem balance_append (h : ∀ c ∈ s.getLast?, ∀ d ∈ t.head?, alternate c d = false) :
    balance (s ++ t) = balance s + balance t := by
  induction s with
  | nil => rw [List.nil_append, balance_nil, Int.zero_add]
  | cons c s ih =>
    cases s with
    | nil =>
      rw [List.singleton_append, balance_singleton, Int.zero_add,
        balance_cons_of_not_alternate (h c rfl)]
    | cons d s =>
      rw [List.getLast?_cons_cons] at h
      rw [List.cons_append, List.cons_append]
      rw [List.cons_append] at ih
      -- the first two characters lie in `s`, so they count the same with `t` behind them
      cases hcd : alternate c d with
      | false =>
        have hhead : ∀ u : List Char, ∀ e ∈ (d :: u).head?, alternate c e = false := by
          rintro u _ ⟨⟩
          exact hcd
        rw [balance_cons_of_not_alternate (hhead _), balance_cons_of_not_alternate (hhead _), ih h]
      | true =>
        rw [balance_cons_of_alternate hcd, balance_cons_of_alternate hcd, ih h, Int.add_assoc]

theorem joins_cons (a b c : Char) (t : List Char) :
    joins a b (c :: t) = true ↔ c = a ∧ t.getLastD c = b := by
  simp [joins, List.getLast?_cons, List.getLastD_eq_getLast?]

theorem ends_of_isChain (h : (c :: t).IsChain fun c d => alternate c d) :
    t.getLastD c = c ∨ (c = '/' ∨ c = '*') ∧ (t.getLastD c = '/' ∨ t.getLastD c = '*') := by
  by_cases ht : t = []
  · rw [ht]
    exact .inl rfl
  · have hlast : t.getLastD c ∈ c :: t := by
      rw [List.getLastD_eq_getLast?, List.getLast?_eq_some_getLast ht]
      exact List.mem_cons_of_mem c (List.getLast_mem ht)
    have hall := forall_of_isChain h ht
    exact .inr ⟨hall c List.mem_cons_self, hall _ hlast⟩

theorem balance_piece (hp : p ≠ []) (h : p.IsChain fun c d => alternate c d) :
    balance p =
      (if joins '/' '*' p then 1 else 0 : Nat) - (if joins '*' '/' p then 1 else 0 : Nat) := by
  obtain ⟨c, t, rfl⟩ := List.exists_cons_of_ne_nil hp
  have hends := ends_of_isChain h
  rw [balance_of_isChain h]
  simp only [joins_cons]
  generalize t.getLastD c = e at hends ⊢
  rcases hends with rfl | ⟨rfl | rfl, rfl | rfl⟩
  · have hslash : ¬ (e = '/' ∧ e = '*') := by
      rintro ⟨rfl, h⟩
      cases h
    have hstar : ¬ (e = '*' ∧ e = '/') := fun h => hslash h.symm
    rw [if_neg hslash, if_neg hstar, Int.sub_self, Int.sub_self]
  all_goals decide

theorem Cut.balance_eq (h : Cut t ps) :
    balance t = ps.countP (joins '/' '*') - ps.countP (joins '*' '/') := by
  induction ps generalizing t with
  | nil =>
    rw [h.eq_flatten]
    rfl
  | cons p ps ih =>
    obtain ⟨rfl, hnil, halternates, hapart⟩ := h
    rw [List.mem_cons, not_or] at hnil
    have hrest : Cut ps.flatten ps :=
      ⟨rfl, hnil.2, fun q hq => halternates q (List.mem_cons_of_mem p hq), hapart.tail⟩
    -- what the rest starts with is what its first piece starts with
    have hseam : ∀ c ∈ p.getLast?, ∀ d ∈ ps.flatten.head?, alternate c d = false := by
      cases ps with
      | nil => simp
      | cons q qs =>
        obtain ⟨hp, hq, hpq⟩ := (List.isChain_cons_cons.1 hapart).1
        intro c hc d hd
        obtain ⟨e, q, rfl⟩ := List.exists_cons_of_ne_nil hq
        cases hd
        rw [List.getLast?_eq_some_getLast hp] at hc
        cases hc
        exact hpq
    rw [List.flatten_cons, balance_append hseam, ih hrest,
      balance_piece (Ne.symm hnil.1) (halternates p List.mem_cons_self), List.countP_cons,
      List.countP_cons]
    omega

/-- Which delimiters of a text outnumber the others, and by how many, is a matter of its blocks:
there is one way to cut it, and openings exceed closings by as many as the blocks from a slash to a
star exceed those from a star to a slash. So a comment is reported as unterminated just if it starts
with an opening delimiter and has more blocks of the first kind. -/
theorem counts_compare_blocks (comment : String) (span : Span) :
    (∀ ps, Cut comment.toList ps ↔ ps = pieces comment.toList) ∧
      (openings (utf8 comment.toList) - closings (utf8 comment.toList) : Int) =
          blocksFrom '/' '*' comment.toList - blocksFrom '*' '/' comment.toList ∧
        (Accepted (.unterminatedComment comment) span ↔
          (∃ rest, comment.toList = '/' :: '*' :: rest) ∧
            blocksFrom '*' '/' comment.toList < blocksFrom '/' '*' comment.toList) := by
  have hcounts : (openings comment.toList - closings comment.toList : Int) =
      blocksFrom '/' '*' comment.toList - blocksFrom '*' '/' comment.toList := by
    rw [blocksFrom_eq (by decide), blocksFrom_eq (by decide)]
    exact (cut_iff.2 rfl).balance_eq
  refine ⟨fun ps => cut_iff, ?_, ?_⟩
  · rw [openings_utf8, closings_utf8]
    exact hcounts
  · rw [accepted_iff_lt, opens_iff]
    refine and_congr_right fun _ => ?_
    omega

end LexFault.Comment
