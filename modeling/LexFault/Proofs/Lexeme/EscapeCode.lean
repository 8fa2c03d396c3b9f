import LexFault.Proofs.Lexeme.EscapeForm
import LexFault.Proofs.Text.PrefixFree
import Mathlib.Data.Set.List

/-!
# Where an escape ends

Two rows of tests clash if at some place no unit passes both of their tests. Then no text that fits the
one is the start of a text that fits the other (`Clash.not_prefix_of_fits`). The rows of any two forms
of an escape clash: one has a letter where another has `x` or `u`, and of two forms in braces the
shorter has its closing brace where the longer has a digit (`Form.clash_of_ne`). Escapes of one form
are equally long, so no escape is the start of another one, whatever the grammars, and a run of escapes
splits in one way (`escapes_split_uniquely`).
-/

namespace LexFault.Escape

open Text TextUnit

/-! ## Rows that clash -/

section Rows

variable {α : Type} {p : α → Bool} {row row' : List (α → Bool)} {s t : List α}

theorem Fits.exists_getElem? {i : Nat} (h : Fits row t) (hp : row[i]? = some p) :
    ∃ a, t[i]? = some a ∧ p a = true := by
  induction h generalizing i with
  | nil => cases hp
  | @cons p' a row t ha _ ih =>
    cases i with
    | zero =>
      cases hp
      exact ⟨a, rfl, ha⟩
    | succ i => exact ih hp

theorem Fits.eq_of_prefix (hs : Fits row s) (ht : Fits row t) (h : s <+: t) : s = t :=
  h.eq_of_length (hs.length_eq.symm.trans ht.length_eq)

/-- At some place no unit passes the tests of both rows. -/
def Clash (row row' : List (α → Bool)) : Prop :=
  ∃ (i : Nat) (p q : α → Bool), row[i]? = some p ∧ row'[i]? = some q ∧
    ∀ a, p a = true → q a = false

theorem Clash.symm (h : Clash row row') : Clash row' row := by
  obtain ⟨i, p, q, hp, hq, hpq⟩ := h
  refine ⟨i, q, p, hq, hp, fun a hqa => Bool.eq_false_iff.2 fun hpa => ?_⟩
  rw [hpq a hpa] at hqa
  cases hqa

theorem Clash.not_prefix_of_fits (h : Clash row row') (hs : Fits row s) (ht : Fits row' t) :
    ¬ s <+: t := by
  obtain ⟨i, p, q, hp, hq, hpq⟩ := h
  obtain ⟨a, ha, hpa⟩ := hs.exists_getElem? hp
  obtain ⟨b, hb, hqb⟩ := ht.exists_getElem? hq
  rintro ⟨u, rfl⟩
  obtain ⟨hlt, -⟩ := List.getElem?_eq_some_iff.1 ha
  rw [List.getElem?_append_left hlt, ha] at hb
  cases hb
  rw [hpq a hpa] at hqb
  cases hqb

end Rows

/-! ## The rows of the forms -/

/-- How an escape is written: a letter, a value of two digits, or a number of digits in braces. -/
inductive Form where
  | letter
  | value
  | braced (digits : Nat)

/-- The tests that an escape of a form fits. -/
def Form.row : Form → List (Char → Bool)
  | .letter => letterRow
  | .value => valueRow isHexDigit
  | .braced n => bracedRow n

theorem exists_form (g : Grammar) {t : List Char} (h : g.accepts t = true) :
    ∃ f : Form, Fits f.row t := by
  have hbyte : isByte t = true → ∃ f : Form, Fits f.row t := by
    intro h
    rcases isByte_iff.1 h with h | h
    · exact ⟨.letter, h⟩
    · exact ⟨.value, h⟩
  cases g with
  | ascii => exact hbyte (isAscii_iff_isByte.1 h).1
  | byte => exact hbyte h
  | unicode =>
    obtain ⟨n, -, -, hfits⟩ := isUnicode_iff.1 h
    exact ⟨.braced n, hfits⟩

theorem clash_bracedRow {m n : Nat} (h : m < n) :
    Clash (bracedRow m : List (Char → Bool)) (bracedRow n) := by
  -- The place behind `m` digits: three tests come before them.
  refine ⟨m + 3, is '}', isHexDigit, ?_, ?_, fun c => not_isHexDigit_brace⟩
  · simp [bracedRow]
  · simp [bracedRow, List.getElem?_append, h]

theorem is_eq_false_of_isSimple {d : Char} (hd : isSimple d = false) (c : Char)
    (hc : isSimple c = true) : is d c = false := by
  rw [is_char, decide_eq_false_iff_not]
  rintro rfl
  rw [hd] at hc
  cases hc

theorem Form.clash_of_ne {f f' : Form} (h : f ≠ f') : Clash f.row f'.row := by
  have hvalue : Clash Form.letter.row Form.value.row :=
    ⟨1, isSimple, is 'x', rfl, rfl, is_eq_false_of_isSimple rfl⟩
  have hletter : ∀ n, Clash Form.letter.row (Form.braced n).row := fun n =>
    ⟨1, isSimple, is 'u', rfl, rfl, is_eq_false_of_isSimple rfl⟩
  have hbraced : ∀ n, Clash Form.value.row (Form.braced n).row := fun n =>
    ⟨1, is 'x', is 'u', rfl, rfl, by simp [is_char]⟩
  cases f with
  | letter =>
    cases f' with
    | letter => exact absurd rfl h
    | value => exact hvalue
    | braced n => exact hletter n
  | value =>
    cases f' with
    | letter => exact hvalue.symm
    | value => exact absurd rfl h
    | braced n => exact hbraced n
  | braced m =>
    cases f' with
    | letter => exact (hletter m).symm
    | value => exact (hbraced m).symm
    | braced n =>
      have hne : m ≠ n := fun hmn => h (congrArg _ hmn)
      rcases Nat.lt_or_gt_of_ne hne with hlt | hlt
      · exact clash_bracedRow hlt
      · exact (clash_bracedRow hlt).symm

/-! ## Runs of escapes -/

/-- An escape of one of the grammars. -/
def IsEscape (e : String) : Prop := ∃ g : Grammar, g.isValid e = true

theorem IsEscape.exists_form {e : String} (h : IsEscape e) : ∃ f : Form, Fits f.row e.toList := by
  obtain ⟨g, hg⟩ := h
  exact Escape.exists_form g ((g.accepts_utf8 _).symm.trans hg)

theorem prefixFree_escapes : PrefixFree fun e : {e : String // IsEscape e} => e.val := by
  rintro ⟨e, he⟩ ⟨e', he'⟩ hprefix
  obtain ⟨f, hf⟩ := he.exists_form
  obtain ⟨f', hf'⟩ := he'.exists_form
  obtain rfl : f = f' := by
    by_contra hne
    exact (Form.clash_of_ne hne).not_prefix_of_fits hf hf' hprefix
  exact Subtype.ext (String.toList_inj.1 (hf.eq_of_prefix hf' hprefix))

theorem not_isEscape_empty : ¬ IsEscape "" := by
  rintro ⟨g, hg⟩
  cases g <;> cases hg

/-- No escape is the start of another one, not even of another grammar, and so a run of escapes splits
into escapes in one way only. -/
theorem escapes_split_uniquely :
    (∀ e f : String, IsEscape e → IsEscape f → e.toList <+: f.toList → e = f) ∧
      ∀ es fs : List String, (∀ e ∈ es, IsEscape e) → (∀ f ∈ fs, IsEscape f) →
        String.join es = String.join fs → es = fs := by
  constructor
  · intro e f he hf hprefix
    exact congrArg Subtype.val (prefixFree_escapes ⟨e, he⟩ ⟨f, hf⟩ hprefix)
  · intro es fs hes hfs hjoin
    lift es to List {e : String // IsEscape e} using hes
    lift fs to List {e : String // IsEscape e} using hfs
    have hne : ∀ e : {e : String // IsEscape e}, e.val ≠ "" := fun e he =>
      not_isEscape_empty (he ▸ e.property)
    exact congrArg _ (prefixFree_escapes.join_injective hne hjoin)

/-- A run of a byte escape, a letter and a Unicode escape. -/
theorem escapes_split_uniquely_mixed :
    (IsEscape "\\xff" ∧ "\\xff".toList <+: "\\xff".toList ∧ "\\xff" = "\\xff") ∧
      (∀ e ∈ ["\\xff", "\\n", "\\u\x7b41\x7d"], IsEscape e) ∧
        String.join ["\\xff", "\\n", "\\u\x7b41\x7d"] = "\\xff\\n\\u\x7b41\x7d" ∧
          ["\\xff", "\\n", "\\u\x7b41\x7d"] = ["\\xff", "\\n", "\\u\x7b41\x7d"] := by
  have hbyte : IsEscape "\\xff" := ⟨.byte, by decide⟩
  have hrun : ∀ e ∈ ["\\xff", "\\n", "\\u\x7b41\x7d"], IsEscape e := by
    simp only [List.forall_mem_cons]
    exact ⟨hbyte, ⟨.ascii, by decide⟩, ⟨.unicode, by decide⟩, by simp⟩
  obtain ⟨hpair, hlists⟩ := escapes_split_uniquely
  have hprefix : "\\xff".toList <+: "\\xff".toList := List.prefix_refl _
  exact ⟨⟨hbyte, hprefix, hpair _ _ hbyte hbyte hprefix⟩, hrun, by decide,
    hlists _ _ hrun hrun rfl⟩

end LexFault.Escape
