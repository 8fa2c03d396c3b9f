import Mathlib.Logic.Function.Defs

/-!
# Texts of which none starts another

If none of a family of texts is the start of another one, then at most one of them is the start of any
given text, and it can be split off (`PrefixFree.append_inj`). If moreover none of them is empty, then
a text that is made of them, one after the other, is made of them in one way
(`PrefixFree.join_injective`).
-/

namespace LexFault

/-- No text of the family is the start of another one. -/
def PrefixFree {ι : Type} (name : ι → String) : Prop :=
  ∀ i j, (name i).toList <+: (name j).toList → i = j

namespace PrefixFree

variable {ι : Type} {name : ι → String} {i j : ι}

theorem eq_of_prefix (hname : PrefixFree name) {t : List Char} (hi : (name i).toList <+: t)
    (hj : (name j).toList <+: t) : i = j := by
  rcases List.prefix_or_prefix_of_prefix hi hj with h | h
  · exact hname i j h
  · exact (hname j i h).symm

theorem append_inj (hname : PrefixFree name) {u v : List Char}
    (h : (name i).toList ++ u = (name j).toList ++ v) : i = j ∧ u = v := by
  obtain rfl : i = j := hname.eq_of_prefix (List.prefix_append _ u) (h ▸ List.prefix_append _ v)
  exact ⟨rfl, List.append_cancel_left h⟩

theorem join_injective (hname : PrefixFree name) (hne : ∀ i, name i ≠ "") :
    Function.Injective fun is : List ι => String.join (is.map name) := by
  have hcons : ∀ (i : ι) (is : List ι), String.join ((i :: is).map name) ≠ "" := by
    intro i is h
    rw [List.map_cons, String.join_cons, String.append_eq_empty_iff] at h
    exact hne i h.1
  intro is js h
  dsimp only at h
  induction is generalizing js with
  | nil =>
    cases js with
    | nil => rfl
    | cons j js => exact absurd h.symm (hcons j js)
  | cons i is ih =>
    cases js with
    | nil => exact absurd h (hcons i is)
    | cons j js =>
      rw [List.map_cons, List.map_cons, String.join_cons, String.join_cons, ← String.toList_inj,
        String.toList_append, String.toList_append] at h
      obtain ⟨rfl, hrest⟩ := hname.append_inj h
      rw [ih (String.toList_inj.1 hrest)]

end PrefixFree

end LexFault
