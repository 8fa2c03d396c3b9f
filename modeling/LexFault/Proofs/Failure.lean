import LexFault.Failure
import LexFault.Proofs.Text.Numeral
import Mathlib.Logic.Function.Defs

/-!
# Telling failures apart by their texts

The text of a failure says which one it is, and so does its tip (`Failure.text_injective`,
`Failure.tip_injective`). A condition is echoed as it stands and may look like any of the words
around it, the text of another failure, or a place in a file. So it is found from the ends: it
stands between two fixed texts. The last character tells the text of a condition from that of a
span, which ends in a digit, and the first character tells their tips apart.

Where a failure is located, the last blank stands before the file if there is none in the file
itself. In front of it come fixed words and, behind a blank again, the numeral of the line
(`LocatedFailure.text_inj`).
-/

namespace LexFault

open Text

/-! ## Two positions in a text -/

namespace Position

variable {p q p' q' : Position}

theorem text_inj (h : p.text = q.text) : p = q := by
  have hlist : p.text.toList ++ [' '] = q.text.toList ++ [' '] := by rw [h]
  exact (text_append_inj rfl rfl hlist).1

theorem texts_inj {lead gap tail : String} {x : Char} {u : List Char} (hgap : gap.toList = x :: u)
    (hx : x.isDigit = false)
    (h : lead ++ p.text ++ gap ++ q.text ++ tail = lead ++ p'.text ++ gap ++ q'.text ++ tail) :
    p = p' ∧ q = q' := by
  have hlist := congrArg String.toList ((String.append_left_inj tail).1 h)
  simp only [String.toList_append, List.append_assoc, hgap, List.cons_append] at hlist
  obtain ⟨hp, -, hrest⟩ := text_append_inj hx hx (List.append_cancel_left hlist)
  exact ⟨hp, text_inj (String.toList_inj.1 (List.append_cancel_left hrest))⟩

theorem isDigit_of_getLast? {lead : String} {c : Char}
    (h : (lead ++ p.text).toList.getLast? = some c) : c.isDigit = true := by
  have hne : p.column.toNat.repr.toList ≠ [] := by
    rw [Nat.toList_repr]
    exact Nat.toDigits_ne_nil
  rw [text, ← String.append_assoc, String.toList_append, List.getLast?_append,
    List.getLast?_eq_some_getLast hne, Option.some_or, Option.some.injEq] at h
  exact isDigit_of_mem_repr (h ▸ List.getLast_mem hne)

end Position

/-! ## Texts and tips -/

namespace Failure

/-- A way of writing failures loses nothing if it echoes a condition between two texts, and two
positions with a text between them that starts with no digit, and tells the two from each other. -/
theorem injective_of_echoes {write : Failure → String} {lead tail lead' gap tail' : String}
    {x : Char} {u : List Char}
    (hunmet : ∀ condition, write (.unmet condition) = lead ++ condition ++ tail)
    (hinverted : ∀ start stop,
      write (.inverted start stop) = lead' ++ start.text ++ gap ++ stop.text ++ tail')
    (hgap : gap.toList = x :: u) (hx : x.isDigit = false)
    (hne : ∀ condition start stop, write (.unmet condition) ≠ write (.inverted start stop)) :
    Function.Injective write := by
  intro f g h
  cases f with
  | unmet condition =>
    cases g with
    | unmet condition' =>
      rw [hunmet, hunmet] at h
      rw [echo_inj h]
    | inverted start stop => exact absurd h (hne condition start stop)
  | inverted start stop =>
    cases g with
    | unmet condition => exact absurd h.symm (hne condition start stop)
    | inverted start' stop' =>
      rw [hinverted, hinverted] at h
      obtain ⟨rfl, rfl⟩ := Position.texts_inj hgap hx h
      rfl

theorem text_unmet_ne_text_inverted (condition : String) (start stop : Position) :
    (unmet condition).text ≠ (inverted start stop).text := by
  intro h
  have hword : "` failed".toList.getLast? = some 'd' := by decide
  have hlast : (unmet condition).text.toList.getLast? = some 'd' := by
    rw [text_unmet, String.toList_append, List.getLast?_append, hword, Option.some_or]
  rw [h, text_inverted] at hlast
  have hdigit : 'd'.isDigit = true := Position.isDigit_of_getLast? hlast
  cases hdigit

theorem text_injective : Function.Injective text := by
  have hgap : " to ".toList = ' ' :: "to ".toList := by decide
  -- nothing follows the second position
  have hinverted : ∀ start stop, (inverted start stop).text =
      "pre-condition `begin <= end` failed: range from " ++ start.text ++ " to " ++ stop.text ++ "" :=
    fun start stop => (text_inverted start stop).trans String.append_empty.symm
  exact injective_of_echoes text_unmet hinverted hgap rfl text_unmet_ne_text_inverted

theorem tip_unmet_ne_tip_inverted (condition : String) (start stop : Position) :
    (unmet condition).tip ≠ (inverted start stop).tip := by
  intro h
  have hfirst := congrArg (fun s => s.toList.head?) h
  have hunmet : "The evidence does not satisfy `".toList.head? = some 'T' := by decide
  have hinverted : "A range must not begin (".toList.head? = some 'A' := by decide
  simp only [tip_unmet, tip_inverted, String.toList_append, List.head?_append, hunmet, hinverted,
    Option.some_or] at hfirst
  cases hfirst

theorem tip_injective : Function.Injective tip := by
  have hgap : ") after it ends (".toList = ')' :: " after it ends (".toList := by decide
  exact injective_of_echoes tip_unmet tip_inverted hgap rfl tip_unmet_ne_tip_inverted

end Failure

/-! ## Located failures -/

namespace LocatedFailure

variable {e e' : LocatedFailure}

theorem toList_text (e : LocatedFailure) :
    e.text.toList = (e.failure.text ++ " on line").toList ++ ' ' :: e.line.toNat.repr.toList ++
      " in file".toList ++ ' ' :: e.file.toList := by
  have hline : " on line ".toList = " on line".toList ++ [' '] := by decide
  have hfile : " in file ".toList = " in file".toList ++ [' '] := by decide
  simp only [text, String.toList_append, hline, hfile, List.append_assoc, List.cons_append,
    List.nil_append]

theorem text_inj (hfile : ' ' ∉ e.file.toList) (hfile' : ' ' ∉ e'.file.toList)
    (h : e.text = e'.text) : e = e' := by
  have hblank : ∀ file : String, ' ' ∉ file.toList → ∀ c ∈ file.toList, (c == ' ') = false := by
    intro file hfile c hc
    rw [beq_eq_false_iff_ne]
    rintro rfl
    exact hfile hc
  have hlist := congrArg String.toList h
  rw [toList_text, toList_text] at hlist
  obtain ⟨hfront, -, hname⟩ := split_last_unique (p := (· == ' ')) hlist rfl rfl
    (hblank _ hfile) (hblank _ hfile')
  obtain ⟨hfailure, -, hline⟩ := append_repr_inj rfl rfl (List.append_cancel_right hfront)
  have htext := (String.append_left_inj _).1 (String.toList_inj.1 hfailure)
  cases e
  cases e'
  exact mk.injEq .. ▸
    ⟨Failure.text_injective htext, String.toList_inj.1 hname, UInt32.toNat_inj.1 hline⟩

end LocatedFailure

/-- A failure is known by its text, and by its tip, whatever its condition says and whether or not
its positions are in order. Where the file has no blank in its name, the text with the place of the
check also tells the file and the line. -/
theorem Failure.known_by_texts :
    (∀ f g : Failure, (f.text = g.text ↔ f.tip = g.tip) ∧ (f.tip = g.tip ↔ f = g)) ∧
      ∀ e e' : LocatedFailure, ' ' ∉ e.file.toList → ' ' ∉ e'.file.toList →
        (e.text = e'.text ↔ e.failure = e'.failure ∧ e.file = e'.file ∧ e.line = e'.line) := by
  refine ⟨fun f g => ?_, fun e e' hfile hfile' => ⟨fun h => ?_, fun h => ?_⟩⟩
  · rw [text_injective.eq_iff, tip_injective.eq_iff]
    exact ⟨Iff.rfl, Iff.rfl⟩
  · rw [LocatedFailure.text_inj hfile hfile' h]
    exact ⟨rfl, rfl, rfl⟩
  · obtain ⟨hfailure, hname, hline⟩ := h
    rw [LocatedFailure.text, LocatedFailure.text, hfailure, hname, hline]

/-- A condition that goes on as if a place had been named already is told from the one in front of
that place. -/
theorem Failure.known_by_texts_of_echoed_place :
    ' ' ∉ "b.rs".toList ∧
      LocatedFailure.text ⟨.unmet "x", "b.rs", 3⟩ ≠
        LocatedFailure.text ⟨.unmet "x` failed on line 3 in file a.rs", "b.rs", 3⟩ := by
  have hfile : ' ' ∉ "b.rs".toList := by decide
  refine ⟨hfile, fun h => ?_⟩
  have hfailure := ((known_by_texts.2 ⟨.unmet "x", "b.rs", 3⟩
    ⟨.unmet "x` failed on line 3 in file a.rs", "b.rs", 3⟩ hfile hfile).1 h).1
  exact absurd hfailure (by decide)

/-- With a blank in the name of a file the two texts can be the same. -/
example : LocatedFailure.text ⟨.unmet "x", "a.rs` failed on line 3 in file b.rs", 3⟩ =
    LocatedFailure.text ⟨.unmet "x` failed on line 3 in file a.rs", "b.rs", 3⟩ := by decide

end LexFault
