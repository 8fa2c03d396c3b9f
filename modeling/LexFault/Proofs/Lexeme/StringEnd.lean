import LexFault.Lexeme.StringLiteral
import LexFault.Proofs.Text.Ascii

/-!
# Where a string literal ends

`Literal` is the grammar of a string literal read from its opening quote on: a raw one goes up to the
first quote with enough hashes behind it, any other up to the first quote that no backslash escapes.
A reader that takes in a text character by character and stops as soon as `isTerminated` holds of
what it has read stops exactly at the end of such a literal (`isTerminated_first_iff_literal`).

`isTerminated` looks for the closing quote from the back of the bytes. Its answer is first moved to
characters (`isClosed_utf8`), where the run of backslashes before a quote has the parity of a reader
that goes forward (`escapesNext_eq_insideEscape`).
-/

namespace LexFault.StringLiteral

open Text TextUnit

/-! ## The lead and the run of backslashes, from the back -/

section Units
variable {α : Type} [TextUnit α]

theorem rawHashes?_concat (t : List α) (a : α) :
    rawHashes? (t ++ [a]) =
      if is '#' a then (rawHashes? t).map (· + 1) else if is 'r' a then some 0 else none := by
  unfold rawHashes?
  rw [countTrailing_concat, List.reverse_append, List.reverse_singleton, List.singleton_append,
    List.dropWhile_cons]
  cases h : is '#' a
  · rfl
  · simp only [↓reduceIte]
    split
    · split <;> rfl
    · rfl

end Units

theorem agree_quote : Agree (is '"') (is '"') := agree_is (by decide)

theorem agree_hash : Agree (is '#') (is '#') := agree_is (by decide)

theorem agree_backslash : Agree (is '\\') (is '\\') := agree_is (by decide)

theorem rawHashes?_utf8 (lead : List Char) : rawHashes? (utf8 lead) = rawHashes? lead := by
  induction lead using List.reverseRecOn with
  | nil => rfl
  | append_singleton lead c ih =>
    obtain ⟨l, b, hl, hb⟩ := utf8EncodeChar_eq_concat c
    obtain ⟨hhash, hlone⟩ := hb _ _ agree_hash
    obtain ⟨hr, -⟩ := hb (is 'r') (is 'r') (agree_is (by decide))
    rw [utf8_concat, hl, ← List.append_assoc, rawHashes?_concat, rawHashes?_concat, hhash, hr]
    cases hc : is '#' c
    · rfl
    · rw [hlone hc, List.append_nil, ih]

theorem hashes_utf8 (n : Nat) (tail : List Char) :
    ((utf8 tail).length == n && (utf8 tail).all (is '#')) =
      (tail.length == n && tail.all (is '#')) := by
  induction tail generalizing n with
  | nil => rfl
  | cons c tail ih =>
    obtain ⟨b, l, hl, hb⟩ := utf8EncodeChar_eq_cons c
    obtain ⟨hhash, hlone⟩ := hb _ _ agree_hash
    rw [utf8_cons, hl]
    cases hc : is '#' c
    · simp [hhash, hc]
    · rw [hlone hc]
      cases n with
      | zero => rfl
      | succ n => simpa [hhash, hc] using ih n

theorem isEmpty_utf8 (t : List Char) : (utf8 t).isEmpty = t.isEmpty := by
  cases t with
  | nil => rfl
  | cons c t =>
    obtain ⟨b, l, hl, -⟩ := utf8EncodeChar_eq_cons c
    rw [utf8_cons, hl]
    rfl

theorem closedBy_utf8 (lead body tail : List Char) :
    closedBy (utf8 lead) (utf8 body) (utf8 tail) = closedBy lead body tail := by
  unfold closedBy escapesNext
  rw [rawHashes?_utf8, isEmpty_utf8, agree_backslash.countTrailing_utf8]
  cases rawHashes? lead with
  | none => rfl
  | some n => exact hashes_utf8 n tail

/-- The bytes of a text are a closed literal if and only if its characters are. -/
theorem isClosed_utf8 (t : List Char) : isClosed (utf8 t) = isClosed t := by
  unfold isClosed
  rw [agree_quote.breakFirst_utf8]
  cases breakFirst (is '"') t with
  | none => rfl
  | some s =>
    simp only [Option.map_some]
    rw [agree_quote.breakLast_utf8]
    cases breakLast (is '"') s.2 with
    | none => rfl
    | some u => exact closedBy_utf8 s.1 u.1 u.2

/-! ## The lead and the body, from the front -/

/-- A lead that makes a literal raw, with `n` hashes: an `r` and the hashes end it. -/
def RawLead (lead : List Char) (n : Nat) : Prop := ∃ s, lead = s ++ 'r' :: List.replicate n '#'

/-- Whether a reader who goes through a text from its start is inside an escape at its end: a
backslash that is not itself escaped escapes the character behind it. -/
def insideEscape (t : List Char) : Bool := t.foldl (fun escaped c => !escaped && c == '\\') false

theorem insideEscape_concat (t : List Char) (c : Char) :
    insideEscape (t ++ [c]) = (!insideEscape t && c == '\\') := by
  simp [insideEscape]

theorem rawLead_concat {lead : List Char} {c : Char} {n : Nat} :
    RawLead (lead ++ [c]) n ↔ c = 'r' ∧ n = 0 ∨ c = '#' ∧ ∃ m, n = m + 1 ∧ RawLead lead m := by
  constructor
  · intro h
    obtain ⟨s, hs⟩ := h
    cases n with
    | zero => exact Or.inl ⟨by simpa using (List.append_inj' hs rfl).2, rfl⟩
    | succ m =>
      rw [List.replicate_succ', ← List.cons_append, ← List.append_assoc] at hs
      obtain ⟨hlead, hc⟩ := List.append_inj' hs rfl
      exact Or.inr ⟨by simpa using hc, m, rfl, s, hlead⟩
  · intro h
    rcases h with ⟨rfl, rfl⟩ | ⟨rfl, m, rfl, s, rfl⟩
    · exact ⟨lead, rfl⟩
    · exact ⟨s, by simp [List.replicate_succ']⟩

theorem rawHashes?_eq_some_iff {lead : List Char} {n : Nat} :
    rawHashes? lead = some n ↔ RawLead lead n := by
  induction lead using List.reverseRecOn generalizing n with
  | nil => simp [rawHashes?, RawLead]
  | append_singleton lead c ih =>
    rw [rawHashes?_concat, rawLead_concat, is_char, is_char]
    by_cases hc : c = '#'
    · simp [hc, ih, and_comm, eq_comm (a := n)]
    · by_cases hr : c = 'r'
      · simp [hr, eq_comm]
      · simp [hc, hr]

/-- The run of backslashes at the end of a text is odd just if a reader is inside an escape there. -/
theorem escapesNext_eq_insideEscape (t : List Char) : escapesNext t = insideEscape t := by
  induction t using List.reverseRecOn with
  | nil => rfl
  | append_singleton t c ih =>
    rw [insideEscape_concat, ← ih]
    unfold escapesNext
    rw [countTrailing_concat, is_char]
    by_cases hc : c = '\\'
    · simp only [hc, decide_true, ↓reduceIte, beq_self_eq_true, Bool.and_true]
      rcases Nat.mod_two_eq_zero_or_one (countTrailing (is '\\') t) with h | h
      · rw [h, Nat.add_mod, h]
        rfl
      · rw [h, Nat.add_mod, h]
        rfl
    · simp [hc]

/-- How a literal with this lead and body ends behind its closing quote: a raw one with the hashes
of its lead, any other with nothing, where the reader is not inside an escape. -/
def Ends (lead body tail : List Char) : Prop :=
  (∃ n, RawLead lead n ∧ tail = List.replicate n '#') ∨
    (∀ n, ¬ RawLead lead n) ∧ tail = [] ∧ insideEscape body = false

theorem closedBy_iff {lead body tail : List Char} :
    closedBy lead body tail = true ↔ Ends lead body tail := by
  unfold closedBy Ends
  cases hlead : rawHashes? lead with
  | none =>
    have hraw : ∀ n, ¬ RawLead lead n := fun n h => by
      rw [rawHashes?_eq_some_iff.2 h] at hlead
      cases hlead
    simp [hraw, escapesNext_eq_insideEscape]
  | some n =>
    have hraw : RawLead lead n := rawHashes?_eq_some_iff.1 hlead
    have huniq : ∀ m, RawLead lead m ↔ m = n := fun m => by
      rw [← rawHashes?_eq_some_iff, hlead, Option.some.injEq, eq_comm]
    simp only [huniq, exists_eq_left]
    rw [List.eq_replicate_iff]
    simp [is_char]

theorem quote_not_mem_of_ends {lead body tail : List Char} (h : Ends lead body tail) :
    '"' ∉ tail := by
  rcases h with ⟨n, -, rfl⟩ | ⟨-, rfl, -⟩
  · simp
  · simp

theorem forall_not_quote_iff {t : List Char} : (∀ c ∈ t, is '"' c = false) ↔ '"' ∉ t := by
  simp only [is_char, decide_eq_false_iff_not]
  exact ⟨fun h hmem => h _ hmem rfl, fun h c hc heq => h (heq ▸ hc)⟩

theorem isClosed_iff {t : List Char} :
    isClosed t = true ↔
      ∃ lead body tail, t = lead ++ '"' :: (body ++ '"' :: tail) ∧ '"' ∉ lead ∧
        Ends lead body tail := by
  constructor
  · intro h
    unfold isClosed at h
    split at h
    · cases h
    · next lead rest hlead =>
      split at h
      · cases h
      · next body tail htail =>
        obtain ⟨a, rfl, ha, hquote⟩ := breakFirst_eq_some_iff.1 hlead
        obtain ⟨b, rfl, hb, -⟩ := breakLast_eq_some_iff.1 htail
        simp only [is_char, decide_eq_true_eq] at ha hb
        subst ha hb
        exact ⟨lead, body, tail, rfl, forall_not_quote_iff.1 hquote, closedBy_iff.1 h⟩
  · intro h
    obtain ⟨lead, body, tail, rfl, hlead, hends⟩ := h
    have hfirst : breakFirst (is '"') (lead ++ '"' :: (body ++ '"' :: tail)) =
        some (lead, body ++ '"' :: tail) :=
      breakFirst_eq_some_iff.2 ⟨'"', rfl, rfl, forall_not_quote_iff.2 hlead⟩
    have hlast : breakLast (is '"') (body ++ '"' :: tail) = some (body, tail) :=
      breakLast_eq_some_iff.2
        ⟨'"', rfl, rfl, forall_not_quote_iff.2 (quote_not_mem_of_ends hends)⟩
    unfold isClosed
    simp only [hfirst, hlast]
    exact closedBy_iff.2 hends

/-- A closed text that is continued keeps its lead. -/
theorem ends_of_isClosed {lead rest s u : List Char} (hlead : '"' ∉ lead)
    (h : lead ++ '"' :: rest = s ++ u) (hs : isClosed s = true) :
    ∃ body tail, rest = body ++ '"' :: (tail ++ u) ∧ Ends lead body tail := by
  obtain ⟨lead', body, tail, rfl, hlead', hends⟩ := isClosed_iff.1 hs
  rw [List.append_assoc, List.cons_append, List.append_assoc, List.cons_append] at h
  obtain ⟨rfl, -, rfl⟩ := split_first_unique (p := is '"') h rfl rfl
    (forall_not_quote_iff.2 hlead) (forall_not_quote_iff.2 hlead')
  exact ⟨body, tail, rfl, hends⟩

/-! ## The first closed prefix -/

/-- A string literal from the start of its lead to the end of its closing delimiter. -/
inductive Literal : List Char → Prop
  /-- In a raw body no quote has as many hashes behind it as the lead has at its end. -/
  | raw {lead body : List Char} {n : Nat} :
      '"' ∉ lead → RawLead lead n → ¬ '"' :: List.replicate n '#' <:+: body →
        Literal (lead ++ '"' :: (body ++ '"' :: List.replicate n '#'))
  /-- In any other body each quote is escaped, and the closing quote behind it is not. -/
  | plain {lead body : List Char} :
      '"' ∉ lead → (∀ n, ¬ RawLead lead n) →
        (∀ s u, body = s ++ '"' :: u → insideEscape s = true) → insideEscape body = false →
        Literal (lead ++ '"' :: (body ++ ['"']))

/-- A delimiter that is found twice, the first time before the end, stands in what precedes its
last place: its first unit occurs only once in it. -/
theorem infix_of_append_eq_append {α : Type} {a : α} {l s s' u : List α} (ha : a ∉ l) (hu : u ≠ [])
    (h : s ++ a :: l = s' ++ a :: (l ++ u)) : a :: l <:+: s := by
  rcases List.append_eq_append_iff.1 h with ⟨x, -, hx⟩ | ⟨x, rfl, hx⟩
  · have hlen := congrArg List.length hx
    have := List.length_pos_iff.2 hu
    simp only [List.length_cons, List.length_append] at hlen
    omega
  · cases x with
    | nil =>
      have : l ++ u = l ++ [] := by simpa using hx
      exact absurd (List.append_cancel_left this) hu
    | cons b y =>
      obtain ⟨rfl, hy⟩ := List.cons.inj hx
      rcases List.append_eq_append_iff.1 hy with ⟨z, rfl, -⟩ | ⟨z, rfl, hz⟩
      · exact ⟨s', z, by simp⟩
      · cases z with
        | nil => exact ⟨s', [], by simp⟩
        | cons c z =>
          obtain ⟨rfl, -⟩ := List.cons.inj hz
          exact absurd (by simp) ha

theorem Literal.isClosed {t : List Char} (h : Literal t) : isClosed t = true := by
  cases h with
  | raw hlead hraw _ => exact isClosed_iff.2 ⟨_, _, _, rfl, hlead, Or.inl ⟨_, hraw, rfl⟩⟩
  | plain hlead hraw _ hbody =>
    exact isClosed_iff.2 ⟨_, _, _, rfl, hlead, Or.inr ⟨hraw, rfl, hbody⟩⟩

theorem Literal.not_isClosed_prefix {t s u : List Char} (h : Literal t) (hsu : t = s ++ u)
    (hu : u ≠ []) : StringLiteral.isClosed s = false := by
  refine Bool.eq_false_iff.2 fun hs => ?_
  cases h with
  | @raw lead body n hlead hraw hbody =>
    obtain ⟨body', tail', hrest, hends⟩ := ends_of_isClosed hlead hsu hs
    rcases hends with ⟨m, hm, rfl⟩ | ⟨hnone, -⟩
    · have hmn : m = n := by
        have hm' := rawHashes?_eq_some_iff.2 hm
        rw [rawHashes?_eq_some_iff.2 hraw] at hm'
        exact (Option.some.inj hm').symm
      subst hmn
      exact hbody (infix_of_append_eq_append (by simp) hu hrest)
    · exact hnone n hraw
  | @plain lead body hlead hraw hquote hbody =>
    obtain ⟨body', tail', hrest, hends⟩ := ends_of_isClosed hlead hsu hs
    rcases hends with ⟨m, hm, -⟩ | ⟨-, rfl, hbody'⟩
    · exact hraw m hm
    · obtain ⟨y, z, rfl⟩ := (List.eq_nil_or_concat u).resolve_left hu
      rw [List.nil_append, List.concat_eq_append, ← List.cons_append, ← List.append_assoc] at hrest
      have := hquote body' y (List.append_inj' hrest rfl).1
      rw [hbody'] at this
      cases this

theorem literal_of_isClosed {t : List Char} (ht : isClosed t = true)
    (hmin : ∀ s u, t = s ++ u → u ≠ [] → isClosed s = false) : Literal t := by
  obtain ⟨lead, body, tail, rfl, hlead, hends⟩ := isClosed_iff.1 ht
  -- A shorter body that ends in the same way would give a shorter closed text.
  have hshort : ∀ body' tail' u, body ++ '"' :: tail = body' ++ '"' :: (tail' ++ u) → u ≠ [] →
      ¬ Ends lead body' tail' := by
    intro body' tail' u h hu hends'
    have := hmin (lead ++ '"' :: (body' ++ '"' :: tail')) u (by simp [h]) hu
    rw [isClosed_iff.2 ⟨lead, body', tail', rfl, hlead, hends'⟩] at this
    cases this
  rcases hends with ⟨n, hraw, rfl⟩ | ⟨hraw, rfl, hbody⟩
  · refine Literal.raw hlead hraw fun hinfix => ?_
    obtain ⟨s, u, rfl⟩ := hinfix
    exact hshort s _ (u ++ '"' :: List.replicate n '#') (by simp) (by simp) (Or.inl ⟨n, hraw, rfl⟩)
  · refine Literal.plain hlead hraw (fun s u h => ?_) hbody
    subst h
    refine eq_true_of_ne_false fun hs => ?_
    exact hshort s [] (u ++ ['"']) (by simp) (by simp) (Or.inr ⟨hraw, rfl, hs⟩)

/-- A text is closed and none of its proper prefixes is if and only if it is one string literal. -/
theorem isTerminated_first_iff_literal (t : String) :
    (isTerminated t = true ∧ ∀ s u : String, t = s ++ u → u ≠ "" → isTerminated s = false) ↔
      Literal t.toList := by
  simp only [isTerminated, isClosed_utf8]
  constructor
  · intro h
    refine literal_of_isClosed h.1 fun s u hsu hu => ?_
    have hne : String.ofList u ≠ "" := fun he => hu (by simpa using congrArg String.toList he)
    have := h.2 (String.ofList s) (String.ofList u) (by simp [← String.ofList_append, ← hsu]) hne
    simpa using this
  · intro h
    refine ⟨h.isClosed, fun s u hsu hu => ?_⟩
    have hne : u.toList ≠ [] := fun he => hu (String.toList_inj.1 (he.trans String.toList_empty.symm))
    exact h.not_isClosed_prefix (by rw [hsu, String.toList_append]) hne

end LexFault.StringLiteral
