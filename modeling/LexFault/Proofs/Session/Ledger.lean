import LexFault.Proofs.Session.Run
import Mathlib.Data.List.Induction
import Mathlib.Data.List.InsertIdx

/-!
# The ledger of a session

Every diagnostic of a session was put into its list by a report or by a copy. The `ledger` of a run
names these steps, in the order of the list: a step that makes a diagnostic is written at the end, and
an accepted drop strikes out the step whose diagnostic it takes from the list.

The ledger is written from what the steps of a run answer, and it accounts for the list: entry by
entry, the list holds what the steps of the ledger answered (`diagnostics_eq_answers`). A copy made its
diagnostic from the entry of an earlier step, which the ledger of that time names. Followed back, the
copies end at a report (`Stems`), whose evidence warrants the diagnostic between the mark and the
cursor of that time (`exists_origin`).
-/

namespace LexFault.Session

variable {ts us : List Step} {t : Step} {k m j : Nat} {d : Diagnostic}

/-! ## Runs from the start -/

/-- The session that a run from the start leads to. -/
def after (ts : List Step) : Session := (initial.run ts).2

theorem after_append (ts us : List Step) : after (ts ++ us) = ((after ts).run us).2 := by
  rw [after, run_append]
  rfl

theorem after_concat (ts : List Step) (t : Step) : after (ts ++ [t]) = ((after ts).step t).2 :=
  after_append ts [t]

theorem trace_append (ts us : List Step) :
    initial.trace (ts ++ us) = initial.trace ts ++ (after ts).trace us := by
  rw [trace, run_append, List.zip_append (length_run initial ts).symm]
  rfl

theorem trace_concat (ts : List Step) (t : Step) :
    initial.trace (ts ++ [t]) = initial.trace ts ++ [(t, ((after ts).step t).1)] :=
  trace_append ts [t]

theorem length_trace (ts : List Step) : (initial.trace ts).length = ts.length := by
  rw [trace, List.length_zip, length_run, Nat.min_self]

theorem getElem?_concat_eq_some_iff {α : Type} {l : List α} {a b : α} :
    (l ++ [a])[k]? = some b ↔ l[k]? = some b ∨ k = l.length ∧ a = b := by
  rcases Nat.lt_trichotomy k l.length with h | rfl | h
  · rw [List.getElem?_append_left h]
    simp [Nat.ne_of_lt h]
  · simp
  · rw [List.getElem?_eq_none (by simp; omega), List.getElem?_eq_none (by omega)]
    simp [Nat.ne_of_gt h]

theorem mem_eraseIdx_iff_of_nodup {α : Type} {l : List α} (hl : l.Nodup) {a : α} {i : Nat} :
    a ∈ l.eraseIdx i ↔ a ∈ l ∧ l[i]? ≠ some a := by
  rw [List.mem_eraseIdx_iff_getElem?]
  constructor
  · intro h
    obtain ⟨i', hne, hi'⟩ := h
    refine ⟨List.mem_of_getElem? hi', fun hi => hne ?_⟩
    exact (List.getElem?_inj (List.getElem?_eq_some_iff.1 hi').1 hl).1 (hi'.trans hi.symm)
  · intro h
    obtain ⟨i', hi'⟩ := List.getElem?_of_mem h.1
    exact ⟨i', fun heq => h.2 (heq ▸ hi'), hi'⟩

/-! ## The ledger -/

/-- Whether a step makes a diagnostic. -/
def makes : Step → Bool
  | .report _ => true
  | .copy _ => true
  | _ => false

/-- The ledger after a step, of which its answer and its number are known. -/
def record (ledger : List Nat) : (Step × Except Refusal Answer) × Nat → List Nat
  | ((.report _, .ok _), k) => ledger ++ [k]
  | ((.copy _, .ok _), k) => ledger ++ [k]
  | ((.drop index, .ok _), _) => ledger.eraseIdx index
  | _ => ledger

/-- The numbers of the steps that made the diagnostics in the list. -/
def ledger (ts : List Step) : List Nat := (initial.trace ts).zipIdx.foldl record []

/-- The diagnostic that a step of a run answers. -/
def madeBy (ts : List Step) (k : Nat) : Option Diagnostic :=
  match (initial.trace ts)[k]? with
  | some (_, .ok (.diagnostic d)) => some d
  | _ => none

/-- Step `k` of a run is a report or a copy, and it is accepted. -/
def Makes (ts : List Step) (k : Nat) : Prop :=
  ∃ t a, (initial.trace ts)[k]? = some (t, .ok a) ∧ makes t = true

/-- Step `m` of a run is an accepted drop of the diagnostic that step `k` made. -/
def Drops (ts : List Step) (m k : Nat) : Prop :=
  ∃ index a, (initial.trace ts)[m]? = some (.drop index, .ok a) ∧
    (ledger (ts.take m))[index]? = some k

/-- The diagnostic of step `k` stems from the report `j`: it is the report itself, or a copy of a
diagnostic that does. -/
inductive Stems (ts : List Step) : Nat → Nat → Prop
  | report {k : Nat} {evidence : Evidence} : ts[k]? = some (.report evidence) → Stems ts k k
  | copy {k index source j : Nat} :
    ts[k]? = some (.copy index) → (ledger (ts.take k))[index]? = some source →
      Stems ts source j → Stems ts k j

/-- Step `j` of a run reports evidence that warrants the diagnostic between the mark and the cursor
of that time, which are in order. -/
structure Reported (ts : List Step) (j : Nat) (evidence : Evidence) (d : Diagnostic) : Prop where
  step_eq : ts[j]? = some (.report evidence)
  between_eq :
    Diagnostic.between (after (ts.take j)).mark (after (ts.take j)).cursor evidence = .ok d
  start_eq : d.span.start = (after (ts.take j)).mark
  stop_eq : d.span.stop = (after (ts.take j)).cursor
  in_order : (after (ts.take j)).mark ≤ (after (ts.take j)).cursor

theorem ledger_concat (ts : List Step) (t : Step) :
    ledger (ts ++ [t]) = record (ledger ts) ((t, ((after ts).step t).1), ts.length) := by
  rw [ledger, trace_concat, List.zipIdx_append, List.foldl_append, length_trace, Nat.zero_add]
  rfl

/-- The step makes the diagnostic: from evidence, or from an entry of the list. -/
inductive Source (s : Session) : Step → Diagnostic → Prop
  | report {evidence : Evidence} {d : Diagnostic} :
    Diagnostic.between s.mark s.cursor evidence = .ok d → Source s (.report evidence) d
  | copy {index : Nat} {d : Diagnostic} :
    s.diagnostics[index]? = some d → Source s (.copy index) d

theorem Source.makes {s : Session} (h : Source s t d) : makes t = true := by
  cases h <;> rfl

/-- What a step does to the list and to its ledger. -/
inductive Recorded (ts : List Step) (t : Step) : Prop
  | made (d : Diagnostic) :
    Source (after ts) t d → ((after ts).step t).1 = .ok (.diagnostic d) →
      ledger (ts ++ [t]) = ledger ts ++ [ts.length] →
        (after (ts ++ [t])).diagnostics = (after ts).diagnostics ++ [d] → Recorded ts t
  | dropped (index : Nat) (a : Answer) :
    t = .drop index → ((after ts).step t).1 = .ok a →
      ledger (ts ++ [t]) = (ledger ts).eraseIdx index →
        (after (ts ++ [t])).diagnostics = (after ts).diagnostics.eraseIdx index → Recorded ts t
  | kept :
    (∀ a, ((after ts).step t).1 = .ok a → makes t = false ∧ ∀ index, t ≠ .drop index) →
      ledger (ts ++ [t]) = ledger ts →
        (after (ts ++ [t])).diagnostics = (after ts).diagnostics → Recorded ts t

theorem recorded (ts : List Step) (t : Step) : Recorded ts t := by
  have hledger := ledger_concat ts t
  have hafter := congrArg diagnostics (after_concat ts t)
  rcases (after ts).step_cases t with ⟨a, next, haccepts, hstep⟩ | ⟨refusal, hrefuses, hstep⟩
  · rw [hstep] at hledger hafter
    have hanswer := congrArg Prod.fst hstep
    cases haccepts with
    | report h => exact .made _ (.report h) hanswer hledger hafter
    | copy h => exact .made _ (.copy h) hanswer hledger hafter
    | drop h => exact .dropped _ _ rfl hanswer hledger hafter
    | _ => exact .kept (fun _ _ => ⟨rfl, fun _ h => by cases h⟩) hledger hafter
  · rw [hstep] at hledger hafter
    refine .kept (fun a ha => ?_) ?_ hafter
    · rw [hstep] at ha
      cases ha
    · rw [hledger]
      cases hrefuses <;> rfl

theorem lt_length_of_mem_ledger (h : k ∈ ledger ts) : k < ts.length := by
  induction ts using List.reverseRecOn with
  | nil => cases h
  | append_singleton ts t ih =>
    rw [List.length_append]
    show k < ts.length + 1
    cases recorded ts t with
    | made d _ _ hledger _ =>
      rw [hledger, List.mem_append, List.mem_singleton] at h
      rcases h with h | rfl
      · exact Nat.lt_succ_of_lt (ih h)
      · exact Nat.lt_succ_self _
    | dropped index a _ _ hledger _ =>
      rw [hledger] at h
      exact Nat.lt_succ_of_lt (ih (List.mem_of_mem_eraseIdx h))
    | kept _ hledger _ =>
      rw [hledger] at h
      exact Nat.lt_succ_of_lt (ih h)

theorem pairwise_ledger (ts : List Step) : (ledger ts).Pairwise (· < ·) := by
  induction ts using List.reverseRecOn with
  | nil => exact List.Pairwise.nil
  | append_singleton ts t ih =>
    cases recorded ts t with
    | made d _ _ hledger _ =>
      rw [hledger, List.pairwise_append]
      refine ⟨ih, List.pairwise_singleton _ _, fun k hk n hn => ?_⟩
      rw [List.mem_singleton] at hn
      exact hn ▸ lt_length_of_mem_ledger hk
    | dropped index a _ _ hledger _ =>
      rw [hledger]
      exact ih.sublist (List.eraseIdx_sublist _ _)
    | kept _ hledger _ =>
      rw [hledger]
      exact ih

/-! ## What the steps of the ledger answered -/

theorem madeBy_append (us : List Step) (hk : k < ts.length) : madeBy (ts ++ us) k = madeBy ts k := by
  rw [madeBy, trace_append, List.getElem?_append_left (by rwa [length_trace])]
  rfl

theorem madeBy_concat_length (h : ((after ts).step t).1 = .ok (.diagnostic d)) :
    madeBy (ts ++ [t]) ts.length = some d := by
  rw [madeBy, trace_concat, h, ← length_trace ts, List.getElem?_concat_length]

/-- Entry by entry, the list holds what the steps of the ledger answered. -/
theorem diagnostics_eq_answers (ts : List Step) :
    (after ts).diagnostics.map some = (ledger ts).map (madeBy ts) := by
  induction ts using List.reverseRecOn with
  | nil => rfl
  | append_singleton ts t ih =>
    have hold : (ledger ts).map (madeBy (ts ++ [t])) = (ledger ts).map (madeBy ts) :=
      List.map_congr_left fun k hk => madeBy_append [t] (lt_length_of_mem_ledger hk)
    cases recorded ts t with
    | made d _ hanswer hledger hlist =>
      rw [hledger, hlist, List.map_append, List.map_append, hold, ih, List.map_singleton,
        List.map_singleton, madeBy_concat_length hanswer]
    | dropped index a _ _ hledger hlist =>
      rw [hledger, hlist, ← List.eraseIdx_map, ← List.eraseIdx_map, hold, ih]
    | kept _ hledger hlist => rw [hledger, hlist, hold, ih]

theorem getElem?_diagnostics_iff {i : Nat} :
    (after ts).diagnostics[i]? = some d ↔
      ∃ k, (ledger ts)[i]? = some k ∧ madeBy ts k = some d := by
  have h := congrArg (·[i]?) (diagnostics_eq_answers ts)
  simp only [List.getElem?_map] at h
  constructor
  · intro hd
    rw [hd, Option.map_some, eq_comm, Option.map_eq_some_iff] at h
    exact h
  · intro hk
    obtain ⟨k, hk, hmade⟩ := hk
    rw [hk, Option.map_some, hmade, Option.map_eq_some_iff] at h
    obtain ⟨e, he, hed⟩ := h
    rw [he, Option.some.inj hed]

/-! ## Which steps the ledger names -/

theorem makes_concat_iff :
    Makes (ts ++ [t]) k ↔
      Makes ts k ∨ k = ts.length ∧ makes t = true ∧ ∃ a, ((after ts).step t).1 = .ok a := by
  unfold Makes
  simp only [trace_concat, getElem?_concat_eq_some_iff, length_trace, Prod.mk.injEq]
  constructor
  · intro h
    obtain ⟨t', a, h | ⟨hk, rfl, ha⟩, hmakes⟩ := h
    · exact .inl ⟨t', a, h, hmakes⟩
    · exact .inr ⟨hk, hmakes, a, ha⟩
  · intro h
    rcases h with ⟨t', a, h, hmakes⟩ | ⟨hk, hmakes, a, ha⟩
    · exact ⟨t', a, .inl h, hmakes⟩
    · exact ⟨t, a, .inr ⟨hk, rfl, ha⟩, hmakes⟩

theorem drops_concat_iff :
    Drops (ts ++ [t]) m k ↔
      Drops ts m k ∨ m = ts.length ∧ ∃ index a, t = .drop index ∧
        ((after ts).step t).1 = .ok a ∧ (ledger ts)[index]? = some k := by
  unfold Drops
  simp only [trace_concat, getElem?_concat_eq_some_iff, length_trace, Prod.mk.injEq]
  have hlt : ∀ {x}, (initial.trace ts)[m]? = some x → m ≤ ts.length := by
    intro x hx
    rw [← length_trace ts]
    exact Nat.le_of_lt (List.getElem?_eq_some_iff.1 hx).1
  constructor
  · intro h
    obtain ⟨index, a, h | ⟨rfl, rfl, ha⟩, hentry⟩ := h
    · rw [List.take_append_of_le_length (hlt h)] at hentry
      exact .inl ⟨index, a, h, hentry⟩
    · rw [List.take_left] at hentry
      exact .inr ⟨rfl, index, a, rfl, ha, hentry⟩
  · intro h
    rcases h with ⟨index, a, h, hentry⟩ | ⟨rfl, index, a, rfl, ha, hentry⟩
    · rw [← List.take_append_of_le_length (hlt h)] at hentry
      exact ⟨index, a, .inl h, hentry⟩
    · refine ⟨index, a, .inr ⟨rfl, rfl, ha⟩, ?_⟩
      rw [List.take_left]
      exact hentry

theorem lt_of_drops (h : Drops ts m k) : k < m ∧ m < ts.length := by
  obtain ⟨index, a, hm, hentry⟩ := h
  have hlt := (List.getElem?_eq_some_iff.1 hm).1
  have hmem := lt_length_of_mem_ledger (List.mem_of_getElem? hentry)
  rw [length_trace] at hlt
  rw [List.length_take] at hmem
  omega

/-- The ledger names the steps that made a diagnostic and whose diagnostic no step dropped. -/
theorem mem_ledger_iff : k ∈ ledger ts ↔ Makes ts k ∧ ∀ m, ¬ Drops ts m k := by
  induction ts using List.reverseRecOn with
  | nil =>
    refine iff_of_false List.not_mem_nil ?_
    rintro ⟨⟨t, a, h, -⟩, -⟩
    cases h
  | append_singleton ts t ih =>
    simp only [makes_concat_iff, drops_concat_iff, not_or, forall_and]
    cases recorded ts t with
    | made d hsource hanswer hledger _ =>
      have hnew : ∀ m, ¬ Drops ts m ts.length := by
        intro m h
        have := lt_of_drops h
        omega
      have hdrop : ∀ m, ¬ (m = ts.length ∧ ∃ index a, t = .drop index ∧
          ((after ts).step t).1 = .ok a ∧ (ledger ts)[index]? = some k) := by
        rintro m ⟨-, index, a, rfl, -⟩
        cases hsource
      rw [hledger, List.mem_append, List.mem_singleton, ih]
      constructor
      · rintro (h | rfl)
        · exact ⟨.inl h.1, h.2, hdrop⟩
        · exact ⟨.inr ⟨rfl, hsource.makes, _, hanswer⟩, hnew, hdrop⟩
      · rintro ⟨h | ⟨hk, -⟩, hkept, -⟩
        · exact .inl ⟨h, hkept⟩
        · exact .inr hk
    | dropped index a ht hanswer hledger _ =>
      have hnodup : (ledger ts).Nodup := (pairwise_ledger ts).imp Nat.ne_of_lt
      subst ht
      rw [hledger, mem_eraseIdx_iff_of_nodup hnodup, ih]
      constructor
      · intro h
        refine ⟨.inl h.1.1, h.1.2, ?_⟩
        rintro m ⟨-, index', a', hindex, -, hentry⟩
        cases hindex
        exact h.2 hentry
      · rintro ⟨h | ⟨-, hmakes, -⟩, hkept, hdrop⟩
        · exact ⟨⟨h, hkept⟩, fun hentry => hdrop _ ⟨rfl, index, a, rfl, hanswer, hentry⟩⟩
        · cases hmakes
    | kept hneither hledger _ =>
      rw [hledger, ih]
      constructor
      · intro h
        refine ⟨.inl h.1, h.2, ?_⟩
        rintro m ⟨-, index, a, ht, hanswer, -⟩
        exact (hneither a hanswer).2 index ht
      · rintro ⟨h | ⟨-, hmakes, a, hanswer⟩, hkept, -⟩
        · exact ⟨h, hkept⟩
        · rw [(hneither a hanswer).1] at hmakes
          cases hmakes

/-! ## Where a diagnostic comes from -/

theorem Reported.append {evidence : Evidence} (h : Reported ts j evidence d) (us : List Step) :
    Reported (ts ++ us) j evidence d := by
  obtain ⟨hstep, hbetween, hstart, hstop, horder⟩ := h
  have hj := (List.getElem?_eq_some_iff.1 hstep).1
  have htake : (ts ++ us).take j = ts.take j := List.take_append_of_le_length (Nat.le_of_lt hj)
  rw [← htake] at hbetween hstart hstop horder
  exact ⟨(List.getElem?_append_left hj).trans hstep, hbetween, hstart, hstop, horder⟩

theorem Stems.append (h : Stems ts k j) (us : List Step) : Stems (ts ++ us) k j := by
  induction h with
  | report hstep =>
    have hk := (List.getElem?_eq_some_iff.1 hstep).1
    exact .report ((List.getElem?_append_left hk).trans hstep)
  | copy hstep hsource _ ih =>
    have hk := (List.getElem?_eq_some_iff.1 hstep).1
    rw [← List.take_append_of_le_length (Nat.le_of_lt hk)] at hsource
    exact .copy ((List.getElem?_append_left hk).trans hstep) hsource ih

theorem Stems.le (h : Stems ts k j) : j ≤ k := by
  induction h with
  | report => exact Nat.le_refl _
  | copy _ hsource _ ih =>
    have hlt := lt_length_of_mem_ledger (List.mem_of_getElem? hsource)
    rw [List.length_take] at hlt
    omega

/-- A diagnostic stems from one report only. -/
theorem Stems.unique {j' : Nat} (h : Stems ts k j) (h' : Stems ts k j') : j = j' := by
  induction h with
  | report hstep =>
    cases h' with
    | report => rfl
    | copy hstep' =>
      rw [hstep] at hstep'
      cases hstep'
  | copy hstep hsource _ ih =>
    cases h' with
    | report hstep' =>
      rw [hstep] at hstep'
      cases hstep'
    | copy hstep' hsource' hstems =>
      rw [hstep] at hstep'
      cases hstep'
      rw [hsource] at hsource'
      cases hsource'
      exact ih hstems

theorem reported_concat {evidence : Evidence}
    (h : Diagnostic.between (after ts).mark (after ts).cursor evidence = .ok d) :
    Reported (ts ++ [.report evidence]) ts.length evidence d := by
  by_cases hle : (after ts).mark ≤ (after ts).cursor
  · have hspan : d.span = ⟨(after ts).mark, (after ts).cursor, hle⟩ := by
      rw [Diagnostic.between_of_le hle] at h
      exact (Diagnostic.make_eq_ok_iff.1 h).2.1
    have htake : (ts ++ [Step.report evidence]).take ts.length = ts := List.take_left
    refine ⟨List.getElem?_concat_length, ?_, ?_, ?_, ?_⟩
    all_goals rw [htake]
    · exact h
    · rw [hspan]
    · rw [hspan]
    · exact hle
  · rw [Diagnostic.between_of_not_le hle] at h
    cases h

/-- What a step of the ledger answered is the diagnostic of the report that it stems from. -/
theorem exists_origin (hk : k ∈ ledger ts) :
    ∃ d j evidence, madeBy ts k = some d ∧ Stems ts k j ∧ Reported ts j evidence d := by
  induction ts using List.reverseRecOn generalizing k with
  | nil => cases hk
  | append_singleton ts t ih =>
    have hold : k ∈ ledger ts → ∃ d j evidence, madeBy (ts ++ [t]) k = some d ∧
        Stems (ts ++ [t]) k j ∧ Reported (ts ++ [t]) j evidence d := by
      intro hk
      obtain ⟨d, j, evidence, hmade, hstems, hreported⟩ := ih hk
      rw [← madeBy_append [t] (lt_length_of_mem_ledger hk)] at hmade
      exact ⟨d, j, evidence, hmade, hstems.append [t], hreported.append [t]⟩
    cases recorded ts t with
    | made d hsource hanswer hledger _ =>
      rw [hledger, List.mem_append, List.mem_singleton] at hk
      rcases hk with hk | rfl
      · exact hold hk
      have hlast : (ts ++ [t])[ts.length]? = some t := List.getElem?_concat_length
      have hmade := madeBy_concat_length hanswer
      cases hsource with
      | report hbetween => exact ⟨d, _, _, hmade, .report hlast, reported_concat hbetween⟩
      | copy hentry =>
        -- the copied entry was made by an earlier step, and stems from the same report
        obtain ⟨source, hsource, hmade'⟩ := getElem?_diagnostics_iff.1 hentry
        obtain ⟨d', j, evidence, hd', hstems, hreported⟩ := ih (List.mem_of_getElem? hsource)
        rw [hmade'] at hd'
        cases hd'
        have hstems' := Stems.copy hlast (by rwa [List.take_left]) (hstems.append [_])
        exact ⟨d, j, evidence, hmade, hstems', hreported.append _⟩
    | dropped index a _ _ hledger _ =>
      rw [hledger] at hk
      exact hold (List.mem_of_mem_eraseIdx hk)
    | kept _ hledger _ =>
      rw [hledger] at hk
      exact hold hk

/-! ## Later steps -/

theorem Makes.append (h : Makes ts k) (us : List Step) : Makes (ts ++ us) k := by
  obtain ⟨t, a, hk, hmakes⟩ := h
  refine ⟨t, a, ?_, hmakes⟩
  rw [trace_append, List.getElem?_append_left (List.getElem?_eq_some_iff.1 hk).1]
  exact hk

theorem drops_append_iff (hm : m < ts.length) : Drops (ts ++ us) m k ↔ Drops ts m k := by
  unfold Drops
  rw [trace_append, List.getElem?_append_left (by rwa [length_trace]),
    List.take_append_of_le_length (Nat.le_of_lt hm)]

/-- An entry of the ledger stays there until a later step drops its diagnostic. -/
theorem mem_ledger_append (us : List Step) (hk : k ∈ ledger ts) :
    k ∈ ledger (ts ++ us) ∨ ∃ m, ts.length ≤ m ∧ Drops (ts ++ us) m k := by
  obtain ⟨hmakes, hkept⟩ := mem_ledger_iff.1 hk
  by_cases hdrops : ∃ m, Drops (ts ++ us) m k
  · obtain ⟨m, hm⟩ := hdrops
    refine .inr ⟨m, Nat.le_of_not_lt fun hlt => ?_, hm⟩
    exact hkept m ((drops_append_iff hlt).1 hm)
  · exact .inl (mem_ledger_iff.2 ⟨hmakes.append us, not_exists.1 hdrops⟩)

/-- At every point of a run, the list holds in their order the diagnostics that accepted reports and
copies made and that no step has dropped. Each is what its step answered, which is the diagnostic
that the evidence of a report warrants between the mark and the cursor of that time. Later steps do
not change it: they keep it or drop it. -/
theorem diagnostics_come_from_reports (ts : List Step) :
    (ledger ts).Pairwise (· < ·) ∧
      (∀ k, k ∈ ledger ts ↔ Makes ts k ∧ ∀ m, ¬ Drops ts m k) ∧
      (after ts).diagnostics.map some = (ledger ts).map (madeBy ts) ∧
      (∀ k ∈ ledger ts, ∃ d j evidence, madeBy ts k = some d ∧ j ≤ k ∧ Stems ts k j ∧
        Reported ts j evidence d) ∧
      ∀ us, ∀ k ∈ ledger ts, madeBy (ts ++ us) k = madeBy ts k ∧
        (k ∈ ledger (ts ++ us) ∨ ∃ m, ts.length ≤ m ∧ Drops (ts ++ us) m k) := by
  refine ⟨pairwise_ledger ts, fun _ => mem_ledger_iff, diagnostics_eq_answers ts, ?_, ?_⟩
  · intro k hk
    obtain ⟨d, j, evidence, hmade, hstems, hreported⟩ := exists_origin hk
    exact ⟨d, j, evidence, hmade, hstems.le, hstems, hreported⟩
  · intro us k hk
    exact ⟨madeBy_append us (lt_length_of_mem_ledger hk), mem_ledger_append us hk⟩

/-- The copy of a copy, before and after the report that it stems from is dropped. -/
theorem copy_comes_from_dropped_report :
    2 ∈ ledger [.report (.unknownToken "~"), .copy 0, .copy 1] ∧
      (∃ d j evidence, madeBy [.report (.unknownToken "~"), .copy 0, .copy 1] 2 = some d ∧ j ≤ 2 ∧
        Stems [.report (.unknownToken "~"), .copy 0, .copy 1] 2 j ∧
          Reported [.report (.unknownToken "~"), .copy 0, .copy 1] j evidence d) ∧
      madeBy [.report (.unknownToken "~"), .copy 0, .copy 1, .drop 0] 2 =
        madeBy [.report (.unknownToken "~"), .copy 0, .copy 1] 2 ∧
      (2 ∈ ledger [.report (.unknownToken "~"), .copy 0, .copy 1, .drop 0] ∨
        ∃ m, 3 ≤ m ∧ Drops [.report (.unknownToken "~"), .copy 0, .copy 1, .drop 0] m 2) := by
  have hk : 2 ∈ ledger [.report (.unknownToken "~"), .copy 0, .copy 1] := by decide
  obtain ⟨-, -, -, horigin, hlater⟩ :=
    diagnostics_come_from_reports [.report (.unknownToken "~"), .copy 0, .copy 1]
  exact ⟨hk, horigin 2 hk, hlater [.drop 0] 2 hk⟩

end LexFault.Session
