import LexFault.Proofs.Evidence
import LexFault.Session

/-!
# Steps and runs

What a step can do to a session, one rule for each kind of step that is accepted (`Accepts`) and one
for each reason to refuse it (`Refuses`). Every step is one or the other, and `step` computes which
(`step_cases`). Whatever a run keeps is read off from these rules.

A refused step leaves the session as it is, and so does one that only observes it. Both kinds can be
taken out of a run: the steps that are left lead to the same session and answer as before
(`run_essential`).
-/

namespace LexFault.Session

variable {s next : Session} {t : Step} {ts us : List Step} {a : Answer} {refusal : Refusal}

/-! ## What a step can do -/

/-- The step is accepted: it shows an answer and leads to the next session. -/
inductive Accepts (s : Session) : Step → Answer → Session → Prop
  | jump {target : Position} : Accepts s (.jump target) (.position target) (s.withCursor target)
  | move {distance : Position} :
    Accepts s (.move distance) (.position (s.cursor + distance)) (s.withCursor (s.cursor + distance))
  | advance {text : String} :
    Accepts s (.advance text) (.position (s.cursor.passText text))
      (s.withCursor (s.cursor.passText text))
  | mark : Accepts s .mark (.position s.cursor) { s with mark := s.cursor }
  | span (h : s.mark ≤ s.cursor) : Accepts s .span (.span ⟨s.mark, s.cursor, h⟩) s
  | report {evidence : Evidence} {d : Diagnostic} :
    Diagnostic.between s.mark s.cursor evidence = .ok d →
      Accepts s (.report evidence) (.diagnostic d) (s.append d)
  | copy {index : Nat} {d : Diagnostic} :
    s.diagnostics[index]? = some d → Accepts s (.copy index) (.diagnostic d) (s.append d)
  | drop {index : Nat} {d : Diagnostic} :
    s.diagnostics[index]? = some d →
      Accepts s (.drop index) (.dropped d.kind (s.erase index).diagnostics.length) (s.erase index)
  | classify {index : Nat} {defect : Defect} {d : Diagnostic} :
    s.diagnostics[index]? = some d →
      Accepts s (.classify index defect) (.classified (d.reports defect) (d.detail? defect)) s
  | compare {first second : Nat} {d e : Diagnostic} :
    s.diagnostics[first]? = some d → s.diagnostics[second]? = some e →
      Accepts s (.compare first second) (.compared (d.kind == e.kind) (d.span == e.span) (d == e)) s
  | list : Accepts s .list (.listed s.diagnostics) s

/-- The step is refused. A span is refused if it would be inverted, a report also if its evidence
does not hold, and a step on a diagnostic if the list has none at the given place. -/
inductive Refuses (s : Session) : Step → Refusal → Prop
  | span : ¬ s.mark ≤ s.cursor → Refuses s .span (.failure (.inverted s.mark s.cursor))
  | reportInverted {evidence : Evidence} :
    ¬ s.mark ≤ s.cursor → Refuses s (.report evidence) (.failure (.inverted s.mark s.cursor))
  | reportUnmet {evidence : Evidence} {condition : Condition} :
    s.mark ≤ s.cursor → evidence.examine = .error condition →
      Refuses s (.report evidence) (.failure (.unmet condition.text))
  | copy {index : Nat} :
    s.diagnostics[index]? = none → Refuses s (.copy index) (.noSuchDiagnostic index)
  | drop {index : Nat} :
    s.diagnostics[index]? = none → Refuses s (.drop index) (.noSuchDiagnostic index)
  | classify {index : Nat} {defect : Defect} :
    s.diagnostics[index]? = none → Refuses s (.classify index defect) (.noSuchDiagnostic index)
  | compareFirst {first second : Nat} :
    s.diagnostics[first]? = none → Refuses s (.compare first second) (.noSuchDiagnostic first)
  | compareSecond {first second : Nat} {d : Diagnostic} :
    s.diagnostics[first]? = some d → s.diagnostics[second]? = none →
      Refuses s (.compare first second) (.noSuchDiagnostic second)

theorem lookup_of_some {index : Nat} {d : Diagnostic} (h : s.diagnostics[index]? = some d) :
    s.lookup index = .ok d := by
  rw [lookup, h]

theorem lookup_of_none {index : Nat} (h : s.diagnostics[index]? = none) :
    s.lookup index = .error (.noSuchDiagnostic index) := by
  rw [lookup, h]

theorem step_of_accepts (h : s.Accepts t a next) : s.step t = (.ok a, next) := by
  cases h with
  | span h => rw [step, attempt, currentSpan, Span.between_of_le h]; rfl
  | report h => rw [step, attempt, diagnose, h]; rfl
  | copy h => rw [step, attempt, lookup_of_some h]; rfl
  | drop h => rw [step, attempt, lookup_of_some h]; rfl
  | classify h => rw [step, attempt, lookup_of_some h]; rfl
  | compare hd he => rw [step, attempt, lookup_of_some hd, lookup_of_some he]; rfl
  | _ => rfl

theorem step_of_refuses (h : s.Refuses t refusal) : s.step t = (.error refusal, s) := by
  cases h with
  | span h => rw [step, attempt, currentSpan, Span.between_of_not_le h]; rfl
  | reportInverted h => rw [step, attempt, diagnose, Diagnostic.between_of_not_le h]; rfl
  | reportUnmet h hc =>
    rw [step, attempt, diagnose, Diagnostic.between_of_le h, Diagnostic.make, hc]
    rfl
  | copy h => rw [step, attempt, lookup_of_none h]; rfl
  | drop h => rw [step, attempt, lookup_of_none h]; rfl
  | classify h => rw [step, attempt, lookup_of_none h]; rfl
  | compareFirst h => rw [step, attempt, lookup_of_none h]; rfl
  | compareSecond hd he => rw [step, attempt, lookup_of_some hd, lookup_of_none he]; rfl

theorem accepts_or_refuses (s : Session) (t : Step) :
    (∃ a next, s.Accepts t a next) ∨ ∃ refusal, s.Refuses t refusal := by
  cases t with
  | jump target => exact .inl ⟨_, _, .jump⟩
  | move distance => exact .inl ⟨_, _, .move⟩
  | advance text => exact .inl ⟨_, _, .advance⟩
  | mark => exact .inl ⟨_, _, .mark⟩
  | list => exact .inl ⟨_, _, .list⟩
  | span =>
    by_cases h : s.mark ≤ s.cursor
    · exact .inl ⟨_, _, .span h⟩
    · exact .inr ⟨_, .span h⟩
  | report evidence =>
    by_cases h : s.mark ≤ s.cursor
    · cases hexamine : evidence.examine with
      | ok help =>
        have hbetween : Diagnostic.between s.mark s.cursor evidence =
            .ok ⟨evidence.kind, ⟨s.mark, s.cursor, h⟩, help⟩ := by
          rw [Diagnostic.between_of_le h, Diagnostic.make, hexamine]
        exact .inl ⟨_, _, .report hbetween⟩
      | error condition => exact .inr ⟨_, .reportUnmet h hexamine⟩
    · exact .inr ⟨_, .reportInverted h⟩
  | copy index =>
    cases h : s.diagnostics[index]? with
    | none => exact .inr ⟨_, .copy h⟩
    | some d => exact .inl ⟨_, _, .copy h⟩
  | drop index =>
    cases h : s.diagnostics[index]? with
    | none => exact .inr ⟨_, .drop h⟩
    | some d => exact .inl ⟨_, _, .drop h⟩
  | classify index defect =>
    cases h : s.diagnostics[index]? with
    | none => exact .inr ⟨_, .classify h⟩
    | some d => exact .inl ⟨_, _, .classify h⟩
  | compare first second =>
    cases hd : s.diagnostics[first]? with
    | none => exact .inr ⟨_, .compareFirst hd⟩
    | some d =>
      cases he : s.diagnostics[second]? with
      | none => exact .inr ⟨_, .compareSecond hd he⟩
      | some e => exact .inl ⟨_, _, .compare hd he⟩

theorem step_cases (s : Session) (t : Step) :
    (∃ a next, s.Accepts t a next ∧ s.step t = (.ok a, next)) ∨
      ∃ refusal, s.Refuses t refusal ∧ s.step t = (.error refusal, s) := by
  rcases s.accepts_or_refuses t with ⟨a, next, h⟩ | ⟨refusal, h⟩
  · exact .inl ⟨a, next, h, step_of_accepts h⟩
  · exact .inr ⟨refusal, h, step_of_refuses h⟩

theorem refuses_of_step_eq_error (h : (s.step t).1 = .error refusal) :
    s.Refuses t refusal ∧ (s.step t).2 = s := by
  rcases s.step_cases t with ⟨a, next, -, hstep⟩ | ⟨refusal', hrefuses, hstep⟩
  · rw [hstep] at h
    cases h
  · rw [hstep] at h
    cases h
    exact ⟨hrefuses, congrArg Prod.snd hstep⟩

/-! ## Runs -/

theorem length_run (s : Session) (ts : List Step) : (s.run ts).1.length = ts.length := by
  induction ts generalizing s with
  | nil => rfl
  | cons t ts ih => rw [run_cons, List.length_cons, ih, List.length_cons]

theorem run_append (s : Session) (ts us : List Step) :
    s.run (ts ++ us) =
      ((s.run ts).1 ++ ((s.run ts).2.run us).1, ((s.run ts).2.run us).2) := by
  induction ts generalizing s with
  | nil => rfl
  | cons t ts ih => rw [List.cons_append, run_cons, run_cons, ih, List.cons_append]

/-! ## Steps that a run does not need -/

/-- Whether a step only looks at the session. -/
def observes : Step → Bool
  | .span => true
  | .classify _ _ => true
  | .compare _ _ => true
  | .list => true
  | _ => false

theorem Accepts.next_eq_of_observes (h : s.Accepts t a next) (ht : observes t = true) :
    next = s := by
  cases h with
  | span => rfl
  | classify => rfl
  | compare => rfl
  | list => rfl
  | _ => cases ht

/-- The steps of a run, each with what it answers. -/
def trace (s : Session) (ts : List Step) : List (Step × Except Refusal Answer) :=
  ts.zip (s.run ts).1

/-- Whether a step, with its answer, is one that may change the session: it is neither refused nor
only looks. -/
def essential : Step × Except Refusal Answer → Bool
  | (t, .ok _) => !observes t
  | (_, .error _) => false

theorem trace_cons (s : Session) (t : Step) (ts : List Step) :
    s.trace (t :: ts) = (t, (s.step t).1) :: (s.step t).2.trace ts := rfl

theorem next_eq_of_not_essential (h : essential (t, (s.step t).1) = false) : (s.step t).2 = s := by
  rcases s.step_cases t with ⟨a, next, haccepts, hstep⟩ | ⟨refusal, -, hstep⟩
  · rw [hstep] at h ⊢
    exact haccepts.next_eq_of_observes (by simpa [essential] using h)
  · rw [hstep]

theorem run_essential (s : Session) (ts : List Step) :
    s.run (((s.trace ts).filter essential).map Prod.fst) =
      (((s.trace ts).filter essential).map Prod.snd, (s.run ts).2) := by
  induction ts generalizing s with
  | nil => rfl
  | cons t ts ih =>
    rw [trace_cons, run_cons]
    cases h : essential (t, (s.step t).1) with
    | true =>
      rw [List.filter_cons_of_pos h, List.map_cons, List.map_cons, run_cons, ih]
    | false =>
      rw [List.filter_cons_of_neg (by rw [h]; exact Bool.false_ne_true),
        next_eq_of_not_essential h, ih]

/-- A step that is refused is so for one of the stated reasons and leaves the session as it is. Take
these steps out of a run, and those that only look: the others answer as before and lead to the same
session. -/
theorem refusals_leave_no_trace (s : Session) (ts : List Step) :
    (∀ us t vs refusal, ts = us ++ t :: vs → ((s.run us).2.step t).1 = .error refusal →
        (s.run us).2.Refuses t refusal ∧ ((s.run us).2.step t).2 = (s.run us).2) ∧
      s.run (((s.trace ts).filter essential).map Prod.fst) =
        (((s.trace ts).filter essential).map Prod.snd, (s.run ts).2) :=
  ⟨fun _ _ _ _ _ h => refuses_of_step_eq_error h, run_essential s ts⟩

/-- A report on evidence that does not hold, and a drop of what is not there, between a report and a copy
of it. -/
theorem refused_report_leaves_no_trace :
    ((initial.run [.report (.unknownToken "~")]).2.step (.report (.unknownToken "a"))).1 =
        .error (.failure (.unmet "!lexeme.bytes().any(can_start_token)")) ∧
      (initial.run [.report (.unknownToken "~")]).2.Refuses (.report (.unknownToken "a"))
        (.failure (.unmet "!lexeme.bytes().any(can_start_token)")) ∧
      ((initial.run [.report (.unknownToken "~")]).2.step (.report (.unknownToken "a"))).2 =
        (initial.run [.report (.unknownToken "~")]).2 ∧
      ∃ d, initial.run [.report (.unknownToken "~"), .copy 0] =
        ([.ok (.diagnostic d), .ok (.diagnostic d)],
          (initial.run [.report (.unknownToken "~"), .report (.unknownToken "a"), .drop 1,
            .copy 0]).2) := by
  have hrefused : ((initial.run [.report (.unknownToken "~")]).2.step
      (.report (.unknownToken "a"))).1 =
        .error (.failure (.unmet "!lexeme.bytes().any(can_start_token)")) := rfl
  obtain ⟨hsteps, hrun⟩ := refusals_leave_no_trace initial
    [.report (.unknownToken "~"), .report (.unknownToken "a"), .drop 1, .copy 0]
  obtain ⟨hrefuses, hnext⟩ := hsteps [.report (.unknownToken "~")] (.report (.unknownToken "a"))
    [.drop 1, .copy 0] _ rfl hrefused
  exact ⟨hrefused, hrefuses, hnext, _, hrun⟩

end LexFault.Session
