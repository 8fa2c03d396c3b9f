import LexFault.Evidence
import LexFault.Span

/-!
# Diagnostics

What is reported about a faulty lexeme: its kind, where it stands, and a help text. `make` builds one
from evidence that holds; the evidence itself is not kept, so two diagnostics of one kind and span are
equal when their help texts are.
-/

namespace LexFault

/-- A report about a faulty lexeme. -/
structure Diagnostic where
  kind : Kind
  span : Span
  help : String
  deriving DecidableEq

namespace Diagnostic

/-- The diagnostic that the evidence warrants at a span. -/
def make (evidence : Evidence) (span : Span) : Except Failure Diagnostic :=
  match evidence.examine with
  | .ok help => .ok { kind := evidence.kind, span, help }
  | .error condition => .error condition.failure

/-- The diagnostic that the evidence warrants between two positions, which must be in order. -/
def between (start stop : Position) (evidence : Evidence) : Except Failure Diagnostic :=
  match Span.between start stop with
  | .ok span => make evidence span
  | .error failure => .error failure

theorem between_of_le {start stop : Position} (h : start ≤ stop) (evidence : Evidence) :
    between start stop evidence = make evidence ⟨start, stop, h⟩ := by
  rw [between, Span.between_of_le h]

theorem between_of_not_le {start stop : Position} (h : ¬ start ≤ stop) (evidence : Evidence) :
    between start stop evidence = .error (.inverted start stop) := by
  rw [between, Span.between_of_not_le h]

/-- How grave a lexical defect is: a program that has one is not well-formed. -/
def level : String := "ill-formed"

/-- A diagnostic in full, on one line if its help text is. -/
def report (d : Diagnostic) : String := level ++ " " ++ d.span.text ++ ": " ++ d.help

/-- Whether a diagnostic reports a defect. -/
def reports (d : Diagnostic) (defect : Defect) : Bool := d.kind.defect == defect

/-- The radix or the grammar of a diagnostic that is taken as one of the given defect. -/
def detail? (d : Diagnostic) (defect : Defect) : Option String :=
  if d.reports defect then d.kind.detail? else none

end Diagnostic

end LexFault
