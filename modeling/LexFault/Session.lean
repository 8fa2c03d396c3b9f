import LexFault.Diagnostic

/-!
# Sessions

A scanner's work on one text: a cursor that it moves, a mark where the current lexeme starts, and the
diagnostics it has reported. A step either answers and leads to a new state or is refused; a refused
step leaves the state as it is.
-/

namespace LexFault

/-- The state of a scanner. -/
structure Session where
  cursor : Position
  mark : Position
  diagnostics : List Diagnostic
  deriving DecidableEq

/-- What a scanner can be told to do; diagnostics are named by their place in the list. -/
inductive Step where
  | jump (target : Position)
  | move (distance : Position)
  | advance (text : String)
  | mark
  | span
  | report (evidence : Evidence)
  | copy (index : Nat)
  | drop (index : Nat)
  | classify (index : Nat) (defect : Defect)
  | compare (first second : Nat)
  | list
  deriving DecidableEq

/-- What a step shows. -/
inductive Answer where
  | position (position : Position)
  | span (span : Span)
  | diagnostic (diagnostic : Diagnostic)
  | dropped (kind : Kind) (left : Nat)
  | classified (reports : Bool) (detail : Option String)
  | compared (kind span whole : Bool)
  | listed (diagnostics : List Diagnostic)
  deriving DecidableEq

/-- Why a step is refused. -/
inductive Refusal where
  | failure (failure : Failure)
  | noSuchDiagnostic (index : Nat)
  deriving DecidableEq

namespace Session

/-- The state before the first step. -/
def initial : Session := ⟨.origin, .origin, []⟩

/-- The span from the mark to the cursor. -/
def currentSpan (s : Session) : Except Refusal Span :=
  (Span.between s.mark s.cursor).mapError .failure

/-- The diagnostic that the evidence warrants from the mark to the cursor. -/
def diagnose (s : Session) (evidence : Evidence) : Except Refusal Diagnostic :=
  (Diagnostic.between s.mark s.cursor evidence).mapError .failure

/-- The diagnostic at a place of the list. -/
def lookup (s : Session) (index : Nat) : Except Refusal Diagnostic :=
  match s.diagnostics[index]? with
  | some d => .ok d
  | none => .error (.noSuchDiagnostic index)

def withCursor (s : Session) (p : Position) : Session := { s with cursor := p }

/-- The state with one more diagnostic at the end of the list. -/
def append (s : Session) (d : Diagnostic) : Session :=
  { s with diagnostics := s.diagnostics ++ [d] }

/-- The state without the diagnostic at a place of the list; later ones move up. -/
def erase (s : Session) (index : Nat) : Session :=
  { s with diagnostics := s.diagnostics.eraseIdx index }

/-- What a step answers and the state it leads to, or why it is refused. -/
def attempt (s : Session) : Step → Except Refusal (Answer × Session)
  | .jump target => return (.position target, s.withCursor target)
  | .move distance => return (.position (s.cursor + distance), s.withCursor (s.cursor + distance))
  | .advance text =>
    return (.position (s.cursor.passText text), s.withCursor (s.cursor.passText text))
  | .mark => return (.position s.cursor, { s with mark := s.cursor })
  | .span => do
    let span ← s.currentSpan
    return (.span span, s)
  | .report evidence => do
    let d ← s.diagnose evidence
    return (.diagnostic d, s.append d)
  | .copy index => do
    let d ← s.lookup index
    return (.diagnostic d, s.append d)
  | .drop index => do
    let d ← s.lookup index
    return (.dropped d.kind (s.erase index).diagnostics.length, s.erase index)
  | .classify index defect => do
    let d ← s.lookup index
    return (.classified (d.reports defect) (d.detail? defect), s)
  | .compare first second => do
    let d ← s.lookup first
    let e ← s.lookup second
    return (.compared (d.kind == e.kind) (d.span == e.span) (d == e), s)
  | .list => return (.listed s.diagnostics, s)

/-- A step: its answer or refusal, and the state after it. -/
def step (s : Session) (t : Step) : Except Refusal Answer × Session :=
  match s.attempt t with
  | .ok (answer, next) => (.ok answer, next)
  | .error refusal => (.error refusal, s)

/-- The answers of a list of steps, and the state after them. -/
def run (s : Session) : List Step → List (Except Refusal Answer) × Session
  | [] => ([], s)
  | t :: ts =>
    let (answer, next) := s.step t
    let (answers, last) := next.run ts
    (answer :: answers, last)

theorem run_nil (s : Session) : s.run [] = ([], s) := rfl

theorem run_cons (s : Session) (t : Step) (ts : List Step) :
    s.run (t :: ts) = ((s.step t).1 :: ((s.step t).2.run ts).1, ((s.step t).2.run ts).2) := rfl

end Session

end LexFault
