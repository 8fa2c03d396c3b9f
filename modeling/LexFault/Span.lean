import LexFault.Failure

/-!
# Spans

The part of a text from one position up to another, the end not included. A span never ends before
it starts: the type carries the order, and `between` fails on two positions that are out of order.
-/

namespace LexFault

/-- The text from `start` up to `stop`. -/
structure Span where
  start : Position
  stop : Position
  start_le_stop : start ≤ stop
  deriving DecidableEq

namespace Span

/-- The span of two positions, if they are in order. -/
def between (start stop : Position) : Except Failure Span :=
  if h : start ≤ stop then .ok ⟨start, stop, h⟩ else .error (.inverted start stop)

theorem between_of_le {start stop : Position} (h : start ≤ stop) :
    between start stop = .ok ⟨start, stop, h⟩ := dif_pos h

theorem between_of_not_le {start stop : Position} (h : ¬ start ≤ stop) :
    between start stop = .error (.inverted start stop) := dif_neg h

/-- Whether the span holds no text. -/
def isEmpty (s : Span) : Bool := s.start == s.stop

/-- A span written with its two ends. -/
def text (s : Span) : String := "from " ++ s.start.text ++ " to " ++ s.stop.text

end Span

end LexFault
