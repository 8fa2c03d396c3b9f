import LexFault.Position

/-!
# Failures

Why a span or a diagnostic could not be made: a condition on the evidence does not hold, or a span
would end before it starts. A failure has a name, a text and a tip for the caller; located at the
place of the check, its text also names the file and the line.
-/

namespace LexFault

/-- A broken requirement of a caller. -/
inductive Failure where
  /-- The named condition does not hold. -/
  | unmet (condition : String)
  /-- A span was asked for that starts behind its end. -/
  | inverted (start stop : Position)
  deriving DecidableEq

namespace Failure

/-- The name of the kind of failure. -/
def name : Failure → String
  | .unmet _ => "PreconditionFailed"
  | .inverted _ _ => "InvertedRange"

/-- What went wrong. -/
def text : Failure → String
  | .unmet condition => "pre-condition `" ++ condition ++ "` failed"
  | .inverted start stop =>
    "pre-condition `begin <= end` failed: range from " ++ start.text ++ " to " ++ stop.text

theorem text_unmet (condition : String) :
    (unmet condition).text = "pre-condition `" ++ condition ++ "` failed" := rfl

theorem text_inverted (start stop : Position) :
    (inverted start stop).text = "pre-condition `begin <= end` failed: range from " ++ start.text ++
      " to " ++ stop.text := rfl

/-- The likely mistake of the caller. -/
def tip : Failure → String
  | .unmet condition =>
    "The evidence does not satisfy `" ++ condition ++
      "`, was the wrong diagnostic chosen for this lexeme?"
  | .inverted start stop =>
    "A range must not begin (" ++ start.text ++ ") after it ends (" ++ stop.text ++ ")"

theorem tip_unmet (condition : String) :
    (unmet condition).tip = "The evidence does not satisfy `" ++ condition ++
      "`, was the wrong diagnostic chosen for this lexeme?" := rfl

theorem tip_inverted (start stop : Position) :
    (inverted start stop).tip = "A range must not begin (" ++ start.text ++ ") after it ends (" ++
      stop.text ++ ")" := rfl

end Failure

/-- A failure together with the file and the line of the check that found it. -/
structure LocatedFailure where
  failure : Failure
  file : String
  line : UInt32
  deriving DecidableEq

/-- What went wrong, and where. -/
def LocatedFailure.text (f : LocatedFailure) : String :=
  f.failure.text ++ " on line " ++ f.line.toNat.repr ++ " in file " ++ f.file

end LexFault
