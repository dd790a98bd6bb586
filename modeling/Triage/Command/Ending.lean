import Triage.Failure
import Triage.Priority

/-!
# How commands end

A command may fail, and it may refuse findings that are too urgent; each has its exit code.
-/
namespace Triage.Command

inductive Ending where
  | done
  /-- There are findings at or above a tier. -/
  | urgent (count : Nat) (tier : Priority)
  | failed (cause : Failure)
  deriving Repr, DecidableEq

/-- The exit code of the program. -/
def Ending.code : Ending → Nat
  | .done => 0
  | .urgent .. => 1
  | .failed _ => 2

/-- What is said about an ending, if anything. -/
def Ending.message? : Ending → Option String
  | .done => none
  | .urgent count tier =>
    some s!"{count} findings at {tier.name} or above: findings at or above the failure threshold"
  | .failed cause => some cause.message

/-- What a command printed, and how it ended. Notes are for the error stream. -/
structure Printed where
  output : String := ""
  notes : List String := []
  ending : Ending := .done
  deriving Repr, DecidableEq

def Printed.failure (cause : Failure) : Printed := { ending := .failed cause }

/-- The lines for the error stream. -/
def Printed.errors (p : Printed) : List String :=
  p.notes ++ (p.ending.message?.map ("Error: " ++ ·)).toList

end Triage.Command
