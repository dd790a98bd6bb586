import Triage.Text.Case

/-!
# Severities

The five grades of severity. Scanners spell them in many ways; reading is indifferent to case and
surrounding space and knows the common synonyms, and everything else is unknown.
-/
namespace Triage

/-- How severe a scanner or vendor considers a vulnerability. -/
inductive Severity where
  | critical
  | high
  | medium
  | low
  | unknown
  deriving Repr, DecidableEq, Inhabited

namespace Severity

/-- The canonical spelling. -/
def name : Severity → String
  | critical => "CRITICAL"
  | high => "HIGH"
  | medium => "MEDIUM"
  | low => "LOW"
  | unknown => "UNKNOWN"

/-- The severity that an upper-case word means. -/
def ofWord (w : String) : Severity :=
  if w = "CRITICAL" then critical
  else if w = "HIGH" ∨ w = "IMPORTANT" then high
  else if w = "MEDIUM" ∨ w = "MODERATE" then medium
  else if w = "LOW" ∨ w = "MINOR" ∨ w = "INFORMATIONAL" then low
  else unknown

/-- The severity that a free-form text means. -/
def parse (s : String) : Severity := ofWord (Text.upper (Text.trim s))

end Severity

end Triage
