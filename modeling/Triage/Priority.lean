import Triage.Text.Case

/-!
# Priority tiers

A finding ends up in one of five tiers, from immediate to low. A tier has a full name and a short
one, which is the first two characters of the full name.
-/
namespace Triage

/-- How urgent a finding is. -/
inductive Priority where
  | immediate
  | critical
  | high
  | medium
  | low
  deriving Repr, DecidableEq, Inhabited

namespace Priority

/-- All tiers, from the most to the least urgent. -/
def all : List Priority := [immediate, critical, high, medium, low]

/-- The full name of a tier. -/
def name : Priority → String
  | immediate => "P0-IMMEDIATE"
  | critical => "P1-CRITICAL"
  | high => "P2-HIGH"
  | medium => "P3-MEDIUM"
  | low => "P4-LOW"

def shortName : Priority → String
  | immediate => "P0"
  | critical => "P1"
  | high => "P2"
  | medium => "P3"
  | low => "P4"

/-- Zero for the most urgent tier up to four for the least urgent. -/
def rank : Priority → Nat
  | immediate => 0
  | critical => 1
  | high => 2
  | medium => 3
  | low => 4

/-- The tier with exactly this full name. -/
def ofName? (s : String) : Option Priority := all.find? (·.name == s)

/-- The tier that a full or short name means, in any case and with any surrounding space. -/
def parse? (s : String) : Option Priority :=
  let w := Text.upper (Text.trim s)
  all.find? fun p => w == p.name || w == p.shortName

theorem ofName?_name (p : Priority) : ofName? p.name = some p := by
  cases p <;> decide

end Priority

end Triage
