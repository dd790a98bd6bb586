import Triage.Cvss
import Triage.Finding.Basic
import Triage.Priority
import Triage.Severity

/-!
# Risk scores and tiers

The risk score adds up four signals: four times the CVSS score, twenty-five times the probability of
exploitation, ten for a weaponized exploit and forty for a vulnerability that is known to be
exploited. The last outweighs the second and third together. Tiers follow from the score, except
that known exploitation is always immediate and a weaponized exploit is critical at least.

The rules are stated over any kind of numbers that can be added, multiplied and compared, so that
they can be read over exact numbers as well as run on doubles.
-/
namespace Triage

/-- The numbers that scores are made of. -/
class Magnitude (α : Type) where
  ofNat : Nat → α
  add : α → α → α
  mul : α → α → α
  lt : α → α → Bool
  le : α → α → Bool
  isNaN : α → Bool

instance : Magnitude Float where
  ofNat := Float.ofNat
  add a b := a + b
  mul a b := a * b
  lt a b := a < b
  le a b := a ≤ b
  isNaN := Float.isNaN

namespace Scoring

variable {α : Type} [Magnitude α]

open Magnitude

/-- `x` limited to the range from zero to one. -/
def clampUnit (x : α) : α :=
  if lt (ofNat 0) x then if lt x (ofNat 1) then x else ofNat 1 else ofNat 0

/-- `x` limited to ten. -/
def atMostTen (x : α) : α :=
  if lt x (ofNat 10) then x else ofNat 10

/-- The CVSS score that a bare severity counts for. -/
def baseline : Severity → α
  | .critical => ofNat 9
  | .high => ofNat 7
  | .medium => ofNat 5
  | .low => ofNat 3
  | .unknown => ofNat 0

/-- An explicit score counts if it is a number and not negative. -/
def usable (x : α) : Bool := !isNaN x && le (ofNat 0) x

/-- The CVSS score that counts: the explicit score, else that of the vector, else the baseline of the
severity. -/
def effectiveCvss (explicit vector : Option α) (severity : Severity) : α :=
  match explicit.filter usable with
  | some x => atMostTen x
  | none => vector.getD (baseline severity)

/-- What the score of a finding is made of. -/
structure Signals (α : Type) where
  cvss : α
  probability : Option α
  weaponized : Bool
  exploited : Bool

/-- The risk score: `4 * cvss + 25 * probability + 10 * weaponized + 40 * exploited`. -/
def Signals.risk (s : Signals α) : α :=
  let score := mul (ofNat 4) s.cvss
  let score :=
    match s.probability.filter (!isNaN ·) with
    | some p => add score (mul (ofNat 25) (clampUnit p))
    | none => score
  let score := if s.weaponized then add score (ofNat 10) else score
  if s.exploited then add score (ofNat 40) else score

def tierOfScore (risk : α) : Priority :=
  if le (ofNat 45) risk then .critical
  else if le (ofNat 30) risk then .high
  else if le (ofNat 15) risk then .medium
  else .low

def tier (risk : α) (weaponized exploited : Bool) : Priority :=
  if exploited then .immediate
  else
    let p := tierOfScore risk
    if weaponized && Priority.critical.rank < p.rank then .critical else p

def Signals.tier (s : Signals α) : Priority :=
  Scoring.tier s.risk s.weaponized s.exploited

end Scoring

namespace Finding

/-- The CVSS score that counts for a finding. -/
def effectiveCvss (f : Finding) : Float :=
  Scoring.effectiveCvss f.cvssScore (Cvss.score? f.cvssVector) (Severity.parse f.severity)

/-- What the score of a finding is made of. -/
def signals (f : Finding) : Scoring.Signals Float :=
  ⟨f.effectiveCvss, f.forecast.map (·.probability), f.weaponized, f.inCatalog⟩

/-- The tier of a finding with the risk score that it carries. -/
def assignPriority (f : Finding) : Priority :=
  Scoring.tier f.riskScore f.weaponized f.inCatalog

def score (f : Finding) : Finding :=
  { f with riskScore := f.signals.risk, priority := f.signals.tier.name }

end Finding

/-- How many findings there are in each tier, from the most urgent one on. Findings without a tier are
not counted. -/
def prioritySummary (fs : List Finding) : List (Priority × Nat) :=
  Priority.all.map fun p => (p, fs.countP (·.priority == p.name))

end Triage
