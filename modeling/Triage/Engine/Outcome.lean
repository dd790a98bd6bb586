import Triage.Engine.Source
import Triage.Scoring

/-!
# Outcomes of lookups

A run looks every finding up in every source. What came of it is merged into the finding, source by
source in their order, and counted for the source.
-/
namespace Triage.Engine

/-- What came of one lookup. A lookup that was skipped never reached the source. -/
inductive Outcome where
  | contributed (change : Contribution)
  | failed (failure : SourceFailure)
  | skipped (failure : SourceFailure)

/-- The failure of a lookup that did not succeed. -/
def Outcome.failure? : Outcome → Option SourceFailure
  | .contributed _ => none
  | .failed f | .skipped f => some f

/-- The kind of failure that ends the use of a source for the run. -/
def disablingKind : String := "auth"

/-- The source is of no use for the rest of the run. -/
def Outcome.disables : Outcome → Bool
  | .failed f => f.kind == disablingKind
  | _ => false

/-- Merges the outcome of a lookup into a finding. -/
def Outcome.merge (name : String) (o : Outcome) (f : Finding) : Finding :=
  match o with
  | .contributed change => change f
  | .failed failure | .skipped failure =>
    { f with enrichmentErrors := Keyed.insert name failure.message f.enrichmentErrors }

/-- Merges the outcomes of the lookups of a finding in their order. -/
def mergeAll (f : Finding) (outcomes : List (String × Outcome)) : Finding :=
  outcomes.foldl (fun f (name, o) => o.merge name f) f

/-- How many lookups in a source came out which way, and whether it was given up. -/
structure Tally where
  succeeded : Nat := 0
  failed : Nat := 0
  skipped : Nat := 0
  disabled : Bool := false
  deriving Repr, DecidableEq, Inhabited

/-- Counts one more lookup. -/
def Tally.add (t : Tally) : Outcome → Tally
  | .contributed _ => { t with succeeded := t.succeeded + 1 }
  | .failed _ => { t with failed := t.failed + 1 }
  | .skipped _ => { t with skipped := t.skipped + 1 }

/-- The tally of one source, from all lookups of a run. -/
def Tally.ofOutcomes (name : String) (outcomes : List (String × Outcome)) (disabled : Bool) : Tally :=
  ((outcomes.filter (·.1 == name)).map (·.2)).foldl Tally.add { disabled }

/-- Tallies by the names of the sources, in the order of the names. -/
abbrev Stats := List (String × Tally)

open Json (member)

def Tally.toJson (t : Tally) : Json :=
  .object
    [ member "succeeded" (Json.ofInt t.succeeded), member "failed" (Json.ofInt t.failed),
      member "skipped" (Json.ofInt t.skipped), member "disabled" (.bool t.disabled) ]

def Stats.toJson (s : Stats) : Json := .object (s.map fun (name, t) => member name t.toJson)

end Triage.Engine
