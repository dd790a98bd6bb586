import Triage.Intel.World

/-!
# Sources of an engine

What an engine needs of a source: what it contributes to a finding, and possibly ways to prepare for a
run. The state that sources act on is left open; the four sources of this program act on a `World`.
-/
namespace Triage.Engine

abbrev Contribution := Finding → Finding

/-- A source of enrichment, acting on a state. -/
structure Source (σ : Type) where
  name : String
  /-- Forgets what was learnt in the run before. -/
  reset : Option (StateM σ Unit) := none
  /-- Prepares for all vulnerabilities of a run. -/
  prefetch : Option (List String → StateM σ (Except Failure Unit)) := none
  /-- What the source has to say about a finding. -/
  contribute : Finding → StateM σ (Except Failure Contribution)

open World

/-- The catalog of known exploited vulnerabilities. -/
def catalogSource : Source World where
  name := ExploitedCatalog.sourceName
  reset := some (onCatalog fun c => return ((), c.reset))
  prefetch := some fun _ => onCatalog (·.prefetch)
  contribute f := onCatalog (·.contribute f)

def forecastSource : Source World where
  name := Forecasts.sourceName
  reset := some (onForecasts fun c => return ((), c.reset))
  prefetch := some fun cves => onForecasts (·.prefetch cves)
  contribute f := onForecasts (·.contribute f)

def advisorySource : Source World where
  name := Advisories.sourceName
  reset := some (onAdvisories fun c => return ((), c.reset))
  contribute f := onAdvisories (·.contribute f)

def exploitSource : Source World where
  name := Exploits.sourceName
  contribute f := onExploits (·.contribute f)

/-- All sources, in the order in which they are applied. -/
def allSources : List (Source World) := [catalogSource, forecastSource, advisorySource, exploitSource]

end Triage.Engine
