import Triage.Engine.Enrich
import Triage.Time.Instant

/-!
# Published results

The result of the last run that could load its findings is published until the next one. Runs repeat
at a fixed interval, counted from the start of the first one.
-/
namespace Triage.Engine

open Time (Duration Instant)

/-- The result of a run. Before the first one there are no findings and no time. -/
structure Publication where
  findings : List Finding := []
  stats : Stats := []
  lastRun : Option Instant := none

/-- The time of a run. The zero time is no time. -/
def runTime (now : Instant) : Option Instant := if now = .zero then none else some now

abbrev Loader (σ : Type) := StateM σ (Except Failure (List Finding))

/-- The failure of a run with nothing to load findings from. -/
def noLoader : Failure := .plain "no finding source configured"

/-- Runs the engine: loads findings, enriches them and publishes the result. A run that cannot load its
findings leaves the publication as it is. -/
def publish {σ : Type} (sources : List (Source σ)) (canceled : Bool) (now : σ → Instant)
    (load : Option (Loader σ)) (p : Publication) : StateM σ (Except Failure Report × Publication) :=
  match load with
  | none => return (.error noLoader, p)
  | some load => do
    match ← load with
    | .error e => return (.error e, p)
    | .ok fs =>
      let report ← enrich sources canceled fs
      return (.ok report,
        { findings := report.findings, stats := report.stats, lastRun := runTime (now (← get)) })

/-! ## Repetition -/

/-- When the next run is due. -/
structure Ticker where
  next : Instant
  interval : Duration
  deriving Repr, DecidableEq

/-- The interval between runs; one that is not positive is an hour. -/
def refreshInterval (d : Duration) : Duration := if d.nanos ≤ 0 then Duration.ofHours 1 else d

/-- Runs that repeat from now on. -/
def Ticker.start (now : Instant) (interval : Duration) : Ticker :=
  let interval := refreshInterval interval
  ⟨now.add interval, interval⟩

/-- Whether a run is due, and when the next one is. Of several that were missed only one is made up. -/
def Ticker.advance (t : Ticker) (now : Instant) : Bool × Ticker :=
  if now.nanos < t.next.nanos then (false, t)
  else
    let missed := (now.nanos - t.next.nanos) / t.interval.nanos + 1
    (true, { t with next := ⟨t.next.nanos + missed * t.interval.nanos⟩ })

end Triage.Engine
