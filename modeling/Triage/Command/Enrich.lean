import Triage.Command.Ending
import Triage.Command.Report
import Triage.Pipeline

/-!
# Enriching once

Loads findings, enriches them and prints a report. The command refuses to end well if a source had to
be given up, or if findings are at or above a tier that the caller names.
-/
namespace Triage.Command

/-- What the command line says about one enrichment. -/
structure EnrichOptions where
  format : String := "table"
  /-- The file to write the report to; none prints it. -/
  output : String := ""
  failOn : String := ""
  colours : Bool := false
  deriving Repr, DecidableEq

namespace EnrichOptions

/-- The tier from which on findings are refused. -/
def threshold (o : EnrichOptions) : Except Failure (Option Priority) :=
  if o.failOn = "" then .ok none
  else
    match Priority.parse? o.failOn with
    | some p => .ok (some p)
    | none =>
      .error (.plain ("invalid --fail-on tier " ++ Text.quoted o.failOn ++ ", must be one of P0 to P4"))

end EnrichOptions

/-- How many findings are at least as urgent as a tier. -/
def countAtOrAbove (tier : Priority) (fs : List Finding) : Nat :=
  fs.countP fun f => (Priority.ofName? f.priority).any (·.rank ≤ tier.rank)

/-- The sources that were given up, in the order of their names. -/
def givenUp (stats : Engine.Stats) : List String := (stats.filter (·.2.disabled)).map (·.1)

/-- How a command ends that has printed its report. -/
def verdict (threshold : Option Priority) (r : Engine.Report) : Ending :=
  match givenUp r.stats with
  | [] =>
    match threshold with
    | none => .done
    | some tier =>
      let n := countAtOrAbove tier r.findings
      if n = 0 then .done else .urgent n tier
  | names =>
    .failed (.context (Text.join ", " names ++ " disabled, check the configured credentials")
      (.plain "enrichment source rejected its credentials"))

def deliver (output text : String) (ending : Ending) : Session Printed := fun h =>
  if output = "" then ({ output := text, ending }, h)
  else
    match h.disk.write h.faults output text h.now with
    | .error e => (.failure (.context "failed to write output file" e), h)
    | .ok disk => ({ notes := ["Report written to " ++ output], ending }, { h with disk })

def enrichOnce (p : Pipeline) (format : Report.Format) (threshold : Option Priority) (o : EnrichOptions) :
    StateM World Printed := do
  match ← p.load with
  | .error e => return .failure (.context "failed to load findings" e)
  | .ok fs =>
    let report ← Engine.enrich p.sources false fs
    match Report.render format o.colours report.findings with
    | .error e => return .failure (.context "failed to generate report" e)
    | .ok text => World.onHost (deliver o.output text (verdict threshold report))

/-- The command: checks what it was told, and runs. -/
def enrich (cloud : FindingsSettings.CloudAccess) (s : Settings) (o : EnrichOptions) :
    StateM World Printed :=
  let plan : Except Failure (Pipeline × Report.Format × Option Priority) := do
    let format ← Report.Format.ofName o.format
    let threshold ← o.threshold
    return (← Pipeline.ofSettings cloud s, format, threshold)
  match plan with
  | .error e => return .failure e
  | .ok (p, format, threshold) => enrichOnce p format threshold o

end Triage.Command
