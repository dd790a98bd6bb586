import Triage.Engine.Publication
import Triage.Number.Layout

/-!
# Metrics

Numbers about the published findings for a monitoring system, in its text format. A family of series
has a name and one series for each combination of label values. Families without series are left out;
families are sorted by name and series by their label values.
-/
namespace Triage.Exposition

/-! ## The text format -/

/-- A series: its label values in the order of the label names, and its value. -/
abbrev Series := List String × Float

structure Family where
  name : String
  help : String
  /-- The label names in their order. -/
  labels : List String
  series : List Series

/-- The order of label values. -/
def before : List String → List String → Bool
  | [], _ => false
  | _ :: _, [] => false
  | a :: as, b :: bs => if a = b then before as bs else a < b

/-- Sets the value of a series, keeping the series in order. -/
def setSeries (labels : List String) (value : Float) : List Series → List Series
  | [] => [(labels, value)]
  | (l, v) :: rest =>
    if l = labels then (l, value) :: rest
    else if before labels l then (labels, value) :: (l, v) :: rest
    else (l, v) :: setSeries labels value rest

/-- The series with the given values; of several for the same labels the last one counts. -/
def seriesOf (values : List Series) : List Series :=
  values.foldl (fun s (labels, value) => setSeries labels value s) []

/-- A character of a label value. -/
def escapeChar (c : Char) : List Char :=
  if c = '\\' then ['\\', '\\']
  else if c = '"' then ['\\', '"']
  else if c = '\n' then ['\\', 'n']
  else [c]

def labelText (name value : String) : String :=
  name ++ "=\"" ++ String.ofList (value.toList.flatMap escapeChar) ++ "\""

def seriesText (f : Family) (s : Series) : String :=
  let labels := Text.join "," (f.labels.zipWith labelText s.1)
  f.name ++ "\x7b" ++ labels ++ "\x7d " ++ Number.Layout.general.write s.2 ++ "\n"

def familyText (f : Family) : String :=
  if f.series.isEmpty then ""
  else
    "# HELP " ++ f.name ++ " " ++ f.help ++ "\n# TYPE " ++ f.name ++ " gauge\n" ++
      Text.join "" (f.series.map (seriesText f))

/-! ## Labels -/

/-- How many bytes of a label value are kept. -/
def maxLabelBytes : Nat := 200

/-- A character that would break a line. -/
def isBreak (c : Char) : Bool := c == '\n' || c == '\r' || c == '\t'

/-- A text as a label value: breaks become spaces, and a text that is too long is cut and marked. There
is none if the cut falls inside a character, since what is left of it is no text. -/
def label? (s : String) : Option String :=
  if s = "" then some "unknown"
  else
    let cs := s.toList.map fun c => if isBreak c then ' ' else c
    let (kept, cut) := Text.takeBytes maxLabelBytes cs
    if kept.length = cs.length then some (Text.trim (String.ofList cs))
    else if cut = 0 then some (Text.trim (String.ofList (kept ++ ['.', '.', '.'])))
    else none

/-! ## The families -/

open Engine (Publication)

def flagText (b : Bool) : String := if b then "true" else "false"

def riskSeries? (f : Finding) : Option Series := do
  let cve ← label? f.cve
  let package ← label? f.package
  let version ← label? f.version
  let source ← label? f.source
  let priority ← label? f.priority
  return ([cve, flagText f.inCatalog, package, priority, source, version, flagText f.weaponized],
    Number.roundCents f.riskScore)

def forecastSeries? (f : Finding) : Option Series :=
  match f.forecast with
  | none => none
  | some s => if s.error = "" && f.cve ≠ "" then some ([f.cve], s.probability) else none

/-- A whole number as the value of a series. -/
def count (n : Nat) : Float := n.toFloat

/-- How many findings carry a failure of a source. -/
def errorCount (fs : List Finding) (source : String) : Nat :=
  fs.countP fun f => (f.enrichmentErrors.lookup source).isSome

/-- General facts about the last run. -/
def infoSeries (p : Publication) : List Series :=
  [ (["findings_total"], count p.findings.length),
    (["findings_in_kev"], count (p.findings.countP (·.inCatalog))),
    (["sources"], count p.stats.length) ] ++
  match p.lastRun with
  | none => []
  | some t => [(["last_run_timestamp"], Float.ofInt t.unixSeconds)]

def lookupSeries (name : String) (t : Engine.Tally) : List Series :=
  [([ "succeeded", name], count t.succeeded), (["failed", name], count t.failed),
    (["skipped", name], count t.skipped)]

/-- The families that describe a publication; none if a label cannot be written. -/
def families? (p : Publication) : Option (List Family) := do
  let risks ← p.findings.mapM riskSeries?
  return [
    { name := "riskrelay_enrichment_info", help := "Information about the last enrichment run"
      labels := ["info_type"], series := seriesOf (infoSeries p) },
    { name := "riskrelay_finding_epss_score", help := "EPSS exploitation probability of a CVE (0-1)"
      labels := ["cve"], series := seriesOf (p.findings.filterMap forecastSeries?) },
    { name := "riskrelay_finding_risk_score", help := "Risk score of an enriched finding"
      labels := ["cve", "in_kev", "package", "priority", "source", "version", "weaponized"]
      series := seriesOf risks },
    { name := "riskrelay_findings_by_priority", help := "Number of findings per priority tier"
      labels := ["priority"]
      series := seriesOf ((prioritySummary p.findings).map fun (tier, n) => ([tier.name], count n)) },
    { name := "riskrelay_findings_with_enrichment_errors"
      help := "Number of findings a source failed to enrich in the last run"
      labels := ["source"]
      series := seriesOf (p.stats.map fun (name, _) => ([name], count (errorCount p.findings name))) },
    { name := "riskrelay_source_lookups"
      help := "Enrichment lookups of the last run per source and outcome"
      labels := ["outcome", "source"]
      series := seriesOf (p.stats.flatMap fun (name, t) => lookupSeries name t) } ]

/-- The metrics of a publication in the text format. -/
def text? (p : Publication) : Option String :=
  (families? p).map fun fs => Text.join "" (fs.map familyText)

end Triage.Exposition
