import Triage.Listing
import Triage.Finding.Document
import Triage.Scoring

/-!
# The overview of a list of findings

How many findings there are in all and in each tier, how many show signs of exploitation, and the ten
riskiest vulnerabilities: those with the highest risk first, then those with the most findings, then
those that come first in the list.
-/
namespace Triage

/-- What the findings of one vulnerability amount to. -/
structure CveOverview where
  cve : String
  risk : Float := 0
  priority : String
  count : Nat := 0
  exploited : Bool := false
  probability : Float := 0
  fixedVersion : String := ""
  affected : List String := []

namespace CveOverview

/-- What a finding affects: its package with the version, or else its source. -/
def affectedItem (f : Finding) : String :=
  if f.package = "" then f.source
  else if f.version = "" then f.package
  else f.package ++ "@" ++ f.version

def add (s : CveOverview) (f : Finding) : CveOverview :=
  let raised := s.risk < f.riskScore
  let probability := (f.forecast.map (·.probability)).getD 0
  let item := affectedItem f
  { s with
    count := s.count + 1
    risk := if raised then f.riskScore else s.risk
    priority := if raised then f.priority else s.priority
    exploited := s.exploited || f.inCatalog
    probability := if s.probability < probability then probability else s.probability
    fixedVersion :=
      if s.fixedVersion = "" then (f.remediation.map (·.fixedVersion)).getD "" else s.fixedVersion
    affected := if item = "" || s.affected.contains item then s.affected else s.affected ++ [item] }

/-- What the findings of `cve` in the list amount to. -/
def ofFindings (cve : String) (fs : List Finding) : CveOverview :=
  let own := fs.filter (·.cve == cve)
  own.foldl add { cve, priority := (own.head?.map (·.priority)).getD "" }

/-- `b` does not come before `a`: it has no higher risk, and at the same risk no more findings. -/
def notAfter (a b : CveOverview) : Bool :=
  if a.risk == b.risk then b.count ≤ a.count else !(a.risk < b.risk)

/-- The overview with its risk rounded to two decimals. -/
def rounded (s : CveOverview) : CveOverview := { s with risk := Number.roundCents s.risk }

end CveOverview

/-- What a list of findings amounts to. Risks are compared as they are and rounded when the list is complete. -/
structure Overview where
  total : Nat
  uniqueCves : Nat
  byPriority : List (Priority × Nat)
  exploited : Nat
  weaponized : Nat
  top : List CveOverview

/-- How many vulnerabilities the overview names. -/
def topLimit : Nat := 10

def Overview.ofFindings (fs : List Finding) : Overview :=
  let cves := Listing.distinct ((fs.map (·.cve)).filter (· != ""))
  let ranked := (cves.map (CveOverview.ofFindings · fs)).mergeSort CveOverview.notAfter
  { total := fs.length
    uniqueCves := cves.length
    byPriority := prioritySummary fs
    exploited := fs.countP (·.inCatalog)
    weaponized := fs.countP (·.weaponized)
    top := (ranked.take topLimit).map CveOverview.rounded }

/-! ## As JSON -/

open Json (member ofText textUnlessEmpty)

def prioritySummaryJson (counts : List (Priority × Nat)) : Json :=
  .object (counts.map fun (p, n) => member p.name (Json.ofInt n))

def CveOverview.toJson? (s : CveOverview) : Option Json := do
  let risk ← Json.ofFloat? s.risk
  let probability ← if s.probability == 0 then some [] else Json.floatMember? "epss" s.probability
  return .object <|
    [member "cve" (ofText s.cve), member "risk_score" risk, member "priority" (ofText s.priority),
      member "finding_count" (Json.ofInt s.count), member "in_kev" (.bool s.exploited)] ++
    probability ++ textUnlessEmpty "fixed_version" s.fixedVersion ++
    Json.listUnlessEmpty "affected" (s.affected.map ofText)

/-- The overview as a document, with the outcomes of the sources and the time of the run. -/
def Overview.toJson? (o : Overview) (sources : Json) (lastUpdated : String) : Option Json := do
  let top ← o.top.mapM CveOverview.toJson?
  return .object <|
    [member "total_findings" (Json.ofInt o.total), member "unique_cves" (Json.ofInt o.uniqueCves),
      member "by_priority" (prioritySummaryJson o.byPriority), member "in_kev" (Json.ofInt o.exploited),
      member "weaponized" (Json.ofInt o.weaponized), member "top_cves" (.array top),
      member "sources" sources] ++ textUnlessEmpty "last_updated" lastUpdated

end Triage
