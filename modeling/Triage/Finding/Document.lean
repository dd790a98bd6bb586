import Triage.Finding.Basic
import Triage.Json.Decode
import Triage.Number.Layout

/-!
# Findings as JSON

Members that are empty are left out; the risk score is always written, rounded to two decimals. A
finding with a number that is infinite or not a number has no written form.
-/
namespace Triage

open Json (member ofText textUnlessEmpty flagIfSet)
open Json.Decoder (FieldRule field text bool float optional plainList plainMap object)

/-- A finite number as a document. -/
def Json.ofFloat? (x : Float) : Option Json :=
  if Number.isFinite x then some (.number (Number.Layout.json.write x)) else none

def Json.ofInt (n : Int) : Json := .number (toString n)

def Json.ofTexts (texts : List String) : Json := .array (texts.map Json.ofText)

/-! ## Writing -/

def CatalogEntry.toJson (e : CatalogEntry) : Json :=
  .object <|
    [member "cve_id" (ofText e.cveId), member "vendor_project" (ofText e.vendorProject),
      member "product" (ofText e.product), member "vulnerability_name" (ofText e.vulnerabilityName),
      member "date_added" (ofText e.dateAdded), member "due_date" (ofText e.dueDate),
      member "required_action" (ofText e.requiredAction)] ++
    textUnlessEmpty "short_description" e.shortDescription ++
    textUnlessEmpty "known_ransomware_campaign_use" e.ransomwareUse ++
    textUnlessEmpty "notes" e.notes

def ExploitedStatus.toJson (s : ExploitedStatus) : Json :=
  .object <|
    member "in_kev" (.bool s.inCatalog) :: flagIfSet "unknown" s.unknown ++ flagIfSet "stale" s.stale ++
    (s.entry.map fun e => member "entry" e.toJson).toList

def Forecast.toJson? (s : Forecast) : Option Json := do
  let probability ← Json.ofFloat? s.probability
  let percentile ← Json.ofFloat? s.percentile
  return .object <|
    [member "cve" (ofText s.cve), member "epss_score" probability, member "epss_percentile" percentile] ++
    textUnlessEmpty "date" s.date ++ flagIfSet "stale" s.stale ++ textUnlessEmpty "error" s.error

def AffectedRange.toJson (r : AffectedRange) : Json :=
  .object <|
    [member "package" (ofText r.package), member "ecosystem" (ofText r.ecosystem),
      member "vulnerable_range" (ofText r.vulnerableRange)] ++
    textUnlessEmpty "first_patched_version" r.firstPatched

def Json.listUnlessEmpty (name : String) (items : List Json) : List (String × Json) :=
  if items.isEmpty then [] else [member name (.array items)]

def Advisory.toJson (a : Advisory) : Json :=
  .object <|
    member "ghsa_id" (ofText a.ghsaId) :: textUnlessEmpty "summary" a.summary ++
    textUnlessEmpty "description" a.description ++ textUnlessEmpty "severity" a.severity ++
    textUnlessEmpty "published_at" a.publishedAt ++ textUnlessEmpty "updated_at" a.updatedAt ++
    Json.listUnlessEmpty "vulnerabilities" (a.affected.map AffectedRange.toJson) ++
    Json.listUnlessEmpty "references" (a.references.map ofText)

def ExploitRecord.toJson (r : ExploitRecord) : Json :=
  .object <|
    [member "exploit_available" (.bool r.available), member "exploit_maturity" (ofText r.maturity)] ++
    textUnlessEmpty "attack_vector" r.attackVector ++
    [member "weaponized" (.bool r.weaponized), member "ransomware_use" (.bool r.ransomwareUse)] ++
    textUnlessEmpty "source" r.source ++ textUnlessEmpty "error" r.error

def Remediation.toJson (r : Remediation) : Json :=
  .object <|
    textUnlessEmpty "fixed_version" r.fixedVersion ++
    textUnlessEmpty "vulnerable_range" r.vulnerableRange ++ textUnlessEmpty "source" r.source

def Json.mapUnlessEmpty (name : String) (entries : List (String × String)) : List (String × Json) :=
  if entries.isEmpty then []
  else [member name (.object (entries.map fun (k, v) => member k (ofText v)))]

/-- An optional number as no member or one. -/
def Json.floatMember? (name : String) : Option Float → Option (List (String × Json))
  | none => some []
  | some x => (Json.ofFloat? x).map fun j => [member name j]

def Json.forecastMember? : Option Forecast → Option (List (String × Json))
  | none => some []
  | some s => s.toJson?.map fun j => [member "epss" j]

def Finding.toJson? (f : Finding) : Option Json := do
  let score ← Json.floatMember? "cvss_score" f.cvssScore
  let forecast ← Json.forecastMember? f.forecast
  let risk ← Json.ofFloat? (Number.roundCents f.riskScore)
  return .object <|
    textUnlessEmpty "cve" f.cve ++ textUnlessEmpty "id" f.id ++
    (f.vulnerabilityId.map fun id => member "vulnerability" (.object (textUnlessEmpty "id" id))).toList ++
    textUnlessEmpty "package" f.package ++ textUnlessEmpty "version" f.version ++
    textUnlessEmpty "ecosystem" f.ecosystem ++ textUnlessEmpty "severity" f.severity ++ score ++
    textUnlessEmpty "cvss_vector" f.cvssVector ++ textUnlessEmpty "description" f.description ++
    textUnlessEmpty "source" f.source ++
    (f.exploited.map fun s => member "kev" s.toJson).toList ++ forecast ++
    textUnlessEmpty "exploitation_probability" f.exploitationProbability ++
    textUnlessEmpty "epss_priority" f.forecastLevel ++
    (f.advisory.map fun a => member "ghsa" a.toJson).toList ++
    (f.exploit.map fun r => member "exploit" r.toJson).toList ++
    (f.remediation.map fun r => member "remediation" r.toJson).toList ++
    [member "risk_score" risk] ++
    textUnlessEmpty "priority" f.priority ++ textUnlessEmpty "effective_severity" f.effectiveSeverity ++
    Json.listUnlessEmpty "warnings" (f.warnings.map ofText) ++
    Json.mapUnlessEmpty "enrichment_errors" f.enrichmentErrors

def Finding.listToJson? (fs : List Finding) : Option Json :=
  (fs.mapM Finding.toJson?).map Json.array

/-! ## Reading -/

def CatalogEntry.decoder : Json.Decoder CatalogEntry := object [
  field "cve_id" (·.cveId) (fun e v => { e with cveId := v }) text,
  field "vendor_project" (·.vendorProject) (fun e v => { e with vendorProject := v }) text,
  field "product" (·.product) (fun e v => { e with product := v }) text,
  field "vulnerability_name" (·.vulnerabilityName) (fun e v => { e with vulnerabilityName := v }) text,
  field "date_added" (·.dateAdded) (fun e v => { e with dateAdded := v }) text,
  field "due_date" (·.dueDate) (fun e v => { e with dueDate := v }) text,
  field "required_action" (·.requiredAction) (fun e v => { e with requiredAction := v }) text,
  field "short_description" (·.shortDescription) (fun e v => { e with shortDescription := v }) text,
  field "known_ransomware_campaign_use" (·.ransomwareUse) (fun e v => { e with ransomwareUse := v }) text,
  field "notes" (·.notes) (fun e v => { e with notes := v }) text]

def ExploitedStatus.decoder : Json.Decoder ExploitedStatus := object [
  field "in_kev" (·.inCatalog) (fun s v => { s with inCatalog := v }) bool,
  field "unknown" (·.unknown) (fun s v => { s with unknown := v }) bool,
  field "stale" (·.stale) (fun s v => { s with stale := v }) bool,
  field "entry" (·.entry) (fun s v => { s with entry := v }) (optional {} CatalogEntry.decoder)]

def Forecast.decoder : Json.Decoder Forecast := object [
  field "cve" (·.cve) (fun s v => { s with cve := v }) text,
  field "epss_score" (·.probability) (fun s v => { s with probability := v }) float,
  field "epss_percentile" (·.percentile) (fun s v => { s with percentile := v }) float,
  field "date" (·.date) (fun s v => { s with date := v }) text,
  field "stale" (·.stale) (fun s v => { s with stale := v }) bool,
  field "error" (·.error) (fun s v => { s with error := v }) text]

def AffectedRange.decoder : Json.Decoder AffectedRange := object [
  field "package" (·.package) (fun r v => { r with package := v }) text,
  field "ecosystem" (·.ecosystem) (fun r v => { r with ecosystem := v }) text,
  field "vulnerable_range" (·.vulnerableRange) (fun r v => { r with vulnerableRange := v }) text,
  field "first_patched_version" (·.firstPatched) (fun r v => { r with firstPatched := v }) text]

def Advisory.decoder : Json.Decoder Advisory := object [
  field "ghsa_id" (·.ghsaId) (fun a v => { a with ghsaId := v }) text,
  field "summary" (·.summary) (fun a v => { a with summary := v }) text,
  field "description" (·.description) (fun a v => { a with description := v }) text,
  field "severity" (·.severity) (fun a v => { a with severity := v }) text,
  field "published_at" (·.publishedAt) (fun a v => { a with publishedAt := v }) text,
  field "updated_at" (·.updatedAt) (fun a v => { a with updatedAt := v }) text,
  field "vulnerabilities" (·.affected) (fun a v => { a with affected := v })
    (plainList {} AffectedRange.decoder),
  field "references" (·.references) (fun a v => { a with references := v }) (plainList "" text)]

def ExploitRecord.decoder : Json.Decoder ExploitRecord := object [
  field "exploit_available" (·.available) (fun r v => { r with available := v }) bool,
  field "exploit_maturity" (·.maturity) (fun r v => { r with maturity := v }) text,
  field "attack_vector" (·.attackVector) (fun r v => { r with attackVector := v }) text,
  field "weaponized" (·.weaponized) (fun r v => { r with weaponized := v }) bool,
  field "ransomware_use" (·.ransomwareUse) (fun r v => { r with ransomwareUse := v }) bool,
  field "source" (·.source) (fun r v => { r with source := v }) text,
  field "error" (·.error) (fun r v => { r with error := v }) text]

def Remediation.decoder : Json.Decoder Remediation := object [
  field "fixed_version" (·.fixedVersion) (fun r v => { r with fixedVersion := v }) text,
  field "vulnerable_range" (·.vulnerableRange) (fun r v => { r with vulnerableRange := v }) text,
  field "source" (·.source) (fun r v => { r with source := v }) text]

def Finding.decoder : Json.Decoder Finding := object [
  field "cve" (·.cve) (fun f v => { f with cve := v }) text,
  field "id" (·.id) (fun f v => { f with id := v }) text,
  field "vulnerability" (·.vulnerabilityId) (fun f v => { f with vulnerabilityId := v })
    (optional "" (object [field "id" (fun s => s) (fun _ v => v) text])),
  field "package" (·.package) (fun f v => { f with package := v }) text,
  field "version" (·.version) (fun f v => { f with version := v }) text,
  field "ecosystem" (·.ecosystem) (fun f v => { f with ecosystem := v }) text,
  field "severity" (·.severity) (fun f v => { f with severity := v }) text,
  field "cvss_score" (·.cvssScore) (fun f v => { f with cvssScore := v }) (optional 0 float),
  field "cvss_vector" (·.cvssVector) (fun f v => { f with cvssVector := v }) text,
  field "description" (·.description) (fun f v => { f with description := v }) text,
  field "source" (·.source) (fun f v => { f with source := v }) text,
  field "kev" (·.exploited) (fun f v => { f with exploited := v }) (optional {} ExploitedStatus.decoder),
  field "epss" (·.forecast) (fun f v => { f with forecast := v }) (optional {} Forecast.decoder),
  field "exploitation_probability" (·.exploitationProbability)
    (fun f v => { f with exploitationProbability := v }) text,
  field "epss_priority" (·.forecastLevel) (fun f v => { f with forecastLevel := v }) text,
  field "ghsa" (·.advisory) (fun f v => { f with advisory := v }) (optional {} Advisory.decoder),
  field "exploit" (·.exploit) (fun f v => { f with exploit := v }) (optional {} ExploitRecord.decoder),
  field "remediation" (·.remediation) (fun f v => { f with remediation := v })
    (optional {} Remediation.decoder),
  field "risk_score" (·.riskScore) (fun f v => { f with riskScore := v }) float,
  field "priority" (·.priority) (fun f v => { f with priority := v }) text,
  field "effective_severity" (·.effectiveSeverity) (fun f v => { f with effectiveSeverity := v }) text,
  field "warnings" (·.warnings) (fun f v => { f with warnings := v }) (plainList "" text),
  field "enrichment_errors" (·.enrichmentErrors) (fun f v => { f with enrichmentErrors := v })
    (plainMap "" text)]

/-- A list of findings, absent for `null`. -/
def Finding.listDecoder : Json.Decoder (Option (List Finding)) :=
  Json.Decoder.list {} Finding.decoder

end Triage
