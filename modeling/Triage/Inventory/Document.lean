import Triage.Finding.Document
import Triage.Json.Decode
import Triage.Text.Pieces
import Triage.Severity

/-!
# Findings documents

Findings come as a JSON array, as an object with a member `findings`, or as the `matches` of a
vulnerability matcher. A matcher's entry names the vulnerability, related ones, and the affected
artifact; it is turned into a finding whose CVE identifier is looked for among all of these.
-/
namespace Triage.Inventory

open Json.Decoder (field text float optional list plainList object)

/-- A CVSS rating in a matcher's entry. -/
structure Rating where
  vector : String := ""
  baseScore : Option Float := none
  deriving Repr, Inhabited

/-- One entry of a vulnerability matcher. -/
structure ScannerMatch where
  id : String := ""
  severity : String := ""
  description : String := ""
  ratings : List Rating := []
  fixedVersions : List String := []
  relatedIds : List String := []
  artifactName : String := ""
  artifactVersion : String := ""
  artifactType : String := ""
  deriving Repr, Inhabited

/-- A nested object whose members belong to the same record. -/
def nested {α : Type} (name : String) (fields : List (Json.Decoder.FieldRule α)) : Json.Decoder.FieldRule α :=
  field name (fun r => r) (fun _ v => v) (object fields)

def Rating.decoder : Json.Decoder Rating := object [
  field "vector" (·.vector) (fun r v => { r with vector := v }) text,
  nested "metrics" [
    field "baseScore" (·.baseScore) (fun r v => { r with baseScore := v }) (optional 0 float)]]

def ScannerMatch.decoder : Json.Decoder ScannerMatch := object [
  nested "vulnerability" [
    field "id" (·.id) (fun m v => { m with id := v }) text,
    field "severity" (·.severity) (fun m v => { m with severity := v }) text,
    field "description" (·.description) (fun m v => { m with description := v }) text,
    field "cvss" (·.ratings) (fun m v => { m with ratings := v }) (plainList {} Rating.decoder),
    nested "fix" [
      field "versions" (·.fixedVersions) (fun m v => { m with fixedVersions := v })
        (plainList "" text)]],
  field "relatedVulnerabilities" (·.relatedIds) (fun m v => { m with relatedIds := v })
    (plainList "" (object [field "id" (fun s => s) (fun _ v => v) text])),
  nested "artifact" [
    field "name" (·.artifactName) (fun m v => { m with artifactName := v }) text,
    field "version" (·.artifactVersion) (fun m v => { m with artifactVersion := v }) text,
    field "type" (·.artifactType) (fun m v => { m with artifactType := v }) text]]

/-- A text that begins like a CVE identifier, in any case. -/
def looksLikeCve (s : String) : Bool := Text.startsWith "CVE-" (Text.upper s)

namespace ScannerMatch

/-- The related identifier that stands in for one that is not a CVE identifier. -/
def relatedCve (m : ScannerMatch) : String :=
  if looksLikeCve m.id then "" else (m.relatedIds.find? looksLikeCve).getD ""

/-- The vector of the newest rating that has one; matchers list the newest last. -/
def vector (m : ScannerMatch) : String :=
  ((m.ratings.reverse.map (·.vector)).find? (· != "")).getD ""

/-- The score of the newest rating that has one. -/
def baseScore (m : ScannerMatch) : Option Float :=
  m.ratings.reverse.findSome? (·.baseScore)

/-- The finding that a matcher's entry describes. -/
def toFinding (m : ScannerMatch) : Finding :=
  { cve := m.relatedCve
    id := m.id
    vulnerabilityId := if m.id = "" then none else some m.id
    package := m.artifactName
    version := m.artifactVersion
    ecosystem := m.artifactType
    severity := (Severity.parse m.severity).name
    cvssScore := m.baseScore
    cvssVector := m.vector
    description := m.description
    remediation := m.fixedVersions.head?.map fun v => { fixedVersion := v, source := "scanner" } }

end ScannerMatch

/-- An object that holds findings in one of its members. -/
structure Envelope where
  findings : Option (List Finding) := none
  found : Option (List ScannerMatch) := none
  deriving Inhabited

def Envelope.decoder : Json.Decoder Envelope := object [
  field "findings" (·.findings) (fun e v => { e with findings := v }) Finding.listDecoder,
  field "matches" (·.found) (fun e v => { e with found := v }) (list {} ScannerMatch.decoder)]

/-- The findings of a document of any of the accepted shapes. -/
def parseFindings (s : String) : Except Failure (Option (List Finding)) :=
  let trimmed := Text.trim s
  match trimmed.toList with
  | [] => .error (.plain "empty input")
  | '[' :: _ =>
    (Json.decodeText Finding.listDecoder none trimmed).mapError (.context "invalid findings array")
  | _ =>
    match Json.decodeText Envelope.decoder {} trimmed with
    | .error e => .error (.context "invalid findings document" e)
    | .ok envelope =>
      match envelope.findings, envelope.found with
      | some findings, _ => .ok (some findings)
      | none, some found => .ok (some (found.map ScannerMatch.toFinding))
      | none, none =>
        .error (.plain "expected a JSON array or an object with \"findings\" or \"matches\"")

end Triage.Inventory
