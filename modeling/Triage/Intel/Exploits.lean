import Triage.Cache.Resolve
import Triage.Finding.Document
import Triage.Json.Decode
import Triage.Json.Printer

/-!
# Exploits

What is known about exploits of a vulnerability, from an index that is asked for one vulnerability at
a time through the cache. The index needs a key; without one every answer says so. Rejected
credentials are a failure, and every other failure becomes an answer that carries a short note of it.
-/
namespace Triage.Exploits

open Json.Decoder (FieldRule field text plainList object)

def sourceName : String := "vulncheck"

def defaultUrl : String := "https://api.vulncheck.com/v3/index/vulncheck-kev"

/-! ## Maturity -/

/-- How far an exploit has been developed, in rising order. -/
inductive Maturity where
  | unknown
  | none
  | poc
  | functional
  | high
  deriving Repr, DecidableEq, Inhabited

namespace Maturity

/-- All grades of maturity in rising order. -/
def all : List Maturity := [unknown, none, poc, functional, high]

def name : Maturity → String
  | unknown => "unknown"
  | none => "none"
  | poc => "poc"
  | functional => "functional"
  | high => "high"

/-- The place of a maturity in the rising order. -/
def rank : Maturity → Nat
  | unknown => 0
  | none => 1
  | poc => 2
  | functional => 3
  | high => 4

def ofName? (s : String) : Option Maturity := all.find? (·.name == s)

/-- The higher of two grades. -/
def max (a b : Maturity) : Maturity := if a.rank < b.rank then b else a

end Maturity

/-! ## The index -/

/-- A record of the index. Of reports of exploitation only their number matters, and of known exploits
their types. -/
structure Listed where
  cves : List String := []
  ransomwareUse : String := ""
  exploitTypes : List String := []
  reports : List Unit := []
  deriving Repr, DecidableEq, Inhabited

/-- A text that has to be there as a text, but is not needed. -/
def unused {α : Type} (name : String) : FieldRule α := field name (fun _ => "") (fun r _ => r) text

/-- A record of the index. -/
def Listed.decoder : Json.Decoder Listed := object
  [ field "cve" (·.cves) (fun r v => { r with cves := v }) (plainList "" text),
    unused "vendorProject",
    unused "product",
    field "knownRansomwareCampaignUse" (·.ransomwareUse) (fun r v => { r with ransomwareUse := v }) text,
    field "vulncheck_xdb" (·.exploitTypes) (fun r v => { r with exploitTypes := v })
      (plainList "" (object
        [unused "xdb_id", unused "xdb_url", field "exploit_type" id (fun _ v => v) text,
          unused "date_added"])),
    field "vulncheck_reported_exploitation" (·.reports) (fun r v => { r with reports := v })
      (plainList () (object [unused "url", unused "date_added"])),
    unused "date_added" ]

def responseDecoder : Json.Decoder (List Listed) := object
  [field "data" id (fun _ v => v) (plainList {} Listed.decoder)]

namespace Listed

/-- A record is about a vulnerability if it names it, or names none at all. -/
def mentions (r : Listed) (cve : String) : Bool :=
  r.cves.isEmpty || r.cves.any fun id => Text.equalFold (Text.trim id) cve

/-- Exploitation has been reported. -/
def reported (r : Listed) : Bool := !r.reports.isEmpty

/-- Ransomware is known to use the vulnerability. -/
def inRansomware (r : Listed) : Bool := Text.equalFold r.ransomwareUse "Known"

def maturity (r : Listed) : Maturity :=
  if r.reported then .high
  else if r.exploitTypes.any (Text.equalFold · "initial-access") then .functional
  else .poc

end Listed

def addListed (e : ExploitRecord × Maturity) (r : Listed) : ExploitRecord × Maturity :=
  ({ e.1 with
      available := true
      weaponized := e.1.weaponized || r.reported || r.inRansomware
      ransomwareUse := e.1.ransomwareUse || r.inRansomware },
    e.2.max r.maturity)

/-- What the records of the index say about a vulnerability. -/
def summary (cve : String) (records : List Listed) : ExploitRecord :=
  let (record, maturity) :=
    (records.filter (·.mentions cve)).foldl addListed ({ source := sourceName }, .none)
  { record with maturity := maturity.name }

/-! ## Records in the cache -/

/-- Reads a record back. It has to be of this source and of a maturity that exists. -/
def decode (payload : String) : Except Failure ExploitRecord := do
  let record ← (Json.decodeText ExploitRecord.decoder {} payload).mapError
    (.context "failed to decode exploit record")
  if record.source ≠ sourceName then
    throw (.plain ("exploit record has source " ++ Text.quoted record.source))
  else if (Maturity.ofName? record.maturity).isNone then
    throw (.plain ("exploit record has unknown maturity " ++ Text.quoted record.maturity))
  else return record

/-- A payload is acceptable if it is a record. -/
def validate : Cache.Validator := fun payload => (decode payload).map fun _ => ()

/-! ## The client -/

/-- A client of the index; it is configured if it has a key. -/
structure Client where
  url : String := defaultUrl
  key : String := ""

/-- The variable of the environment that holds the key if none is given. -/
def keyVariable : String := "VULNCHECK_API_KEY"

/-- The key for a client: the one that is given, or else the one of the environment. -/
def chooseKey (given environment : String) : String :=
  Text.trim (if given = "" then environment else given)

/-- The answer without a key. -/
def unconfigured : ExploitRecord := { maturity := Maturity.unknown.name, source := "unconfigured" }

/-- A link of a chain that is an unexpected status. -/
def asStatus? : Failure → Option Int
  | .status code _ => some code
  | _ => none

/-- A link of a chain that is a time-out. -/
def asTimeout? : Failure → Option Unit
  | .timeout => some ()
  | _ => none

/-- A short note of a failure. -/
def describe (f : Failure) : String :=
  match f.find? asStatus? with
  | some code => if Status.isRateLimited code then "rate limited" else Status.reason code
  | none => if (f.find? asTimeout?).isSome then "timeout" else "network error"

/-- The failure if the credentials were rejected. -/
def rejection? (cause : Failure) : Option Failure :=
  ((cause.find? asStatus?).filter Status.isUnauthorized).map (.auth sourceName)

/-- The answer when the index could not be had. -/
def unavailable (cause : Failure) : ExploitRecord :=
  { maturity := Maturity.unknown.name, source := sourceName, error := describe cause }

/-- What a lookup answers, given what the cache and the index had. -/
def conclude : Except Failure Cache.Served → Except Failure ExploitRecord
  | .error cause =>
    match rejection? cause with
    | some e => .error e
    | none => .ok (unavailable cause)
  | .ok served =>
    match served.origin.cause?.bind rejection? with
    | some e => .error e
    | none => .ok ((decode served.payload).toOption.getD {})

namespace Client

/-- There is a key. -/
def configured (c : Client) : Bool := c.key != ""

/-- Asks the index for a vulnerability; the answer is a record for the cache. -/
def fetch (c : Client) (cve : String) : Session (Except Failure String) := do
  match ← Host.get (c.url ++ "?cve=" ++ cve) ("Bearer " ++ c.key) with
  | .error e => return .error e
  | .ok body =>
    match Json.decodeText responseDecoder [] body with
    | .error e => return .error (.context "failed to decode VulnCheck response" e)
    | .ok records => return .ok (summary cve records).toJson.compact

def lookup (c : Client) (id : String) : Session (Except Failure ExploitRecord) :=
  match Cve.validate id with
  | .error e => return .error e
  | .ok cve =>
    if !c.configured then return .ok unconfigured
    else do return conclude (← (Host.bucket sourceName).resolve cve (c.fetch cve) validate)

end Client

/-! ## What a finding gets -/

def apply (record : ExploitRecord) (f : Finding) : Finding :=
  let f := { f with exploit := some record }
  if record.weaponized && record.ransomwareUse then
    f.addWarning "Weaponized exploit used in ransomware campaigns (VulnCheck)"
  else if record.weaponized then f.addWarning "Weaponized exploit reported by VulnCheck"
  else if record.error ≠ "" then
    f.addWarning ("VulnCheck exploit status unavailable: " ++ record.error)
  else f

def Client.contribute (c : Client) (f : Finding) : Session (Except Failure (Finding → Finding)) := do
  return (← c.lookup f.cve).map apply

end Triage.Exploits
