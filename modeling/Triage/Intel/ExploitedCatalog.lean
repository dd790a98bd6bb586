import Triage.Cache.Resolve
import Triage.Finding.Document
import Triage.Json.Decode
import Triage.Severity
import Triage.Time.LooseDate

/-!
# The catalog of known exploited vulnerabilities

The catalog is one document. It is fetched through the cache at the first lookup of a run and kept as
an index by vulnerability; whatever came of that attempt stands until the client is reset. Without a
catalog every lookup answers that nothing is known.
-/
namespace Triage.ExploitedCatalog

open Json.Decoder (FieldRule field text int list object)

def sourceName : String := "kev"

def defaultUrl : String :=
  "https://www.cisa.gov/sites/default/files/feeds/known_exploited_vulnerabilities.json"

def cacheKey : String := "catalog"

/-! ## The document -/

/-- A date of the catalog in its plain form. A text that is no date is kept. -/
def normalDate (s : String) : String :=
  let s := Text.trim s
  if s = "" then ""
  else
    match Time.readLoose? s with
    | some stamp => stamp.date.text
    | none => s

def entryFields : List (FieldRule CatalogEntry) :=
  [ field "cveID" (·.cveId) (fun e v => { e with cveId := v }) text,
    field "vendorProject" (·.vendorProject) (fun e v => { e with vendorProject := v }) text,
    field "product" (·.product) (fun e v => { e with product := v }) text,
    field "vulnerabilityName" (·.vulnerabilityName) (fun e v => { e with vulnerabilityName := v }) text,
    field "dateAdded" (·.dateAdded) (fun e v => { e with dateAdded := v }) text,
    field "shortDescription" (·.shortDescription) (fun e v => { e with shortDescription := v }) text,
    field "requiredAction" (·.requiredAction) (fun e v => { e with requiredAction := v }) text,
    field "dueDate" (·.dueDate) (fun e v => { e with dueDate := v }) text,
    field "knownRansomwareCampaignUse" (·.ransomwareUse) (fun e v => { e with ransomwareUse := v }) text,
    field "notes" (·.notes) (fun e v => { e with notes := v }) text ]

def entriesDecoder : Json.Decoder (Option (List CatalogEntry)) := list {} (object entryFields)

structure Document where
  title : String := ""
  version : String := ""
  released : String := ""
  count : Int := 0
  entries : Option (List CatalogEntry) := none

/-- The catalog as it is published, read from its document. -/
def documentDecoder : Json.Decoder Document := object
  [ field "title" (·.title) (fun d v => { d with title := v }) text,
    field "catalogVersion" (·.version) (fun d v => { d with version := v }) text,
    field "dateReleased" (·.released) (fun d v => { d with released := v }) text,
    field "count" (·.count) (fun d v => { d with count := v }) int,
    field "vulnerabilities" (·.entries) (fun d v => { d with entries := v }) entriesDecoder ]

/-- The records of a catalog, which is the published document or the bare list of its records. -/
def decode (payload : String) : Except Failure (List CatalogEntry) :=
  let payload := Text.trim payload
  if payload.toList.head? = some '[' then
    match Json.decodeText entriesDecoder none payload with
    | .ok entries => .ok (entries.getD [])
    | .error e => .error (.context "failed to parse KEV entries" e)
  else
    match Json.decodeText documentDecoder {} payload with
    | .error e => .error (.context "failed to parse KEV catalog" e)
    | .ok document =>
      match document.entries with
      | none => .error (.plain "KEV catalog has no vulnerabilities array")
      | some entries => .ok entries

/-- A payload is acceptable if its records can be read. -/
def validate : Cache.Validator := fun payload => (decode payload).map fun _ => ()

/-! ## The index -/

/-- Records by vulnerability. -/
abbrev Index := List (String × CatalogEntry)

/-- Adds a record to an index. A record without a valid identifier is passed over. -/
def Index.add (index : Index) (e : CatalogEntry) : Index :=
  match Cve.canonical? e.cveId with
  | none => index
  | some cve =>
    Keyed.insert cve
      { e with cveId := cve, dateAdded := normalDate e.dateAdded, dueDate := normalDate e.dueDate } index

/-- The index of a list of records; of several records for a vulnerability the last one counts. -/
def Index.ofEntries (entries : List CatalogEntry) : Index := entries.foldl Index.add []

def Index.status (index : Index) (stale : Bool) (cve : String) : ExploitedStatus :=
  match index.lookup cve with
  | some entry => { inCatalog := true, stale, entry := some entry }
  | none => { stale }

/-! ## The client -/

/-- An index and whether it was made from an old copy. -/
structure Loaded where
  index : Index
  stale : Bool

/-- A client of the catalog. `loaded` is what came of the attempt to load it, if there was one. -/
structure Client where
  url : String := defaultUrl
  loaded : Option (Except Failure Loaded) := none

namespace Client

/-- The client at the beginning of a run. -/
def reset (c : Client) : Client := { c with loaded := none }

def fetch (c : Client) : Session (Except Failure String) := do
  return (← Host.get c.url "").mapError (.context "failed to fetch KEV catalog")

/-- Loads the catalog through the cache. -/
def attempt (c : Client) : Session (Except Failure Loaded) := do
  match ← (Host.bucket sourceName).resolve cacheKey c.fetch validate with
  | .error e => return .error e
  | .ok served =>
    return (decode served.payload).map fun entries =>
      ⟨Index.ofEntries entries, served.origin.isStale⟩

/-- Loads the catalog unless that has been tried already. -/
def load (c : Client) : Session (Except Failure Loaded × Client) :=
  match c.loaded with
  | some result => return (result, c)
  | none => do
    let result ← c.attempt
    return (result, { c with loaded := some result })

/-- Loads the catalog ahead of the lookups. -/
def prefetch (c : Client) : Session (Except Failure Unit × Client) := do
  let (result, c) ← c.load
  return (result.map fun _ => (), c)

/-- How many vulnerabilities the catalog lists. -/
def size (c : Client) : Session (Nat × Client) := do
  match ← c.load with
  | (.ok loaded, c) => return (loaded.index.length, c)
  | (.error _, c) => return (0, c)

/-- Whether a vulnerability is known to be exploited. Only a malformed identifier is a failure. -/
def lookup (c : Client) (id : String) : Session (Except Failure ExploitedStatus × Client) :=
  match Cve.validate id with
  | .error e => return (.error e, c)
  | .ok cve => do
    match ← c.load with
    | (.ok loaded, c) => return (.ok (loaded.index.status loaded.stale cve), c)
    | (.error _, c) => return (.ok { unknown := true }, c)

end Client

/-! ## What a finding gets -/

def listedWarning (entry : Option CatalogEntry) : String :=
  match (entry.map (·.dueDate)).getD "" with
  | "" => "Listed in CISA KEV"
  | due => "Listed in CISA KEV, remediation due " ++ due

def apply (status : ExploitedStatus) (f : Finding) : Finding :=
  let f := { f with exploited := some status }
  if status.unknown then f.addWarning "KEV catalog unavailable, exploitation status unknown"
  else if status.inCatalog then
    { f with effectiveSeverity := Severity.critical.name }.addWarning (listedWarning status.entry)
  else f

def Client.contribute (c : Client) (f : Finding) :
    Session (Except Failure (Finding → Finding) × Client) := do
  let (status, c) ← c.lookup f.cve
  return (status.map apply, c)

end Triage.ExploitedCatalog
