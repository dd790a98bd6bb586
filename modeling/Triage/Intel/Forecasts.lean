import Triage.Cache.Resolve
import Triage.Failure
import Triage.Finding.Document
import Triage.Json.Decode
import Triage.Json.Printer
import Triage.Listing
import Triage.Number.Layout
import Triage.Number.Reader
import Triage.Text.Case

/-!
# Forecasts of exploitation

A forecast gives the probability that a vulnerability is exploited. It is shown as a percentage with
two decimals and sorted into four levels, at a quarter, a half and three quarters.

The forecasts for many vulnerabilities are asked for together, a hundred at most in one request. Only
those are asked for that are neither known from this run nor fresh in the cache. When a request fails,
each of its vulnerabilities gets the old forecast of the cache, or else one of zero that carries the
failure. Whatever a vulnerability got stands until the client is reset.
-/
namespace Triage.Likelihood

/-- The level of a probability in the range from zero to one. -/
def level (p : Float) : Except Failure String :=
  if p.isNaN || p < 0 || 1 < p then .error (.outOfRange (Number.Layout.general.write p))
  else if 0.75 ≤ p then .ok "CRITICAL"
  else if 0.5 ≤ p then .ok "HIGH"
  else if 0.25 ≤ p then .ok "MEDIUM"
  else .ok "LOW"

def parseLevel (s : String) : Except Failure String :=
  match Number.readFloat? (Text.trim s) with
  | some p => level p
  | none => .error (.notNumeric s)

/-- A probability as a percentage with two decimals. -/
def percentage (p : Float) : String :=
  Number.twoPlaces (p * 100) ++ "%"

end Triage.Likelihood

namespace Triage.Forecasts

open Json.Decoder (field text int plainList object)

def sourceName : String := "epss"

def defaultUrl : String := "https://api.first.org/data/v1/epss"

/-- How many vulnerabilities a request asks for at most. -/
def batchSize : Nat := 100

/-! ## The response -/

/-- A forecast as the server gives it, with numbers as texts. -/
structure Row where
  cve : String := ""
  probability : String := ""
  percentile : String := ""
  date : String := ""
  deriving Repr, DecidableEq, Inhabited

def Row.decoder : Json.Decoder Row := object
  [ field "cve" (·.cve) (fun r v => { r with cve := v }) text,
    field "epss" (·.probability) (fun r v => { r with probability := v }) text,
    field "percentile" (·.percentile) (fun r v => { r with percentile := v }) text,
    field "date" (·.date) (fun r v => { r with date := v }) text ]

structure Response where
  status : String := ""
  statusCode : Int := 0
  total : Int := 0
  rows : List Row := []

def Response.decoder : Json.Decoder Response := object
  [ field "status" (·.status) (fun r v => { r with status := v }) text,
    field "status-code" (·.statusCode) (fun r v => { r with statusCode := v }) int,
    field "total" (·.total) (fun r v => { r with total := v }) int,
    field "data" (·.rows) (fun r v => { r with rows := v }) (plainList {} Row.decoder) ]

/-- A number brought into the range from zero to one. What is no number stays so. -/
def clamp (x : Float) : Float :=
  if x ≤ 0 then 0 else if 1 ≤ x then 1 else x

/-- The forecast of a row with a valid identifier and two numbers. -/
def Row.forecast? (r : Row) : Option Forecast := do
  let cve ← Cve.canonical? r.cve
  let probability ← Number.readFloat? r.probability
  let percentile ← Number.readFloat? r.percentile
  return { cve, probability := clamp probability, percentile := clamp percentile, date := r.date }

/-- The forecasts of some rows; of several for a vulnerability the last one counts. -/
def ofRows (rows : List Row) : List (String × Forecast) :=
  Keyed.ofList ((rows.filterMap Row.forecast?).map fun f => (f.cve, f))

def decode (body : String) : Except Failure (List (String × Forecast)) :=
  match Json.decodeText Response.decoder {} body with
  | .ok response => .ok (ofRows response.rows)
  | .error e => .error (.context "failed to decode EPSS response" e)

/-! ## The client -/

/-- A client of the forecasts. `known` holds what this run has found out. -/
structure Client where
  url : String := defaultUrl
  known : List (String × Forecast) := []

/-- What the cache has for a vulnerability: a forecast and whether it is old. -/
def cached? (entry : Option Cache.Entry) : Option (Forecast × Bool) := do
  let entry ← entry
  let forecast ← (Json.decodeText Forecast.decoder {} entry.payload).toOption
  return (forecast, entry.stale)

/-- What is to be asked for: the vulnerabilities, and the old forecasts for some of them. -/
structure Wanted where
  cves : List String := []
  old : List (String × Forecast) := []

namespace Client

/-- The client at the beginning of a run. -/
def reset (c : Client) : Client := { c with known := [] }

def learn (c : Client) (cve : String) (f : Forecast) : Client :=
  { c with known := Keyed.insert cve f c.known }

/-- Looks for a vulnerability in this run and in the cache. -/
def consult (c : Client) (wanted : Wanted) (cve : String) : Session (Client × Wanted) :=
  if (c.known.lookup cve).isSome then return (c, wanted)
  else do
    match cached? (← (Host.bucket sourceName).load cve) with
    | some (forecast, false) => return (c.learn cve forecast, wanted)
    | some (forecast, true) =>
      return (c,
        { cves := wanted.cves ++ [cve], old := (cve, { forecast with stale := true }) :: wanted.old })
    | none => return (c, { wanted with cves := wanted.cves ++ [cve] })

/-- Looks for several vulnerabilities in this run and in the cache. -/
def consultAll (c : Client) (cves : List String) : Session (Client × Wanted) :=
  cves.foldlM (fun (c, wanted) cve => c.consult wanted cve) (c, {})

/-- Asks the server for the forecasts of a batch. -/
def request (c : Client) (batch : List String) : Session (Except Failure (List (String × Forecast))) := do
  match ← Host.get (c.url ++ "?cve=" ++ Text.join "," batch) "" with
  | .error e => return .error (.context "EPSS request failed" e)
  | .ok body => return decode body

/-- The forecast of a vulnerability whose request failed. -/
def fallback (old : List (String × Forecast)) (cause : Failure) (cve : String) : Forecast :=
  (old.lookup cve).getD { cve, error := cause.message }

/-- Learns a forecast and keeps it in the cache. One that cannot be written as JSON is only learnt. -/
def keep (c : Client) (cve : String) (f : Forecast) : Session Client := do
  if let some j := f.toJson? then
    let _ ← (Host.bucket sourceName).store cve j.compact
  return c.learn cve f

/-- Settles the vulnerabilities of a batch with one request. -/
def settle (old : List (String × Forecast)) (c : Client) (batch : List String) : Session Client := do
  match ← c.request batch with
  | .error cause => return batch.foldl (fun c cve => c.learn cve (fallback old cause cve)) c
  | .ok found => batch.foldlM (fun c cve => c.keep cve ((found.lookup cve).getD { cve })) c

/-- The forecasts for canonical identifiers without repetitions. -/
def fetchCanonical (c : Client) (cves : List String) : Session (List (String × Forecast) × Client) := do
  let (c, wanted) ← c.consultAll cves
  let c ← (Listing.portions (batchSize - 1) wanted.cves).foldlM (settle wanted.old) c
  return (cves.map fun cve => (cve, (c.known.lookup cve).getD {}), c)

/-- The forecasts for some vulnerabilities. Only a malformed identifier is a failure. -/
def fetch (c : Client) (ids : List String) :
    Session (Except Failure (List (String × Forecast)) × Client) :=
  match ids.mapM Cve.validate with
  | .error e => return (.error e, c)
  | .ok cves => do
    let (forecasts, c) ← c.fetchCanonical (Listing.distinct cves)
    return (.ok forecasts, c)

/-- Fetches forecasts ahead of the lookups. -/
def prefetch (c : Client) (ids : List String) : Session (Except Failure Unit × Client) := do
  let (forecasts, c) ← c.fetch ids
  return (forecasts.map fun _ => (), c)

end Client

/-! ## What a finding gets -/

def apply (s : Forecast) (f : Finding) : Finding :=
  let f :=
    { f with
      forecast := some s
      exploitationProbability := Likelihood.percentage s.probability
      forecastLevel := (Likelihood.level s.probability).toOption.getD f.forecastLevel }
  if s.error = "" then f else f.addWarning ("EPSS score unavailable: " ++ s.error)

/-- The forecast for an identifier among those that were fetched. -/
def among (forecasts : List (String × Forecast)) (cve : Option String) : Forecast :=
  (cve.bind fun cve => forecasts.lookup cve).getD {}

namespace Client

def contribute (c : Client) (f : Finding) : Session (Except Failure (Finding → Finding) × Client) := do
  let (forecasts, c) ← c.fetch [f.cve]
  return (forecasts.map fun forecasts => apply (among forecasts (Cve.canonical? f.cve)), c)

/-- Attaches forecasts to all findings that can be resolved, fetching them together. -/
def enrich (c : Client) (fs : List Finding) : Session (Except Failure (List Finding) × Client) := do
  let (forecasts, c) ← c.fetch (fs.filterMap Finding.resolveCve?)
  return (forecasts.map fun forecasts =>
    fs.map fun f =>
      match f.resolveCve? with
      | none => f
      | some cve => apply (among forecasts (some cve)) f, c)

end Client

end Triage.Forecasts
