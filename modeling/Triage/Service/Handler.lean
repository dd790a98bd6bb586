import Triage.Host.Path
import Triage.Json.Printer
import Triage.Service.Exposition
import Triage.Service.Filter

/-!
# Answering requests

The read-only service over the published findings: the findings themselves, their overview, metrics and
health. All answers carry headers that keep browsers from interpreting them.
-/
namespace Triage.Service

open Engine (Publication)

/-- An answer to a request. -/
structure Response where
  status : Nat := 200
  headers : List (String × String) := []
  body : String := ""
  deriving Repr, DecidableEq

/-- The headers of every answer of the service. -/
def guardHeaders : List (String × String) :=
  [ ("X-Content-Type-Options", "nosniff"),
    ("X-Frame-Options", "DENY"),
    ("X-XSS-Protection", "1; mode=block"),
    ("Referrer-Policy", "strict-origin-when-cross-origin"),
    ("Content-Security-Policy",
      "default-src 'none'; script-src 'none'; object-src 'none'; frame-ancestors 'none'") ]

/-- The answer with a header set. -/
def Response.withHeader (r : Response) (name value : String) : Response :=
  { r with headers := Keyed.insert name value r.headers }

def Response.guarded (r : Response) : Response :=
  guardHeaders.foldl (fun r (name, value) => r.withHeader name value) r

/-- A plain text that says what went wrong. -/
def problem (status : Nat) (text : String) : Response :=
  ((({ status, body := text ++ "\n" : Response }).withHeader "Content-Type" "text/plain; charset=utf-8").withHeader
    "X-Content-Type-Options" "nosniff")

def json (body : String) : Response :=
  ({ body : Response }).withHeader "Content-Type" "application/json"

/-- A document, indented if the query asks for it. A document that cannot be written is a failure of the
service. -/
def document (pairs : List Query.Pair) : Option Json → Response
  | none => problem 500 "Internal server error"
  | some j =>
    json ((if (Query.value pairs "pretty").isEmpty then j.compact else j.indented) ++ "\n")

/-- The time of the last run, in whole seconds. -/
def lastUpdated (p : Publication) : String :=
  (p.lastRun.map fun t => Time.Stamp.wholeText ⟨t, 0⟩).getD ""

def findings (p : Publication) (pairs : List Query.Pair) : Response :=
  match Filter.parse pairs with
  | .error e => problem 400 e.message
  | .ok filter => document pairs (filter.answer? p.findings (lastUpdated p))

def overview (p : Publication) (pairs : List Query.Pair) : Response :=
  document pairs ((Overview.ofFindings p.findings).toJson? p.stats.toJson (lastUpdated p))

def health (p : Publication) : Response :=
  match p.lastRun with
  | none => json "\x7b\"status\":\"ok\",\"ready\":false\x7d"
  | some _ =>
    json ("\x7b\"status\":\"ok\",\"ready\":true,\"last_run\":" ++ Text.quoted (lastUpdated p) ++ "\x7d")

/-- The metrics; none if they cannot be written. -/
def metrics? (p : Publication) : Option Response :=
  (Exposition.text? p).map fun body =>
    ({ body : Response }).withHeader "Content-Type"
      "text/plain; version=0.0.4; charset=utf-8; escaping=underscores"

inductive Route where
  | metrics
  | findings
  | summary
  | health
  deriving Repr, DecidableEq

def Route.ofPath? : String → Option Route
  | "/metrics" => some .metrics
  | "/findings" => some .findings
  | "/summary" => some .summary
  | "/health" => some .health
  | _ => none

/-- The answer of a route; none if it breaks down. -/
def Route.respond (r : Route) (p : Publication) (pairs : List Query.Pair) : Option Response :=
  match r with
  | .metrics => metrics? p
  | .findings => some (Service.findings p pairs)
  | .summary => some (overview p pairs)
  | .health => some (Service.health p)

/-- Only reading is allowed. -/
def isReading (method : String) : Bool := method == "GET" || method == "HEAD"

/-- The path without detours; a slash at its end stays. -/
def directPath (path : String) : String :=
  let cs := path.toList
  let rooted := if cs.head? = some '/' then path else "/" ++ path
  let direct := Path.clean rooted
  if cs.getLast? = some '/' && direct ≠ "/" then direct ++ "/" else direct

/-- A character inside a document of markup. -/
def markupChar (c : Char) : String :=
  if c = '&' then "&amp;" else if c = '<' then "&lt;" else if c = '>' then "&gt;"
  else if c = '"' then "&#34;" else if c = '\'' then "&#39;" else String.singleton c

/-- Sends the client to another address. -/
def redirect (method address : String) : Response :=
  let body :=
    "<a href=\"" ++ Text.join "" (address.toList.map markupChar) ++ "\">Moved Permanently</a>.\n\n"
  let r : Response := { status := 301, body := if method = "GET" then body else "" }
  if isReading method then r.withHeader "Content-Type" "text/html; charset=utf-8" else r

/-- The answer to a request for a target; none if it breaks down. A detour in the path is sent to the
direct path, unless the request is for a connection. -/
def respond (p : Publication) (method target : String) : Option Response :=
  if target = "*" then some { status := 400 }
  else
    match Url.parseBody target.toList with
    | .error _ => some { status := 400 }
    | .ok u =>
      let path := Text.ofBytes ((Url.decode .path u.path.toList).toOption.getD [])
      let direct := directPath path
      if method ≠ "CONNECT" && direct ≠ path then
        let address : Url := { path := String.ofList (Url.encode .path (Text.bytes direct.toList)), query := u.query }
        some (redirect method address.text)
      else
        match Route.ofPath? path with
        | none => some (problem 404 "404 page not found")
        | some route =>
          if isReading method then (route.respond p (Query.parse u.query)).map (·.guarded)
          else some (problem 405 "Method not allowed").guarded

end Triage.Service
