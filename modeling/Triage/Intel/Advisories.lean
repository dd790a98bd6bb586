import Triage.Finding.Document
import Triage.Host.Basic
import Triage.Json.Decode
import Triage.Json.Opening
import Triage.Json.Printer
import Triage.Json.Strict
import Triage.Severity
import Triage.Time.LooseDate
import Triage.Version

/-!
# Advisories

The security advisory for a vulnerability, from a server that answers queries. Answers are kept for
the run, failures are not. From the affected ranges of an advisory the one is picked that applies to
the installed package, and it tells the version to update to.
-/
namespace Triage.Advisories

open Json.Strict (exactly loosely text object optional list)

def sourceName : String := "ghsa"

def defaultEndpoint : String := "https://api.github.com/graphql"

/-! ## The query -/

def query : String :=
  "query($cve:String!)\x7bsecurityAdvisories(first: 1, identifier: \x7btype: CVE, value: $cve\x7d)" ++
  "\x7bnodes\x7bghsaId,summary,description,severity,publishedAt,updatedAt,references\x7burl\x7d," ++
  "vulnerabilities(first: 25)\x7bnodes\x7bpackage\x7bname,ecosystem\x7d,vulnerableVersionRange," ++
  "firstPatchedVersion\x7bidentifier\x7d\x7d\x7d\x7d\x7d\x7d"

def requestBody (cve : String) : String :=
  (Json.object
    [ Json.member "query" (Json.ofText query),
      Json.member "variables" (.object [Json.member "cve" (Json.ofText cve)]) ]).compact ++ "\n"

/-! ## The answer -/

/-- An affected range as the server gives it. -/
structure RangeNode where
  name : String := ""
  ecosystem : String := ""
  range : String := ""
  firstPatched : Option String := none
  deriving Repr, DecidableEq, Inhabited

/-- An advisory as the server gives it. -/
structure Node where
  ghsaId : String := ""
  summary : String := ""
  description : String := ""
  severity : String := ""
  publishedAt : String := ""
  updatedAt : String := ""
  references : List String := []
  ranges : List RangeNode := []
  deriving Repr, DecidableEq, Inhabited

/-- A nested object whose members belong to the same record. -/
def nested {α : Type} (field : (α → α) → (α → α → α) → Json.Strict α → Json.Strict.FieldRule α)
    (fields : List (Json.Strict.FieldRule α)) : Json.Strict.FieldRule α :=
  field id (fun _ v => v) (object fields)

/-- An affected range of an answer. -/
def RangeNode.decoder : Json.Strict RangeNode := object
  [ nested (loosely "Package")
      [ loosely "Name" (·.name) (fun r v => { r with name := v }) text,
        loosely "Ecosystem" (·.ecosystem) (fun r v => { r with ecosystem := v }) text ],
    loosely "VulnerableVersionRange" (·.range) (fun r v => { r with range := v }) text,
    loosely "FirstPatchedVersion" (·.firstPatched) (fun r v => { r with firstPatched := v })
      (optional "" [loosely "Identifier" id (fun _ v => v) text]) ]

/-- An advisory of an answer. -/
def Node.decoder : Json.Strict Node := object
  [ exactly "ghsaId" (·.ghsaId) (fun n v => { n with ghsaId := v }) text,
    loosely "Summary" (·.summary) (fun n v => { n with summary := v }) text,
    loosely "Description" (·.description) (fun n v => { n with description := v }) text,
    loosely "Severity" (·.severity) (fun n v => { n with severity := v }) text,
    loosely "PublishedAt" (·.publishedAt) (fun n v => { n with publishedAt := v }) text,
    loosely "UpdatedAt" (·.updatedAt) (fun n v => { n with updatedAt := v }) text,
    loosely "References" (·.references) (fun n v => { n with references := v })
      (list "" (object [exactly "url" id (fun _ v => v) text])),
    nested (exactly "vulnerabilities")
      [loosely "Nodes" (·.ranges) (fun n v => { n with ranges := v }) (list {} RangeNode.decoder)] ]

def answerDecoder : Json.Strict (List Node) := object
  [nested (exactly "securityAdvisories") [loosely "Nodes" id (fun _ v => v) (list {} Node.decoder)]]

/-- What the server sends: an answer, and messages of what went wrong. -/
structure Envelope where
  data : Option Json := none
  errors : List String := []

/-- A document that is kept as it is. -/
def verbatim : Json.Decoder (Option Json)
  | _, .null => some none
  | _, j => some (some j)

/-- What the server sends, read from its document. -/
def Envelope.decoder : Json.Decoder Envelope :=
  let position : Json.Decoder Unit := Json.Decoder.object
    [ Json.Decoder.field "Line" (fun _ => 0) (fun r _ => r) Json.Decoder.int,
      Json.Decoder.field "Column" (fun _ => 0) (fun r _ => r) Json.Decoder.int ]
  let error : Json.Decoder String := Json.Decoder.object
    [ Json.Decoder.field "Message" id (fun _ v => v) Json.Decoder.text,
      Json.Decoder.field "Locations" (fun _ => []) (fun r _ => r) (Json.Decoder.plainList () position) ]
  Json.Decoder.object
    [ Json.Decoder.field "Data" (·.data) (fun e v => { e with data := v }) verbatim,
      Json.Decoder.field "Errors" (·.errors) (fun e v => { e with errors := v })
        (Json.Decoder.plainList "" error) ]

/-- A value that shows where it ends. Of any other only the character after it does. -/
def selfDelimited : Json → Bool
  | .array _ | .object _ => true
  | _ => false

/-- The first document of a body that may break off. -/
def firstDocument (body : String) (broken : Option Failure) : Except Failure Json :=
  match Json.readFirst? body, broken with
  | some (j, _), none => .ok j
  | some (j, rest), some cause => if selfDelimited j || !rest.isEmpty then .ok j else .error cause
  | none, _ =>
    if !Json.isOpening body then .error .notJson
    else
      let isBlank := (Json.skipSpace body.toList).isEmpty
      .error (broken.getD (.plain (if isBlank then "EOF" else "unexpected EOF")))

def decode (body : String) (broken : Option Failure) : Except Failure (List Node) := do
  let j ← firstDocument body broken
  match Envelope.decoder {} j with
  | none => throw .wrongKind
  | some envelope =>
    let nodes ←
      match envelope.data with
      | none => pure []
      | some data => answerDecoder [] data
    match envelope.errors with
    | [] => return nodes
    | message :: _ => throw (.plain message)

/-! ## Advisories of findings -/

/-- A time of an advisory in universal time. A text that is no time is kept. -/
def normalTime (s : String) : String :=
  if s = "" then ""
  else
    match Time.readLoose? s with
    | some stamp => Time.Stamp.wholeText ⟨stamp.instant, 0⟩
    | none => s

def RangeNode.toRange (r : RangeNode) : AffectedRange :=
  { package := Text.trim r.name, ecosystem := r.ecosystem, vulnerableRange := r.range
    firstPatched := r.firstPatched.getD "" }

def Node.toAdvisory (n : Node) : Advisory :=
  { ghsaId := n.ghsaId, summary := n.summary, description := n.description
    severity := (Severity.parse n.severity).name
    publishedAt := normalTime n.publishedAt, updatedAt := normalTime n.updatedAt
    affected := n.ranges.map RangeNode.toRange
    references := n.references.filter (· != "") }

/-- The ranges that are about a package, or all of them if there are none. -/
def candidates (ranges : List AffectedRange) (package : String) : List AffectedRange :=
  let about := ranges.filter fun r => Text.equalFold r.package package
  if package = "" || about.isEmpty then ranges else about

/-- The version that fixes a range, if it is above the installed one. -/
def fixAbove? (installed : Version) (r : AffectedRange) : Option Version :=
  (Version.parse? r.firstPatched).filter fun v => v.compare installed == .gt

/-- Takes a range instead of the best one so far if its fix is smaller. -/
def better (installed : Version) (best : Option (AffectedRange × Version)) (r : AffectedRange) :
    Option (AffectedRange × Version) :=
  match fixAbove? installed r, best with
  | none, _ => best
  | some v, none => some (r, v)
  | some v, some (_, w) => if v.compare w == .lt then some (r, v) else best

/-- The range with the smallest fix above the installed version. -/
def smallestFix? (installed : Version) (ranges : List AffectedRange) : Option AffectedRange :=
  (ranges.foldl (better installed) none).map (·.1)

/-- The range that applies to an installed package: the one with the smallest fix above the installed
version, or else the first one with a fix, or else the first. -/
def select? (ranges : List AffectedRange) (package installed : String) : Option AffectedRange :=
  let ranges := candidates ranges package
  ((Version.parse? installed).bind (smallestFix? · ranges))
    <|> ranges.find? (·.firstPatched != "")
    <|> ranges.head?

/-- A fix with its empty texts filled in from a range. -/
def fillIn (r : AffectedRange) (old : Remediation) : Remediation :=
  { old with
    fixedVersion := if old.fixedVersion = "" then r.firstPatched else old.fixedVersion
    vulnerableRange := if old.vulnerableRange = "" then r.vulnerableRange else old.vulnerableRange }

/-- Fills in what a finding does not say about its fix. -/
def remedy (a : Advisory) (f : Finding) : Finding :=
  match select? a.affected f.package f.version with
  | none => f
  | some r => { f with remediation := some (fillIn r (f.remediation.getD { source := sourceName })) }

/-- Attaches an advisory to a finding. One without an identifier is no advisory. -/
def apply (a : Advisory) (f : Finding) : Finding :=
  if a.ghsaId = "" then f else remedy a { f with advisory := some a }

/-! ## The client -/

/-- A client of the advisories. `known` holds the answers of this run. -/
structure Client where
  endpoint : String := defaultEndpoint
  token : String := ""
  known : List (String × Advisory) := []

/-- A link of a chain that belongs to the exchange with the server. -/
def asExchange? : Failure → Option Unit
  | .canceled | .timeout | .transport .. => some ()
  | _ => none

/-- Where a query went wrong: on the way, or in the answer. -/
def place (f : Failure) : String :=
  if (f.find? asExchange?).isSome || Text.contains "non-200 OK status code" f.message then "transport"
  else "graphql"

def lookupFailure (cause : Failure) : Failure :=
  .source sourceName "transient" (.context (place cause ++ " error querying advisory") cause)

/-- The first advisory of an answer, or an empty one. -/
def firstAdvisory (nodes : List Node) : Advisory := (nodes.head?.map Node.toAdvisory).getD {}

namespace Client

/-- The client at the beginning of a run. -/
def reset (c : Client) : Client := { c with known := [] }

def ask (c : Client) (cve : String) : Session (Except Failure (List Node)) :=
  match Url.parse c.endpoint with
  | .error e => return .error e
  | .ok u => do
    let u := u.withoutEmptyPort
    let authorization := if c.token = "" then u.credentials else "Bearer " ++ c.token
    match ← Host.send { method := "POST", url := u.text, authorization, body := requestBody cve } with
    | .failed .canceled => return .error .canceled
    | .failed cause => return .error (.transport "Post" u.discreet cause)
    | .answered code body broken =>
      if code = 200 then return decode body broken
      else
        return .error (.plain
          ("non-200 OK status code: " ++ Status.line code ++ " body: " ++ Text.quoted body))

def find (c : Client) (cve : String) : Session (Except Failure Advisory × Client) :=
  match c.known.lookup cve with
  | some a => return (.ok a, c)
  | none => do
    match ← c.ask cve with
    | .error cause => return (.error (lookupFailure cause), c)
    | .ok nodes =>
      let a := firstAdvisory nodes
      return (.ok a, { c with known := Keyed.insert cve a c.known })

/-- The advisory for a vulnerability; an empty one if there is none or it could not be had. -/
def lookup (c : Client) (id : String) : Session (Except Failure Advisory × Client) :=
  match Cve.validate id with
  | .error e => return (.error e, c)
  | .ok cve => do
    let (found, c) ← c.find cve
    return (.ok (found.toOption.getD {}), c)

def contribute (c : Client) (f : Finding) : Session (Except Failure (Finding → Finding) × Client) :=
  match Cve.validate f.cve with
  | .error e => return (.error e, c)
  | .ok cve => do
    let (found, c) ← c.find cve
    return (found.map apply, c)

/-- Attaches the advisory to a finding. A lookup that failed for the time being leaves it alone. -/
def enrich (c : Client) (f : Finding) : Session (Except Failure Finding × Client) := do
  match ← c.contribute f with
  | (.ok change, c) => return (.ok (change f), c)
  | (.error e, c) =>
    if (e.find? Failure.asSource?).any (·.kind == "transient") then return (.ok f, c)
    else return (.error e, c)

end Client

end Triage.Advisories
