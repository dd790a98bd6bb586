import Triage.Inventory.Images
import Triage.Number.Reader
import Triage.Severity
import Triage.Text.Pieces

/-!
# Scans by the registry

The registry of a cloud account scans its images itself and reports what it found page by page. A
basic scan names the vulnerability and gives the rest as attributes. An enhanced scan names all
vulnerable packages of a vulnerability, and there is a finding for each of them.
-/
namespace Triage.Inventory.Registry

/-! ## Reports -/

/-- A finding of a basic scan, with its attributes by key. -/
structure BasicFinding where
  name : String := ""
  severity : String := ""
  description : String := ""
  attributes : List (String × String) := []
  deriving Repr, DecidableEq

structure Rating where
  version : String := ""
  score : Float := 0
  vector : String := ""
  deriving Repr

structure Package where
  name : String := ""
  version : String := ""
  manager : String := ""
  fixed : String := ""
  deriving Repr, DecidableEq

/-- What an enhanced scan says about a vulnerability in packages. -/
structure Details where
  id : String := ""
  ratings : List Rating := []
  packages : List Package := []
  deriving Repr

structure EnhancedFinding where
  title : String := ""
  description : String := ""
  severity : String := ""
  details : Option Details := none
  deriving Repr

/-- A page of a report. `token` asks for the next page; the last page has none. -/
structure Page where
  status : String := ""
  statusDescription : String := ""
  findings : Option (List BasicFinding × List EnhancedFinding) := none
  token : String := ""
  deriving Repr

/-! ## Findings of a basic scan -/

/-- Takes an attribute into account. A vector of version 3 counts more than one of version 2; of the
scores the first one that is a number counts. -/
def applyAttribute (f : Finding) : String × String → Finding
  | ("package_name", value) => { f with package := value }
  | ("package_version", value) => { f with version := value }
  | ("CVSS3_VECTOR", value) => { f with cvssVector := value }
  | ("CVSS2_VECTOR", value) => if f.cvssVector = "" then { f with cvssVector := value } else f
  | ("CVSS3_SCORE", value) => { f with cvssScore := f.cvssScore <|> Number.readFloat? value }
  | ("CVSS2_SCORE", value) => { f with cvssScore := f.cvssScore <|> Number.readFloat? value }
  | _ => f

/-- The finding that a basic scan of an image reports. -/
def ofBasic (uri : String) (b : BasicFinding) : Finding :=
  b.attributes.foldl applyAttribute
    { id := b.name, severity := (Severity.parse b.severity).name, description := b.description
      source := uri }

/-! ## Findings of an enhanced scan -/

/-- The first of the ratings with the greatest version; versions compare as texts. -/
def preferred? : List Rating → Option Rating
  | [] => none
  | r :: rs => some (rs.foldl (fun best r => if best.version < r.version then r else best) r)

/-- The identifier at the beginning of a title. -/
def titleId (title : String) : String :=
  String.ofList ((Text.trimChars title.toList).takeWhile (· != ' '))

def remedy? (fixed : String) : Option Remediation :=
  if fixed = "" ∨ fixed = "NotAvailable" then none
  else some { fixedVersion := fixed, source := "ecr" }

def forPackage (f : Finding) (p : Package) : Finding :=
  { f with package := p.name, version := p.version, ecosystem := p.manager, remediation := remedy? p.fixed }

/-- The findings for all packages, or one without package. -/
def ofDetails (base : Finding) (d : Details) : List Finding :=
  let rating := preferred? d.ratings
  let f := { base with
    id := d.id, cvssScore := rating.map (·.score), cvssVector := (rating.map (·.vector)).getD "" }
  if d.packages.isEmpty then [f] else d.packages.map (forPackage f)

/-- The findings that an enhanced scan of an image reports. -/
def ofEnhanced (uri : String) (e : EnhancedFinding) : List Finding :=
  let base : Finding :=
    { severity := (Severity.parse e.severity).name
      description := if e.description = "" then e.title else e.description
      source := uri }
  match e.details with
  | none => [{ base with id := titleId e.title }]
  | some d => ofDetails base d

/-- The findings of a page, those of the basic scan first. -/
def Page.toFindings (uri : String) (p : Page) : List Finding :=
  match p.findings with
  | none => []
  | some (basic, enhanced) => basic.map (ofBasic uri) ++ enhanced.flatMap (ofEnhanced uri)

/-! ## Requests -/

structure Request where
  repository : String
  /-- The account of the registry, if it is not the caller's own. -/
  registry : Option String := none
  image : Image.Selector
  limit : Nat := 1000
  token : Option String := none
  deriving Repr, DecidableEq

/-- The request for the first page of the report on an image. -/
def firstRequest (account : String) (r : Image.Reference) : Request :=
  { repository := r.repository, registry := if account = "" then none else some account
    image := r.selector }

/-- The registry, as far as it answers: its answers one by one, and the failure of any further request. -/
structure Answers where
  pages : List (Except Failure Page) := []
  beyond : Failure

/-- The failure of a page that says that the image could not be scanned. -/
def Page.refusal? (uri : String) (p : Page) : Option Failure :=
  if p.status = "FAILED" then some (.plain s!"ECR scan failed for {uri}: {p.statusDescription}") else none

/-- The pages of a report from request `r` on, and the requests that were made. -/
def readPages (uri : String) (beyond : Failure) (r : Request) :
    List (Except Failure Page) → List Request × Except Failure (List Page)
  | [] => ([r], .error (describeFailed beyond))
  | .error e :: _ => ([r], .error (describeFailed e))
  | .ok p :: rest =>
    match p.refusal? uri with
    | some e => ([r], .error e)
    | none =>
      if p.token = "" then ([r], .ok [p])
      else
        let (requests, pages) := readPages uri beyond { r with token := some p.token } rest
        (r :: requests, pages.map (p :: ·))
where
  /-- A request that failed. -/
  describeFailed (e : Failure) : Failure :=
    .context s!"failed to describe image scan findings for {uri}" e

/-- The findings of the report on an image, and the requests that were made. -/
def scan (account : String) (answers : Answers) (uri : String) :
    List Request × Except Failure (List Finding) :=
  match Image.parse uri with
  | .error e => ([], .error (.context "failed to parse image URI" (.plain (e.message uri))))
  | .ok ref =>
    let (requests, pages) := readPages uri answers.beyond (firstRequest account ref) answers.pages
    (requests, pages.map fun ps => ps.flatMap (·.toFindings uri))

def scannerName : String := "aws-ecr"

/-! ## Access -/

/-- The variable that names a role to assume. -/
def roleVariable : String := "AWS_IAM_ASSUME_ROLE_ARN"

/-- The role to assume for the registry of `account`: a given one, else the reading role of that account
if the caller is known to be in another one. -/
def role? (given : Option String) (caller : Except Failure String) (account : String) : Option String :=
  match given.filter (· != "") with
  | some arn => some arn
  | none =>
    match caller with
    | .error _ => none
    | .ok own => if own = account then none else some s!"arn:aws:iam::{account}:role/RiskRelayECRReadRole"

end Triage.Inventory.Registry
