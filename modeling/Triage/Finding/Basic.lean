import Triage.Failure
import Triage.Number.Binary
import Triage.Number.Reader
import Triage.Text.Case

/-!
# Findings

A finding is one vulnerability in one affected package, with what the threat intelligence sources
have added to it: whether the vulnerability is known to be exploited, how likely exploitation is,
what the advisory says, what exploits exist, and the fix to install.

The identifier of a vulnerability is `CVE-`, a year of four digits, a hyphen and a number of at least
four digits. Its canonical form is in upper case and has no surrounding space.
-/
namespace Triage.Cve

/-- A decimal digit of ASCII. -/
def isDigit (c : Char) : Bool := (Number.digitValue? c).isSome

/-- The canonical form of an identifier. -/
def isCanonical : List Char → Bool
  | 'C' :: 'V' :: 'E' :: '-' :: a :: b :: c :: d :: '-' :: number =>
    isDigit a && isDigit b && isDigit c && isDigit d && 4 ≤ number.length && number.all isDigit
  | _ => false

/-- A text in the case and without the space of a canonical form. -/
def normalize (s : String) : String := Text.upper (Text.trim s)

/-- The canonical form of the identifier that `s` spells. -/
def validate (s : String) : Except Failure String :=
  let id := normalize s
  if id = "" then .error (.context "empty CVE id" .invalidCve)
  else if isCanonical id.toList then .ok id
  else .error (.context ("malformed CVE id " ++ Text.quoted s) .invalidCve)

/-- The canonical form of the identifier that `s` spells, if it spells one. -/
def canonical? (s : String) : Option String := (validate s).toOption

end Triage.Cve

namespace Triage

/-- A record of the catalog of known exploited vulnerabilities. -/
structure CatalogEntry where
  cveId : String := ""
  vendorProject : String := ""
  product : String := ""
  vulnerabilityName : String := ""
  dateAdded : String := ""
  dueDate : String := ""
  requiredAction : String := ""
  shortDescription : String := ""
  ransomwareUse : String := ""
  notes : String := ""
  deriving Repr, DecidableEq, Inhabited

/-- Whether a vulnerability is known to be exploited. `unknown` is set when no catalog could be had at
all, `stale` when it is an old copy. -/
structure ExploitedStatus where
  inCatalog : Bool := false
  unknown : Bool := false
  stale : Bool := false
  entry : Option CatalogEntry := none
  deriving Repr, DecidableEq, Inhabited

structure Forecast where
  cve : String := ""
  probability : Float := 0
  percentile : Float := 0
  date : String := ""
  stale : Bool := false
  error : String := ""
  deriving Repr, Inhabited

structure AffectedRange where
  package : String := ""
  ecosystem : String := ""
  vulnerableRange : String := ""
  firstPatched : String := ""
  deriving Repr, DecidableEq, Inhabited

structure Advisory where
  ghsaId : String := ""
  summary : String := ""
  description : String := ""
  severity : String := ""
  publishedAt : String := ""
  updatedAt : String := ""
  affected : List AffectedRange := []
  references : List String := []
  deriving Repr, DecidableEq, Inhabited

/-- What is known about exploits of a vulnerability. -/
structure ExploitRecord where
  available : Bool := false
  maturity : String := ""
  attackVector : String := ""
  weaponized : Bool := false
  ransomwareUse : Bool := false
  source : String := ""
  error : String := ""
  deriving Repr, DecidableEq, Inhabited

structure Remediation where
  fixedVersion : String := ""
  vulnerableRange : String := ""
  source : String := ""
  deriving Repr, DecidableEq, Inhabited

/-- One vulnerability in one affected package. Texts are as the scanner gave them; an empty text means
that it gave none. `vulnerabilityId` is the identifier of a nested object, if there is that object. -/
structure Finding where
  cve : String := ""
  id : String := ""
  vulnerabilityId : Option String := none
  package : String := ""
  version : String := ""
  ecosystem : String := ""
  severity : String := ""
  cvssScore : Option Float := none
  cvssVector : String := ""
  description : String := ""
  source : String := ""
  exploited : Option ExploitedStatus := none
  forecast : Option Forecast := none
  exploitationProbability : String := ""
  forecastLevel : String := ""
  advisory : Option Advisory := none
  exploit : Option ExploitRecord := none
  remediation : Option Remediation := none
  riskScore : Float := 0
  priority : String := ""
  effectiveSeverity : String := ""
  warnings : List String := []
  /-- Texts of the failures by the name of the source, in the order of the names. -/
  enrichmentErrors : List (String × String) := []
  deriving Repr, Inhabited

namespace Finding

/-- The identifiers a finding may carry, in the order in which they count. -/
def identifiers (f : Finding) : List String :=
  f.cve :: f.id :: f.vulnerabilityId.toList

/-- The canonical CVE identifier of a finding: the first of its identifiers that is one. -/
def resolveCve? (f : Finding) : Option String :=
  f.identifiers.findSome? Cve.canonical?

/-- Appends a warning unless the finding already has it. -/
def addWarning (f : Finding) (text : String) : Finding :=
  if text ∈ f.warnings then f else { f with warnings := f.warnings ++ [text] }

/-- The vulnerability is known to be exploited. -/
def inCatalog (f : Finding) : Bool := f.exploited.any (·.inCatalog)

def weaponized (f : Finding) : Bool := f.exploit.any (·.weaponized)

end Finding

end Triage
