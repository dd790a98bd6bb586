import Triage.Text.Quoted

/-!
# Failures

What can go wrong between reading the findings and reporting them, as causes. A failure may wrap
another one with the circumstances under which it arose; questions about its nature look through
the whole chain. The wording is in one place, `Failure.message`.
-/
namespace Triage

/-- A cause of failure, or one in its circumstances. -/
inductive Failure where
  /-- A failure known by its text alone. -/
  | plain (text : String)
  | invalidCve
  | canceled
  /-- A source rejected the credentials. -/
  | auth (source : String) (code : Int)
  /-- A server answered with an unexpected status. -/
  | status (code : Int) (url : String)
  /-- The request failed before there was an answer. -/
  | transport (method url : String) (cause : Failure)
  | timeout
  /-- The text is not JSON at all. -/
  | notJson
  /-- A value of a JSON document is of the wrong kind for its field. -/
  | wrongKind
  /-- A number cannot be written as JSON. -/
  | notEncodable
  | outOfRange (value : String)
  | notNumeric (text : String)
  /-- One source failed for one finding. -/
  | source (name kind : String) (cause : Failure)
  /-- Neither a fetch nor the cache had the value. -/
  | unavailable (key : String) (cause : Failure)
  /-- A failure in its circumstances. -/
  | context (text : String) (cause : Failure)
  deriving Repr, DecidableEq

namespace Failure

def message : Failure → String
  | plain text => text
  | invalidCve => "invalid CVE id"
  | canceled => "context canceled"
  | auth name code => s!"{name}: authentication failed (HTTP {code})"
  | status code url => s!"unexpected status code {code} from {url}"
  | transport method url cause => method ++ " " ++ Text.quoted url ++ ": " ++ cause.message
  | timeout => "i/o timeout"
  | notJson => "<json-syntax>"
  | wrongKind => "<json-type>"
  | notEncodable => "<json-value>"
  | outOfRange value => value ++ ": EPSS score out of range [0, 1]"
  | notNumeric text => Text.quoted text ++ ": EPSS score is not numeric"
  | source name kind cause => s!"{name} ({kind}): " ++ cause.message
  | unavailable key cause => s!"fetch {key}: " ++ cause.message ++ " (no cached copy)"
  | context text cause => text ++ ": " ++ cause.message

/-- The failure and the ones it wraps, outermost first. -/
def chain : Failure → List Failure
  | transport method url cause => transport method url cause :: cause.chain
  | source name kind cause => source name kind cause :: cause.chain
  | unavailable key cause => unavailable key cause :: cause.chain
  | context text cause => context text cause :: cause.chain
  | f => [f]

/-- The outermost failure of the chain that `p` recognises. -/
def find? {α : Type} (p : Failure → Option α) (f : Failure) : Option α :=
  f.chain.findSome? p

end Failure

/-- The failure of one source for one finding. -/
structure SourceFailure where
  source : String
  kind : String
  cause : Failure
  deriving Repr, DecidableEq

namespace SourceFailure

/-- The failure as a link of a chain. -/
def toFailure (f : SourceFailure) : Failure := .source f.source f.kind f.cause

/-- The wording of a source's failure. -/
def message (f : SourceFailure) : String := f.toFailure.message

end SourceFailure

namespace Failure

/-- The source failure that a link of a chain is. -/
def asSource? : Failure → Option SourceFailure
  | source name kind cause => some ⟨name, kind, cause⟩
  | _ => none

/-- A link of a chain that rejects an identifier. -/
def asInvalidCve? : Failure → Option Unit
  | invalidCve => some ()
  | _ => none

/-- A link of a chain that rejects the credentials. -/
def asAuth? : Failure → Option Unit
  | auth .. => some ()
  | _ => none

/-- The kind of failure, for a failure that carries none: a rejected identifier is a matter of
validation, rejected credentials of authentication, and everything else may pass. -/
def kind (f : Failure) : String :=
  if (f.find? asInvalidCve?).isSome then "validation"
  else if (f.find? asAuth?).isSome then "auth"
  else "transient"

/-- The failure as one of `name`, unless it already is one of some source. -/
def classify (name : String) (f : Failure) : SourceFailure :=
  (f.find? asSource?).getD ⟨name, f.kind, f⟩

end Failure

end Triage
