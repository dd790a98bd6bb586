import Triage.Text.Case
import Triage.Text.Pieces

/-!
# Container images

An image is named by a registry, a repository and either a tag or a digest:
`registry/repository:tag` or `registry/repository@digest`.
-/
namespace Triage.Image

/-- How a reference picks one image of a repository. -/
inductive Selector where
  | tag (name : String)
  | digest (value : String)
  deriving Repr, DecidableEq

structure Reference where
  registry : String
  repository : String
  selector : Selector
  deriving Repr, DecidableEq

/-- Why a text is no image reference. -/
inductive ReferenceError where
  | malformed
  | missingTag
  deriving Repr, DecidableEq

/-- The wording for a refused reference. -/
def ReferenceError.message (uri : String) : ReferenceError → String
  | malformed => "invalid image URI format: " ++ uri
  | missingTag => "invalid image URI format, missing tag: " ++ uri

/-- The repository and selector after the registry. A digest is split off at the first `@`, a tag at
the last colon. -/
def parseRest (registry rest : List Char) : Except ReferenceError Reference :=
  match Text.cutFirst '@' rest with
  | some (repository, digest) =>
    if repository.isEmpty || digest.isEmpty then .error .malformed
    else .ok ⟨String.ofList registry, String.ofList repository, .digest (String.ofList digest)⟩
  | none =>
    match Text.cutLast ':' rest with
    | none => .error .missingTag
    | some (repository, tag) =>
      if repository.isEmpty || tag.isEmpty then .error .missingTag
      else .ok ⟨String.ofList registry, String.ofList repository, .tag (String.ofList tag)⟩

/-- The reference that a text without surrounding space spells. -/
def parseChars (cs : List Char) : Except ReferenceError Reference :=
  match Text.cutFirst '/' cs with
  | none => .error .malformed
  | some (registry, rest) =>
    if registry.isEmpty || rest.isEmpty then .error .malformed else parseRest registry rest

def parse (uri : String) : Except ReferenceError Reference :=
  parseChars (Text.trimChars uri.toList)

namespace Reference

def tag (r : Reference) : String :=
  match r.selector with
  | .tag name => name
  | .digest _ => ""

def digest (r : Reference) : String :=
  match r.selector with
  | .tag _ => ""
  | .digest value => value

/-- The written form of a reference. -/
def render (r : Reference) : String :=
  match r.selector with
  | .tag name => r.registry ++ "/" ++ r.repository ++ ":" ++ name
  | .digest value => r.registry ++ "/" ++ r.repository ++ "@" ++ value

end Reference

/-- An image found in a cluster or in a list, with the workload that runs it. -/
structure Sighting where
  uri : String
  ns : String
  workload : String
  workloadType : String
  deriving Repr, DecidableEq

end Triage.Image
