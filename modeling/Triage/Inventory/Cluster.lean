import Triage.Inventory.Images
import Triage.Text.Pieces

/-!
# Images of a cluster

The workloads of a cluster run images; of these the ones in a registry of the cloud account are to be
scanned. Workloads are listed kind by kind, and a workload names its images in three places.
-/
namespace Triage.Inventory

/-- The kinds of workload that run images, in the order in which they are listed. -/
inductive WorkloadKind where
  | deployment
  | statefulSet
  | daemonSet
  | cronJob
  deriving Repr, DecidableEq

namespace WorkloadKind

def all : List WorkloadKind := [deployment, statefulSet, daemonSet, cronJob]

def name : WorkloadKind → String
  | deployment => "Deployment"
  | statefulSet => "StatefulSet"
  | daemonSet => "DaemonSet"
  | cronJob => "CronJob"

end WorkloadKind

/-- A workload and the images that it runs: to start up, in regular operation, and for a while. -/
structure Workload where
  kind : WorkloadKind
  ns : String
  name : String
  initial : List String := []
  regular : List String := []
  ephemeral : List String := []
  deriving Repr, DecidableEq

def Workload.images (w : Workload) : List String := w.initial ++ w.regular ++ w.ephemeral

/-! ## Registries of the cloud -/

namespace CloudRegistry

def isRegionChar (c : Char) : Bool := c.isLower || c.isDigit || c == '-'

/-- What follows the account: the region and the domain, up to the first slash. -/
def isDomain (cs : List Char) : Bool :=
  match Text.stripLead ".dkr.ecr.".toList cs with
  | none => false
  | some rest =>
    let region := rest.takeWhile isRegionChar
    match Text.stripLead ".amazonaws.com".toList (rest.drop region.length) with
    | none => false
    | some tail =>
      !region.isEmpty &&
        ((Text.stripLead ['/'] tail).isSome || (Text.stripLead ".cn/".toList tail).isSome)

/-- The account in whose registry an image is, if it is in one. -/
def account? (uri : String) : Option String :=
  let digits := uri.toList.take 12
  if digits.length = 12 ∧ digits.all Char.isDigit ∧ isDomain (uri.toList.drop 12) then
    some (String.ofList digits)
  else none

/-- The image is in the registry of `account`, or of any account if that is empty. -/
def covers (account uri : String) : Bool :=
  match account? uri with
  | none => false
  | some owner => account == "" || owner == account

end CloudRegistry

/-! ## Discovery -/

/-- A cluster, as far as it answers: its workloads, and the failure to list those of some kind. -/
structure Cluster where
  workloads : List Workload := []
  refusal : WorkloadKind → Option Failure := fun _ => none

namespace Cluster

/-- The workloads of a kind in a namespace, or in all of them if that is empty. -/
def list (c : Cluster) (ns : String) (kind : WorkloadKind) : Except Failure (List Workload) :=
  match c.refusal kind with
  | some e => .error (.context s!"failed to list {kind.name}s" e)
  | none => .ok (c.workloads.filter fun w => w.kind = kind ∧ (ns = "" ∨ w.ns = ns))

/-- The images of a workload that are to be scanned, each once. -/
def sightings (account : String) (w : Workload) : List Image.Sighting :=
  (Listing.distinct (w.images.filter (CloudRegistry.covers account))).map fun uri =>
    ⟨uri, w.ns, w.name, w.kind.name⟩

/-- The images of all workloads; one that several workloads run appears for each of them. -/
def discover (c : Cluster) (ns account : String) : Except Failure (List Image.Sighting) := do
  let listed ← WorkloadKind.all.mapM (c.list ns)
  return listed.flatten.flatMap (sightings account)

def discoverer (c : Cluster) (ns account : String) (σ : Type) : Discoverer σ where
  name := "aws-eks"
  discover s := (c.discover ns account, s)
  covers := CloudRegistry.covers account

end Cluster

end Triage.Inventory
