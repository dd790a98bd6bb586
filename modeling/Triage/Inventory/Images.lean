import Triage.Failure
import Triage.Finding.Basic
import Triage.Image
import Triage.Listing

/-!
# Findings of images

Findings are loaded from a source. One kind of source discovers images and has each of them scanned:
an image that several workloads run is scanned once, a scan that fails is passed over, and only if
all of them fail is there a failure. The order of discovery decides the order of the findings, not
the order in which scans end.
-/
namespace Triage.Inventory

/-- Loads findings; what it has not got at all is told apart from an empty list. -/
structure FindingSource (σ : Type) where
  name : String
  load : StateM σ (Except Failure (Option (List Finding)))

structure Discoverer (σ : Type) where
  name : String
  discover : StateM σ (Except Failure (List Image.Sighting))
  /-- The image is in a registry whose images are to be scanned. -/
  covers : String → Bool

structure Scanner (σ : Type) where
  name : String
  scan : String → StateM σ (Except Failure (List Finding))

namespace Images

/-- The addresses to scan, each once, in the order of discovery; an image without one is passed over. -/
def targets (images : List Image.Sighting) : List String :=
  Listing.distinct ((images.map (·.uri)).filter (· != ""))

/-- Findings that say nothing about where they come from are attributed to `origin`. -/
def ascribe (origin : String) (fs : List Finding) : List Finding :=
  fs.map fun f => if f.source = "" then { f with source := origin } else f

/-- What a scan contributes. -/
def yield (uri : String) : Except Failure (List Finding) → List Finding
  | .ok fs => ascribe uri fs
  | .error _ => []

def succeeded : Except Failure (List Finding) → Bool
  | .ok _ => true
  | .error _ => false

def allFailed (n : Nat) : Failure := .plain s!"scanning failed for all {n} images"

/-- What the scans of all targets come to. -/
def collect (scans : List (String × Except Failure (List Finding))) : Except Failure (List Finding) :=
  if scans.isEmpty || scans.any fun s => succeeded s.2 then .ok (scans.flatMap fun s => yield s.1 s.2)
  else .error (allFailed scans.length)

/-- Discovers images and collects the findings of their scans. -/
def load {σ : Type} (d : Discoverer σ) (s : Scanner σ) : StateM σ (Except Failure (List Finding)) := do
  match ← d.discover with
  | .error e => return .error (.context "failed to discover images" e)
  | .ok images =>
    let scans ← (targets images).mapM fun uri => do return (uri, ← s.scan uri)
    return collect scans

def source {σ : Type} (d : Discoverer σ) (s : Scanner σ) : FindingSource σ where
  name := d.name ++ "+" ++ s.name
  load := do return (← load d s).map fun fs => if fs.isEmpty then none else some fs

end Images

end Triage.Inventory
