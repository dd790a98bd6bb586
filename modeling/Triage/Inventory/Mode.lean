import Triage.Host.Basic
import Triage.Inventory.Demo
import Triage.Inventory.Document
import Triage.Inventory.Images
import Triage.Settings.Basic

/-!
# Where findings come from

A findings document is read from a file, and so is a list of images: a JSON array of addresses. The
settings name a mode: demonstration data, a findings file, or the scans of a registry.
-/
namespace Triage.Inventory

/-- The text of a file, unless the activity has been called off. -/
def readFile (subject path : String) (h : Host) : Except Failure String :=
  if h.canceled then .error .canceled
  else (h.disk.read h.faults path).mapError (.context s!"failed to read {subject} file '{path}'")

/-- The findings of a file; those that name no source are attributed to the file. -/
def findingsIn (path : String) (h : Host) : Except Failure (Option (List Finding)) := do
  let data ← readFile "findings" path h
  let fs ← (parseFindings data).mapError (.context s!"failed to parse findings file '{path}'")
  return fs.map (Images.ascribe path)

/-- The source that reads a findings document. -/
def fileSource (path : String) : FindingSource Host where
  name := "file"
  load h := (findingsIn path h, h)

namespace ImageList

def parse (s : String) : Except Failure (List String) :=
  (Json.decodeText (Json.Decoder.plainList "" Json.Decoder.text) [] s).mapError
    (.context "failed to parse image list JSON")

/-- Any address that is not blank is covered. -/
def covers (uri : String) : Bool := Text.trim uri != ""

/-- An image of a list, which belongs to no workload of a cluster. -/
def sighting (uri : String) : Image.Sighting := ⟨uri, "local", "local", "Local"⟩

/-- The images of a list without the blank entries. -/
def sightings (uris : List String) : List Image.Sighting :=
  ((uris.map Text.trim).filter covers).map sighting

def discover (path : String) (h : Host) : Except Failure (List Image.Sighting) := do
  return sightings (← parse (← readFile "image list" path h))

def discoverer (path : String) : Discoverer Host where
  name := "image-list"
  discover h := (discover path h, h)
  covers := covers

end ImageList

end Triage.Inventory

namespace Triage.FindingsSettings

open Inventory (FindingSource)

/-- Makes the source that scans images in the registry of an account. It takes access to a cloud. -/
abbrev CloudAccess := FindingsSettings → Except Failure (FindingSource Host)

/-- The source of findings that the settings choose. -/
def source (cloud : CloudAccess) (s : FindingsSettings) : Except Failure (FindingSource Host) :=
  if s.mode = "mock" then
    .ok (Inventory.Images.source (Inventory.Demo.discoverer Host) (Inventory.Demo.scanner Host))
  else if s.mode = "local" ∨ s.mode = "" then
    if s.file = "" then .error (.plain "local mode requires a findings file")
    else .ok (Inventory.fileSource s.file)
  else if s.mode = "ecr" then
    if s.account = "" ∨ s.region = "" then
      .error (.plain "ecr mode requires an ECR account id and region")
    else cloud s
  else .error (.plain ("unsupported mode: " ++ s.mode))

end Triage.FindingsSettings
