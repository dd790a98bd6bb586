import Triage.Pipeline
import Triage.Service.Handler

/-!
# A running service

A pipeline, the world it runs in, and what it has published. Requests are answered from what is
published.
-/
namespace Triage.Service

/-- A service between two runs. -/
structure Instance where
  pipeline : Pipeline
  world : World
  published : Engine.Publication := {}

namespace Instance

/-- The service that settings describe, before its first run. -/
def start (cloud : FindingsSettings.CloudAccess) (env : Settings.Environment) (s : Settings) (h : Host) :
    Except Failure Instance := do
  let pipeline ← Pipeline.ofSettings cloud s
  return { pipeline, world := { host := s.equip h, clients := s.clients env } }

def sourceNames (i : Instance) : List String := i.pipeline.sources.map (·.name)

/-- One run. If it fails, what was published stays. -/
def refresh (i : Instance) : Except Failure Unit × Instance :=
  let ((result, published), world) :=
    Engine.publish i.pipeline.sources false (·.host.now) (some i.pipeline.load) i.published i.world
  (result.map fun _ => (), { i with world, published })

/-- The answer to a request. -/
def respond (i : Instance) (method target : String) : Option Response :=
  Service.respond i.published method target

end Instance

end Triage.Service
