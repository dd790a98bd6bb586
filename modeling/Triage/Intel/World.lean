import Triage.Intel.Advisories
import Triage.Intel.ExploitedCatalog
import Triage.Intel.Exploits
import Triage.Intel.Forecasts

/-!
# The sources together

The clients of all four sources beside the host that they share.
-/
namespace Triage

structure Clients where
  catalog : ExploitedCatalog.Client := {}
  forecasts : Forecasts.Client := {}
  advisories : Advisories.Client := {}
  exploits : Exploits.Client := {}

/-- The host and the clients that run on it. -/
structure World where
  host : Host
  clients : Clients := {}

namespace World

def onHost {α : Type} (act : Session α) : StateM World α := fun w =>
  let (a, host) := act w.host
  (a, { w with host })

def onCatalog {α : Type} (act : ExploitedCatalog.Client → Session (α × ExploitedCatalog.Client)) :
    StateM World α := fun w =>
  let ((a, c), host) := act w.clients.catalog w.host
  (a, { w with host, clients.catalog := c })

def onForecasts {α : Type} (act : Forecasts.Client → Session (α × Forecasts.Client)) :
    StateM World α := fun w =>
  let ((a, c), host) := act w.clients.forecasts w.host
  (a, { w with host, clients.forecasts := c })

def onAdvisories {α : Type} (act : Advisories.Client → Session (α × Advisories.Client)) :
    StateM World α := fun w =>
  let ((a, c), host) := act w.clients.advisories w.host
  (a, { w with host, clients.advisories := c })

def onExploits {α : Type} (act : Exploits.Client → Session α) : StateM World α := fun w =>
  let (a, host) := act w.clients.exploits w.host
  (a, { w with host })

/-- Runs an activity that may have been called off beforehand. -/
def calledOff {α : Type} (canceled : Bool) (act : StateM World α) : StateM World α := do
  modify fun w => { w with host.canceled := canceled }
  let a ← act
  modify fun w => { w with host.canceled := false }
  return a

end World

end Triage
