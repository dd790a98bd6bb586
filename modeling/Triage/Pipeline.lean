import Triage.Engine.Publication
import Triage.Inventory.Mode
import Triage.Settings.Check
import Triage.Settings.Environment

/-!
# Pipelines

What settings come to: a source of findings, the enabled sources of intelligence, and the world that
they run in.
-/
namespace Triage

def SourceId.source : SourceId → Engine.Source World
  | .catalog => Engine.catalogSource
  | .forecasts => Engine.forecastSource
  | .advisories => Engine.advisorySource
  | .exploits => Engine.exploitSource

namespace Settings

/-- The enabled sources, in the order in which they are applied. -/
def enabledSources (s : Settings) : List SourceId :=
  SourceId.all.filter fun id => (s.sources.get id).enabled

/-- The address of a source, or the usual one. -/
def addressOf (s : Settings) (id : SourceId) (usual : String) : String :=
  let url := (s.sources.get id).url
  if url = "" then usual else url

def clients (s : Settings) (env : Environment) : Clients :=
  { catalog := { url := s.addressOf .catalog ExploitedCatalog.defaultUrl }
    forecasts := { url := s.addressOf .forecasts Forecasts.defaultUrl }
    advisories :=
      { endpoint := s.addressOf .advisories Advisories.defaultEndpoint, token := s.sources.advisories.key }
    exploits :=
      { url := s.addressOf .exploits Exploits.defaultUrl
        key := Exploits.chooseKey s.sources.exploits.key ((env Exploits.keyVariable).getD "") } }

def manager (s : Settings) : Cache.Manager :=
  Cache.Manager.create s.cache.directory (some s.cache.lifetime)

/-- The host with the cache that the settings ask for. -/
def equip (s : Settings) (h : Host) : Host :=
  { h with cache := if s.cache.disabled then none else some s.manager }

end Settings

/-- A source of findings and the sources of intelligence that enrich them. -/
structure Pipeline where
  findings : Inventory.FindingSource Host
  sources : List (Engine.Source World)

namespace Pipeline

/-- The pipeline that settings describe, if they make sense. -/
def ofSettings (cloud : FindingsSettings.CloudAccess) (s : Settings) : Except Failure Pipeline := do
  s.check.mapError (.context "invalid configuration")
  let findings ← (s.findings.source cloud).mapError (.context "failed to create finding source")
  return { findings, sources := s.enabledSources.map (·.source) }

def load (p : Pipeline) : StateM World (Except Failure (List Finding)) := do
  return (← World.onHost p.findings.load).map (·.getD [])

end Pipeline

end Triage
