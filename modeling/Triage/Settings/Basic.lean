import Triage.Cache.Manager
import Triage.Intel.World

/-!
# Settings

Everything that can be configured, with the values that hold when nothing is. Sources are addressed by
name, in any case and with blanks around it.
-/
namespace Triage

open Time (Duration)

/-- The four sources of threat intelligence, in the order in which they are applied. -/
inductive SourceId where
  | catalog
  | forecasts
  | advisories
  | exploits
  deriving Repr, DecidableEq, Inhabited

namespace SourceId

def all : List SourceId := [catalog, forecasts, advisories, exploits]

def name : SourceId → String
  | catalog => ExploitedCatalog.sourceName
  | forecasts => Forecasts.sourceName
  | advisories => Advisories.sourceName
  | exploits => Exploits.sourceName

def parse? (s : String) : Option SourceId :=
  let s := Text.lower (Text.trim s)
  all.find? (·.name == s)

end SourceId

structure CacheSettings where
  directory : String := Cache.Manager.defaultRoot
  lifetime : Duration := Cache.Manager.defaultTtl
  disabled : Bool := false
  deriving Repr, DecidableEq, Inhabited

structure SourceSettings where
  enabled : Bool := true
  url : String := ""
  timeout : Duration := Duration.ofSeconds 15
  key : String := ""
  deriving Repr, DecidableEq, Inhabited

structure SourcesSettings where
  catalog : SourceSettings := { url := ExploitedCatalog.defaultUrl, timeout := Duration.ofSeconds 30 }
  forecasts : SourceSettings := { url := Forecasts.defaultUrl, timeout := Duration.ofSeconds 30 }
  advisories : SourceSettings := {}
  exploits : SourceSettings := { url := Exploits.defaultUrl }
  deriving Repr, DecidableEq, Inhabited

def SourcesSettings.get (s : SourcesSettings) : SourceId → SourceSettings
  | .catalog => s.catalog
  | .forecasts => s.forecasts
  | .advisories => s.advisories
  | .exploits => s.exploits

def SourcesSettings.set (s : SourcesSettings) (id : SourceId) (v : SourceSettings) : SourcesSettings :=
  match id with
  | .catalog => { s with catalog := v }
  | .forecasts => { s with forecasts := v }
  | .advisories => { s with advisories := v }
  | .exploits => { s with exploits := v }

structure FindingsSettings where
  mode : String := "local"
  file : String := ""
  imageList : String := ""
  account : String := ""
  region : String := ""
  ns : String := ""
  deriving Repr, DecidableEq, Inhabited

structure ServerSettings where
  port : Int := 9090
  interval : Duration := Duration.ofHours 1
  deriving Repr, DecidableEq, Inhabited

/-- Everything that can be configured. -/
structure Settings where
  logLevel : String := "info"
  workers : Int := 10
  cache : CacheSettings := {}
  sources : SourcesSettings := {}
  findings : FindingsSettings := {}
  server : ServerSettings := {}
  deriving Repr, DecidableEq, Inhabited

namespace Settings

def enable (s : Settings) (id : SourceId) (enabled : Bool) : Settings :=
  { s with sources := s.sources.set id { s.sources.get id with enabled } }

def unknownSource (name : String) : Failure :=
  .plain ("unknown source " ++ Text.quoted name ++ ", must be one of: " ++
    Text.join ", " (SourceId.all.map (·.name)))

/-- The sources that a list names; blank names are passed over. -/
def namedSources (names : List String) : Except Failure (List SourceId) :=
  ((names.map fun n => Text.lower (Text.trim n)).filter (· != "")).mapM fun n =>
    match SourceId.parse? n with
    | some id => .ok id
    | none => .error (unknownSource n)

def selectSources (s : Settings) (names : List String) : Except Failure Settings := do
  let wanted ← namedSources names
  return SourceId.all.foldl (fun s id => s.enable id (wanted.contains id)) s

end Settings

end Triage
