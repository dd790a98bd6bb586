import Triage.Settings.Basic

/-!
# Checking settings

Which settings make sense, each by itself and together.
-/
namespace Triage.Settings

open Time (Duration)

def logLevels : List String :=
  ["panic", "fatal", "error", "warn", "warning", "info", "debug", "trace"]

/-- The highest number of lookups at a time. -/
def maxWorkers : Int := 100

/-- Fails with a text unless a condition holds. -/
def require (holds : Bool) (text : String) : Except Failure Unit :=
  if holds then .ok () else .error (.plain text)

def checkLogLevel (s : Settings) : Except Failure Unit :=
  require (logLevels.contains (Text.lower s.logLevel))
    ("invalid log level " ++ Text.quoted s.logLevel ++ ": not a valid logrus Level: " ++ Text.quoted s.logLevel)

/-- The cache is usable, unless it is off. -/
def checkCache (c : CacheSettings) : Except Failure Unit :=
  if c.disabled then .ok ()
  else do
    require (c.directory != "") "cache dir must be set unless caching is disabled"
    require (0 < c.lifetime.nanos) s!"cache ttl must be positive, got {c.lifetime.text}"

/-- An address that requests can be sent to. -/
def isAbsolute (url : String) : Bool :=
  match Url.parse url with
  | .ok u => (u.scheme == "http" || u.scheme == "https") && !u.host.isEmpty
  | .error _ => false

/-- A source is usable, unless it is off. -/
def checkSource (id : SourceId) (s : SourceSettings) : Except Failure Unit :=
  if !s.enabled then .ok ()
  else do
    require (0 < s.timeout.nanos) s!"{id.name} timeout must be positive, got {s.timeout.text}"
    require (s.url == "" || isAbsolute s.url)
      (id.name ++ " url " ++ Text.quoted s.url ++ " must be an absolute http(s) URL")

/-- There is what the way of loading findings needs. -/
def checkFindings (f : FindingsSettings) : Except Failure Unit :=
  match f.mode with
  | "local" => require (f.file != "") "local mode requires a findings file"
  | "ecr" =>
    require (f.account != "" && f.region != "") "ecr mode requires an ECR account id and region"
  | "mock" => .ok ()
  | mode =>
    .error (.plain ("unsupported mode " ++ Text.quoted mode ++ ", must be one of: local, ecr, mock"))

/-- The service can run. -/
def checkServer (s : ServerSettings) : Except Failure Unit := do
  require (0 < s.port && s.port ≤ 65535) s!"port must be between 1 and 65535, got {s.port}"
  require ((Duration.ofMinutes 1).nanos ≤ s.interval.nanos)
    s!"refresh interval must be at least 1m, got {s.interval.text}"

/-- The settings make sense. -/
def check (s : Settings) : Except Failure Unit := do
  checkLogLevel s
  require (0 < s.workers && s.workers ≤ maxWorkers)
    s!"workers must be between 1 and {maxWorkers}, got {s.workers}"
  checkCache s.cache
  SourceId.all.forM fun id => checkSource id (s.sources.get id)
  checkFindings s.findings
  checkServer s.server

end Triage.Settings
