import Mathlib.Logic.Function.Basic
import Triage.Settings.Environment

/-!
# Settings, item by item

What can be configured, one item at a time: where it stands in a file, which variables of the environment it
has, and how it is read from either. Settings are what they are for each item (`view_injective`), so that an
override is a change of the view at one item.
-/
namespace Triage.Settings

open Time (Duration)

/-- The value of an item. -/
inductive Datum where
  | text (s : String)
  | whole (n : Int)
  | span (d : Duration)
  | flag (b : Bool)
  deriving Repr, DecidableEq

/-- What can be configured. -/
inductive Item where
  | logLevel
  | workers
  | cacheDirectory
  | cacheLifetime
  | cacheDisabled
  | enabled (id : SourceId)
  | url (id : SourceId)
  | timeout (id : SourceId)
  | key (id : SourceId)
  | mode
  | file
  | imageList
  | account
  | region
  | ns
  | port
  | interval
  deriving Repr, DecidableEq

def view (s : Settings) : Item → Datum
  | .logLevel => .text s.logLevel
  | .workers => .whole s.workers
  | .cacheDirectory => .text s.cache.directory
  | .cacheLifetime => .span s.cache.lifetime
  | .cacheDisabled => .flag s.cache.disabled
  | .enabled id => .flag (s.sources.get id).enabled
  | .url id => .text (s.sources.get id).url
  | .timeout id => .span (s.sources.get id).timeout
  | .key id => .text (s.sources.get id).key
  | .mode => .text s.findings.mode
  | .file => .text s.findings.file
  | .imageList => .text s.findings.imageList
  | .account => .text s.findings.account
  | .region => .text s.findings.region
  | .ns => .text s.findings.ns
  | .port => .whole s.server.port
  | .interval => .span s.server.interval

attribute [ext] Settings CacheSettings SourceSettings SourcesSettings FindingsSettings ServerSettings

/-- **Settings are what they are for each item.** -/
theorem view_injective : Function.Injective view := by
  intro s s' h
  have hitem (i : Item) : s.view i = s'.view i := congrFun h i
  have hsource (id : SourceId) : s.sources.get id = s'.sources.get id := by
    have henabled := Datum.flag.inj (hitem (.enabled id))
    have hurl := Datum.text.inj (hitem (.url id))
    have htimeout := Datum.span.inj (hitem (.timeout id))
    have hkey := Datum.text.inj (hitem (.key id))
    exact SourceSettings.ext henabled hurl htimeout hkey
  exact Settings.ext (Datum.text.inj (hitem .logLevel)) (Datum.whole.inj (hitem .workers))
    (CacheSettings.ext (Datum.text.inj (hitem .cacheDirectory)) (Datum.span.inj (hitem .cacheLifetime))
      (Datum.flag.inj (hitem .cacheDisabled)))
    (SourcesSettings.ext (hsource .catalog) (hsource .forecasts) (hsource .advisories) (hsource .exploits))
    (FindingsSettings.ext (Datum.text.inj (hitem .mode)) (Datum.text.inj (hitem .file))
      (Datum.text.inj (hitem .imageList)) (Datum.text.inj (hitem .account)) (Datum.text.inj (hitem .region))
      (Datum.text.inj (hitem .ns)))
    (ServerSettings.ext (Datum.whole.inj (hitem .port)) (Datum.span.inj (hitem .interval)))

/-- The kinds of values. -/
inductive Kind where
  | text
  | whole
  | span
  | flag
  deriving Repr, DecidableEq

def Kind.read : Kind → Toml.Value → Option Datum
  | .text, v => (readText v).map .text
  | .whole, v => (readWhole v).map .whole
  | .span, v => (readDuration v).map .span
  | .flag, v => (readFlag v).map .flag

/-- Reads a value of a variable. -/
def Kind.parse : Kind → String → Option Datum
  | .text, s => some (.text s)
  | .whole, s => (Number.readInt64 s).toOption.map .whole
  | .span, s => (Duration.parse s).toOption.map .span
  | .flag, s => (Number.readBool? s).map .flag

namespace Item

def kind : Item → Kind
  | workers | port => .whole
  | cacheLifetime | timeout _ | interval => .span
  | cacheDisabled | enabled _ => .flag
  | _ => .text

/-- Where the item stands in a file. -/
def path : Item → List String
  | logLevel => ["log_level"]
  | workers => ["workers"]
  | cacheDirectory => ["cache", "dir"]
  | cacheLifetime => ["cache", "ttl"]
  | cacheDisabled => ["cache", "disabled"]
  | enabled id => ["sources", id.name, "enabled"]
  | url id => ["sources", id.name, "url"]
  | timeout id => ["sources", id.name, "timeout"]
  | key id => ["sources", id.name, "api_key"]
  | mode => ["findings", "mode"]
  | file => ["findings", "file"]
  | imageList => ["findings", "image_list_file"]
  | account => ["findings", "ecr_account_id"]
  | region => ["findings", "ecr_region"]
  | ns => ["findings", "namespace"]
  | port => ["server", "port"]
  | interval => ["server", "refresh_interval"]

/-- The variables of the item, the one that counts most first. -/
def variableNames : Item → List String
  | logLevel => ["LOG_LEVEL", "RISKRELAY_LOG_LEVEL"]
  | workers => ["RISKRELAY_WORKERS"]
  | cacheDirectory => ["RISKRELAY_CACHE_DIR"]
  | cacheLifetime => ["RISKRELAY_CACHE_TTL"]
  | cacheDisabled => ["RISKRELAY_NO_CACHE"]
  | url .catalog => ["RISKRELAY_KEV_URL"]
  | url .forecasts => ["RISKRELAY_EPSS_URL"]
  | url .advisories => ["RISKRELAY_GHSA_URL"]
  | url .exploits => ["RISKRELAY_VULNCHECK_URL"]
  | key .advisories => ["GITHUB_TOKEN", "RISKRELAY_GITHUB_TOKEN"]
  | key .exploits => ["VULNCHECK_API_KEY", "RISKRELAY_VULNCHECK_API_KEY"]
  | mode => ["RISKRELAY_MODE"]
  | file => ["RISKRELAY_FINDINGS_FILE"]
  | imageList => ["RISKRELAY_IMAGE_LIST_FILE", "IMAGE_LIST_FILE"]
  | account => ["RISKRELAY_ECR_ACCOUNT_ID", "AWS_ECR_ACCOUNT_ID"]
  | region => ["RISKRELAY_ECR_REGION", "AWS_ECR_REGION"]
  | ns => ["RISKRELAY_NAMESPACE"]
  | port => ["RISKRELAY_PORT", "PORT"]
  | interval => ["RISKRELAY_REFRESH_INTERVAL"]
  | enabled _ | timeout _ | key _ => []

end Item

end Triage.Settings
