import Triage.Settings.File

/-!
# Settings from the environment and the command line

Variables of the environment override settings. A setting may have several variables, of which the
first one that is set to more than blanks counts; its value is taken without the blanks around it.

Settings come from a file, then from the environment, then from the command line; what comes later
overrides what came before.
-/
namespace Triage.Settings

open Time (Duration)

abbrev Environment := String → Option String

/-- What most variables begin with. -/
def variableLead : String := "RISKRELAY_"

/-- The value of the first variable that is set to more than blanks. -/
def firstSet? (env : Environment) (names : List String) : Option String :=
  names.findSome? fun v => ((env v).map Text.trim).filter (· != "")

structure Override where
  names : List String
  apply : Settings → String → Except Failure Settings

/-- The failure for a value that cannot be read. -/
def invalidValue (name value : String) (cause : String) : Failure :=
  .context (s!"invalid {name} value " ++ Text.quoted value) (.plain cause)

def wholeProblem (value : String) : Number.IntError → String
  | .malformed => "strconv.Atoi: parsing " ++ Text.quoted value ++ ": invalid syntax"
  | .outOfRange => "strconv.Atoi: parsing " ++ Text.quoted value ++ ": value out of range"

def textOverride (names : List String) (set : Settings → String → Settings) : Override :=
  ⟨names, fun s v => .ok (set s v)⟩

def wholeOverride (names : List String) (set : Settings → Int → Settings) : Override :=
  ⟨names, fun s v =>
    match Number.readInt64 v with
    | .ok n => .ok (set s n)
    | .error e => .error (invalidValue (names.headD "") v (wholeProblem v e))⟩

def durationOverride (names : List String) (set : Settings → Duration → Settings) : Override :=
  ⟨names, fun s v =>
    match Duration.parse v with
    | .ok d => .ok (set s d)
    | .error e => .error (invalidValue (names.headD "") v (e.message v))⟩

/-- The variable with the usual beginning. -/
def own (name : String) : String := variableLead ++ name

def textOverrides : List Override :=
  [ textOverride ["LOG_LEVEL", own "LOG_LEVEL"] fun s v => { s with logLevel := v },
    textOverride [own "CACHE_DIR"] fun s v => { s with cache.directory := v },
    textOverride [own "MODE"] fun s v => { s with findings.mode := v },
    textOverride [own "FINDINGS_FILE"] fun s v => { s with findings.file := v },
    textOverride [own "IMAGE_LIST_FILE", "IMAGE_LIST_FILE"] fun s v => { s with findings.imageList := v },
    textOverride [own "ECR_ACCOUNT_ID", "AWS_ECR_ACCOUNT_ID"] fun s v => { s with findings.account := v },
    textOverride [own "ECR_REGION", "AWS_ECR_REGION"] fun s v => { s with findings.region := v },
    textOverride [own "NAMESPACE"] fun s v => { s with findings.ns := v },
    textOverride ["GITHUB_TOKEN", own "GITHUB_TOKEN"] fun s v => { s with sources.advisories.key := v },
    textOverride [Exploits.keyVariable, own "VULNCHECK_API_KEY"] fun s v =>
      { s with sources.exploits.key := v },
    textOverride [own "KEV_URL"] fun s v => { s with sources.catalog.url := v },
    textOverride [own "EPSS_URL"] fun s v => { s with sources.forecasts.url := v },
    textOverride [own "GHSA_URL"] fun s v => { s with sources.advisories.url := v },
    textOverride [own "VULNCHECK_URL"] fun s v => { s with sources.exploits.url := v } ]

/-- The numbers that variables override. -/
def wholeOverrides : List Override :=
  [ wholeOverride [own "WORKERS"] fun s v => { s with workers := v },
    wholeOverride [own "PORT", "PORT"] fun s v => { s with server.port := v } ]

def durationOverrides : List Override :=
  [ durationOverride [own "CACHE_TTL"] fun s v => { s with cache.lifetime := v },
    durationOverride [own "REFRESH_INTERVAL"] fun s v => { s with server.interval := v } ]

/-- The variable that turns the cache off. -/
def cacheOverride : Override :=
  ⟨[own "NO_CACHE"], fun s v =>
    match Number.readBool? v with
    | some b => .ok { s with cache.disabled := b }
    | none =>
      .error (invalidValue (own "NO_CACHE") v
        ("strconv.ParseBool: parsing " ++ Text.quoted v ++ ": invalid syntax"))⟩

/-- The parts of a list with commas that are not blank, without the blanks around them. -/
def splitList (s : String) : List String := ((Text.split ',' s).map Text.trim).filter (· != "")

/-- The variable that turns sources off. -/
def sourcesOverride : Override :=
  ⟨[own "DISABLE_SOURCES"], fun s v =>
    (splitList v).foldlM (fun s name =>
      match SourceId.parse? name with
      | some id => .ok (s.enable id false)
      | none => .error (.plain ("unknown source " ++ Text.quoted name ++ " in " ++ own "DISABLE_SOURCES"))) s⟩

def overrides : List Override :=
  textOverrides ++ wholeOverrides ++ durationOverrides ++ [cacheOverride, sourcesOverride]

def Override.run (o : Override) (env : Environment) (s : Settings) : Except Failure Settings :=
  match firstSet? env o.names with
  | none => .ok s
  | some v => o.apply s v

def applyEnvironment (env : Environment) (s : Settings) : Except Failure Settings :=
  overrides.foldlM (fun s o => o.run env s) s

/-! ## The command line -/

/-- What the command line says about settings that all commands share. -/
structure Choices where
  config : String := ""
  logLevel : Option String := none
  noCache : Option Bool := none
  workers : Option Int := none
  sources : Option (List String) := none
  deriving Repr, DecidableEq

/-- The settings with the choices of the command line. -/
def Choices.apply (c : Choices) (s : Settings) : Except Failure Settings :=
  let s := { s with
    logLevel := c.logLevel.getD s.logLevel
    cache.disabled := c.noCache.getD s.cache.disabled
    workers := c.workers.getD s.workers }
  match c.sources with
  | none => .ok s
  | some names => s.selectSources names

/-- The settings that hold for a command. -/
def effective (disk : Disk) (faults : Faults) (env : Environment) (c : Choices) :
    Except Failure Settings := do
  c.apply (← (← load disk faults c.config).applyEnvironment env)

end Triage.Settings
