import Triage.Engine.Outcome
import Triage.Listing

/-!
# Enrichment

A run of the engine over a list of findings: the identifiers are resolved, the sources prepare for all
vulnerabilities at once, every finding is looked up in every source, and the findings are scored and
ranked. A source that rejects the credentials is not asked again in the run.
-/
namespace Triage.Engine

variable {σ : Type}

/-! ## Preparation -/

def unresolvedWarning : String := "No CVE id found, scored on CVSS only"

/-- A finding with its identifier resolved. -/
def prepare (f : Finding) : Finding :=
  match f.resolveCve? with
  | some cve => { f with cve }
  | none => f.addWarning unresolvedWarning

/-- The vulnerabilities of a list of findings, in the order of their first occurrence. -/
def vulnerabilities (fs : List Finding) : List String :=
  Listing.distinct (fs.filterMap Finding.resolveCve?)

/-- Makes the sources forget the run before. -/
def resetAll (sources : List (Source σ)) : StateM σ Unit :=
  sources.forM fun s => s.reset.getD (pure ())

/-- Lets the sources prepare for the run. What fails here shows in the lookups. -/
def prefetchAll (sources : List (Source σ)) (cves : List String) : StateM σ Unit :=
  if cves.isEmpty then pure ()
  else
    sources.forM fun s =>
      match s.prefetch with
      | none => pure ()
      | some prefetch => discard (prefetch cves)

/-! ## Lookups -/

/-- The state of a run: that of the sources, and the names of those that have been given up. -/
structure Run (σ : Type) where
  state : σ
  disabled : List String := []

/-- The failure of a lookup in a source that has been given up. -/
def disabledFailure (name : String) : SourceFailure :=
  ⟨name, disablingKind, .plain "source disabled after authentication failure"⟩

/-- The outcome of asking a source about a finding. -/
def ask (source : Source σ) (f : Finding) : StateM σ Outcome := do
  match ← source.contribute f with
  | .ok change => return .contributed change
  | .error e => return .failed (e.classify source.name)

/-- One lookup. It is skipped if the source has been given up or the run has been called off. -/
def lookup (canceled : Bool) (source : Source σ) (f : Finding) : StateM (Run σ) Outcome := fun r =>
  if r.disabled.contains source.name then (.skipped (disabledFailure source.name), r)
  else if canceled then (.skipped (Failure.canceled.classify source.name), r)
  else
    let (o, state) := ask source f r.state
    (o, { state, disabled := if o.disables then source.name :: r.disabled else r.disabled })

/-- All lookups of a finding; there are none without an identifier. -/
def lookups (canceled : Bool) (sources : List (Source σ)) (f : Finding) :
    StateM (Run σ) (List (String × Outcome)) :=
  if f.resolveCve?.isSome then
    sources.mapM fun s => return (s.name, ← lookup canceled s f)
  else pure []

/-! ## Results -/

/-- Scores findings and ranks them by falling risk. Findings of the same risk keep their order. -/
def rank (fs : List Finding) : List Finding :=
  (fs.map Finding.score).mergeSort fun a b => !(a.riskScore < b.riskScore)

def tallies (names : List String) (outcomes : List (String × Outcome)) (disabled : List String) : Stats :=
  Keyed.ofList (names.map fun name =>
    (name, Tally.ofOutcomes name outcomes (disabled.contains name)))

/-- What a run leads to. -/
structure Report where
  findings : List Finding
  stats : Stats
  /-- How many lookups there were. -/
  lookups : Nat

/-- The report on findings whose lookups came out as given, one list of outcomes for each finding. -/
def Report.ofOutcomes (names : List String) (prepared : List Finding)
    (outcomes : List (List (String × Outcome))) (disabled : List String) : Report where
  findings := rank ((prepared.zip outcomes).map fun (f, os) => mergeAll f os)
  stats := tallies names outcomes.flatten disabled
  lookups := outcomes.flatten.length

def enrich (sources : List (Source σ)) (canceled : Bool) (fs : List Finding) : StateM σ Report := do
  resetAll sources
  prefetchAll sources (vulnerabilities fs)
  let prepared := fs.map prepare
  let (outcomes, run) := prepared.mapM (lookups canceled sources) { state := ← get : Run σ }
  set run.state
  return Report.ofOutcomes (sources.map (·.name)) prepared outcomes run.disabled

end Triage.Engine
