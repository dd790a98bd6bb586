import Triage.Proofs.Engine.SameAnswers
import Triage.Proofs.Text.Pieces
import Triage.Service.Instance

/-!
# Requests that read twice

To answer a request the service reads what is published in two goes: first the findings with the time of their
run, and then the tallies of the sources. Runs may be published before, between and after the two. The findings
and the time are those of the run that was the latest at the first reading, and the tallies those of the one that
was the latest at the second (`response_of_two_reads`). An overview can therefore describe two runs at once
(`overview_of_two_runs`).
-/
namespace Triage.Service

open Engine (Publication)
open Time (Instant)

/-- How far a request has come. -/
inductive Reading where
  | begun
  | half (findings : List Finding) (lastRun : Option Instant)
  | done (seen : Publication)

/-- What is published, and a request that is being answered. -/
structure Scene where
  published : Publication := {}
  reading : Reading := .begun

namespace Scene

/-- What happens next. -/
inductive Event where
  /-- A run comes to its end. -/
  | commit (p : Publication)
  | readFindings
  | readStats

/-- What the next event leads to, if it can happen. -/
def step (s : Scene) : Event → Option Scene
  | .commit p => some { s with published := p }
  | .readFindings =>
    match s.reading with
    | .begun => some { s with reading := .half s.published.findings s.published.lastRun }
    | _ => none
  | .readStats =>
    match s.reading with
    | .half findings lastRun =>
      some { s with reading := .done { findings, stats := s.published.stats, lastRun } }
    | _ => none

/-- What a sequence of events leads to, if they can happen in this order. -/
def exec : Scene → List Event → Option Scene
  | s, [] => some s
  | s, e :: es => (s.step e).bind fun s => exec s es

theorem exec_append (s : Scene) (es fs : List Event) :
    s.exec (es ++ fs) = (s.exec es).bind fun s => s.exec fs := by
  induction es generalizing s with
  | nil => rfl
  | cons e es ih =>
    simp only [List.cons_append, exec]
    cases s.step e with
    | none => rfl
    | some s₁ => exact ih s₁

end Scene

open Scene (Event)

/-- The latest of some runs, and what was published before if there are none. -/
def latest (runs : List Publication) (p : Publication := {}) : Publication := runs.foldl (fun _ q => q) p

theorem latest_append (runs more : List Publication) (p : Publication) :
    latest (runs ++ more) p = latest more (latest runs p) := List.foldl_append

/-- The findings of one run with the tallies of another. -/
def mixed (p q : Publication) : Publication := { p with stats := q.stats }

theorem mixed_eq_iff (p q : Publication) : mixed p q = p ↔ q.stats = p.stats := by
  obtain ⟨findings, stats, lastRun⟩ := p
  simp [mixed]

/-! ## What a request reads -/

/-- Where events have led: the runs among them, and what has been read between which of them. -/
inductive Traces : List Event → Scene → Prop
  | begun (before : List Publication) : Traces (before.map .commit) { published := latest before }
  | half (before between : List Publication) :
      Traces (before.map .commit ++ .readFindings :: between.map .commit)
        { published := latest (before ++ between)
          reading := .half (latest before).findings (latest before).lastRun }
  | done (before between after : List Publication) :
      Traces (before.map .commit ++ .readFindings :: (between.map .commit ++ .readStats :: after.map .commit))
        { published := latest (before ++ between ++ after)
          reading := .done (mixed (latest before) (latest (before ++ between))) }

/-- **One event more.** -/
theorem Traces.step {es : List Event} {s s' : Scene} {e : Event} (h : Traces es s) (hs : s.step e = some s') :
    Traces (es ++ [e]) s' := by
  cases e with
  | commit p =>
    cases hs
    cases h with
    | begun before => simpa [latest] using Traces.begun (before ++ [p])
    | half before between => simpa [latest] using Traces.half before (between ++ [p])
    | done before between after => simpa [latest] using Traces.done before between (after ++ [p])
  | readFindings =>
    cases h with
    | begun before => cases hs; simpa using Traces.half before []
    | half before between => cases hs
    | done before between after => cases hs
  | readStats =>
    cases h with
    | begun before => cases hs
    | half before between => cases hs; simpa [mixed] using Traces.done before between []
    | done before between after => cases hs

/-- **Any events.** -/
theorem traces_exec {es : List Event} {s : Scene} (h : Scene.exec {} es = some s) : Traces es s := by
  induction es using List.reverseRecOn generalizing s with
  | nil => cases h; exact .begun []
  | append_singleton es e ih =>
    rw [Scene.exec_append] at h
    obtain ⟨s₁, hinit, hlast⟩ := Option.bind_eq_some_iff.1 h
    obtain ⟨s₂, hstep, hend⟩ := Option.bind_eq_some_iff.1 hlast
    cases hend
    exact (ih hinit).step hstep

theorem exec_commits (s : Scene) (runs : List Publication) :
    s.exec (runs.map .commit) = some { s with published := latest runs s.published } := by
  induction runs generalizing s with
  | nil => rfl
  | cons p runs ih => exact ih { s with published := p }

/-- Where events are said to have led, they lead. -/
theorem exec_of_traces {es : List Event} {s : Scene} (h : Traces es s) : Scene.exec {} es = some s := by
  cases h with
  | begun before => exact exec_commits {} before
  | half before between =>
    simp only [Scene.exec_append, exec_commits, Option.bind_some, Scene.exec, Scene.step, latest_append]
  | done before between after =>
    simp only [Scene.exec_append, exec_commits, Option.bind_some, Scene.exec, Scene.step, latest_append, mixed]

/-- The routes that do not show the tallies. -/
theorem respond_mixed {route : Route} (h : route = .findings ∨ route = .health) (p q : Publication)
    (pairs : List Query.Pair) : route.respond (mixed p q) pairs = route.respond p pairs := by
  obtain rfl | rfl := h
  · simp only [Route.respond, findings, lastUpdated, mixed]
  · simp only [Route.respond, health, lastUpdated, mixed]

/-- **What a response describes.** A request is through exactly if it has read twice, with runs published before,
between and after. The response is made from the findings and the time of the latest run at the first reading,
and from the tallies of the latest run at the second. It describes the first of them alone if the tallies of the
two agree, so in particular if no run is published between the readings; a list of findings and the health always
do. -/
theorem response_of_two_reads (es : List Event) (seen : Publication) :
    ((∃ s, Scene.exec {} es = some s ∧ s.reading = .done seen) ↔
      ∃ before between after : List Publication,
        es = before.map .commit ++ .readFindings :: (between.map .commit ++ .readStats :: after.map .commit) ∧
        seen = mixed (latest before) (latest (before ++ between))) ∧
    ∀ before between : List Publication,
      (mixed (latest before) (latest (before ++ between)) = latest before ↔
        (latest (before ++ between)).stats = (latest before).stats) ∧
      (between = [] → mixed (latest before) (latest (before ++ between)) = latest before) ∧
      ∀ (route : Route) (pairs : List Query.Pair),
        (latest (before ++ between)).stats = (latest before).stats ∨ route = .findings ∨ route = .health →
        route.respond (mixed (latest before) (latest (before ++ between))) pairs =
          route.respond (latest before) pairs := by
  refine ⟨⟨?_, ?_⟩, fun before between => ⟨mixed_eq_iff _ _, ?_, fun route pairs => ?_⟩⟩
  · rintro ⟨s, hexec, hdone⟩
    cases traces_exec hexec with
    | begun before => cases hdone
    | half before between => cases hdone
    | done before between after =>
      cases hdone
      exact ⟨before, between, after, rfl, rfl⟩
  · rintro ⟨before, between, after, rfl, rfl⟩
    exact ⟨_, exec_of_traces (.done before between after), rfl⟩
  · rintro rfl
    rw [List.append_nil]
    rfl
  · rintro (hstats | hroute)
    · rw [(mixed_eq_iff _ _).2 hstats]
    · exact respond_mixed hroute _ _ pairs

/-! ## An overview of two runs -/

/-- A service with one source, which has no key. It finds nothing at first and one vulnerability later on. -/
def growingService : Instance where
  pipeline :=
    { findings :=
        { name := "growing"
          load := fun h => (.ok (some (if h.now = ⟨0⟩ then [] else [Engine.carriedFinding])), h) }
      sources := [Engine.exploitSource] }
  world := { host := { now := ⟨0⟩, cache := none, network := fun _ => .failed .timeout } }

def growingService.first : Instance := growingService.refresh.2

/-- The service after a second run, a second later. -/
def growingService.second : Instance :=
  { first with world := { first.world with host := { first.world.host with now := ⟨1000000000⟩ } } }.refresh.2

/-- A document is answered with its characters. -/
theorem document_of_chars {j? : Option Json} {body : String} {cs : List Char} (hbody : body.toList = cs)
    (hcs : j?.map (fun j => Json.compactChars j ++ ['\n']) = some cs) : document [] j? = json body := by
  obtain ⟨j, rfl, hchars⟩ := Option.map_eq_some_iff.1 hcs
  have hcompact : j.compact ++ "\n" = body := by
    rw [← String.toList_inj, hbody, String.toList_append, Json.compact, String.toList_ofList]
    exact hchars
  rw [← hcompact]
  rfl

/-- **An overview can describe two runs at once**: no findings, as of the first run, and one successful lookup, as
of the second. Nothing that was ever published has both. -/
theorem overview_of_two_runs :
    (∃ s, Scene.exec {} [.commit growingService.first.published, .readFindings,
        .commit growingService.second.published, .readStats] = some s ∧
      s.reading = .done (mixed growingService.first.published growingService.second.published)) ∧
    (∀ p ∈ [{}, growingService.first.published, growingService.second.published],
      ¬ (p.findings = (mixed growingService.first.published growingService.second.published).findings ∧
        p.stats = (mixed growingService.first.published growingService.second.published).stats)) ∧
    overview (mixed growingService.first.published growingService.second.published) [] =
      json ("\x7b\"total_findings\":0,\"unique_cves\":0,\"by_priority\":\x7b\"P0-IMMEDIATE\":0," ++
        "\"P1-CRITICAL\":0,\"P2-HIGH\":0,\"P3-MEDIUM\":0,\"P4-LOW\":0\x7d,\"in_kev\":0,\"weaponized\":0," ++
        "\"top_cves\":[],\"sources\":\x7b\"vulncheck\":\x7b\"succeeded\":1,\"failed\":0,\"skipped\":0," ++
        "\"disabled\":false\x7d\x7d,\"last_updated\":\"1970-01-01T00:00:00Z\"\x7d\n") := by
  have hnothing : growingService.first.published.findings = [] := by decide +kernel
  have hsomething : growingService.second.published.findings ≠ [] := by decide +kernel
  have hidle : growingService.first.published.stats = [("vulncheck", {})] := by decide +kernel
  have hbusy : growingService.second.published.stats = [("vulncheck", { succeeded := 1 })] := by decide +kernel
  refine ⟨⟨_, exec_of_traces (.done [_] [_] []), rfl⟩, ?_, document_of_chars (Text.toList_append_of
    (Text.toList_append_of (Text.toList_append_of String.toList_ofList String.toList_ofList) String.toList_ofList)
    String.toList_ofList) (by decide +kernel)⟩
  simp only [mixed, hnothing, hbusy, List.forall_mem_cons]
  refine ⟨fun h => ?_, fun h => ?_, fun h => hsomething h.1, by simp⟩
  · cases h.2
  · rw [hidle] at h
    cases h.2

end Triage.Service
