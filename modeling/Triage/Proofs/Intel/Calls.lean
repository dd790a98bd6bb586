import Triage.Proofs.Intel.Contributions
import Triage.Proofs.Intel.OncePerRun

/-!
# Calls between two resets

A run of the engine, or anybody else, calls the clients of the catalog and of the forecasts in some order.
Each call finds the surroundings as they are at that moment: the network, the disk, the cache and the clock
may be anything. What the clients remember after all calls tells what every single one of them answered
(`answer_of_mem_seen`), so that answers about a vulnerability are alike. The requests of all calls together
load the catalog once at most (`length_catalogRequests`) and ask for no forecast twice
(`exists_batches`).
-/
namespace Triage

/-- A call of the client of the catalog or of the forecasts. -/
inductive Call where
  | prefetchCatalog
  | status (id : String)
  | statusChange (f : Finding)
  | prefetchForecasts (ids : List String)
  | forecasts (ids : List String)
  | forecastChange (f : Finding)

/-- What a call answers. -/
inductive Answer where
  | prefetched (result : Except Failure Unit)
  | status (result : Except Failure ExploitedStatus)
  | forecasts (result : Except Failure (List (String × Forecast)))
  | change (result : Except Failure (Finding → Finding))

namespace Call

def ofCatalog : Call → Bool
  | prefetchCatalog | status _ | statusChange _ => true
  | prefetchForecasts _ | forecasts _ | forecastChange _ => false

/-- The identifiers of vulnerabilities that a call asks forecasts for. -/
def ids : Call → List String
  | prefetchForecasts ids | forecasts ids => ids
  | forecastChange f => [f.cve]
  | _ => []

end Call

def Call.run (c : Clients) : Call → Session (Answer × Clients)
  | .prefetchCatalog => do
    let (result, client) ← c.catalog.prefetch
    return (.prefetched result, { c with catalog := client })
  | .status id => do
    let (result, client) ← c.catalog.lookup id
    return (.status result, { c with catalog := client })
  | .statusChange f => do
    let (result, client) ← c.catalog.contribute f
    return (.change result, { c with catalog := client })
  | .prefetchForecasts ids => do
    let (result, client) ← c.forecasts.prefetch ids
    return (.prefetched result, { c with forecasts := client })
  | .forecasts ids => do
    let (result, client) ← c.forecasts.fetch ids
    return (.forecasts result, { c with forecasts := client })
  | .forecastChange f => do
    let (result, client) ← c.forecasts.contribute f
    return (.change result, { c with forecasts := client })

/-! ## What is remembered -/

namespace Clients

/-- The clients with nothing remembered. -/
def reset (c : Clients) : Clients := { c with catalog := c.catalog.reset, forecasts := c.forecasts.reset }

def status (c : Clients) (cve : String) : ExploitedStatus := ExploitedCatalog.verdict c.catalog.loaded cve

def score (c : Clients) (cve : String) : Forecast := (c.forecasts.known.lookup cve).getD {}

/-- What `c` remembers, `c'` remembers as well. -/
structure Grows (c c' : Clients) : Prop where
  loaded : ∀ result, c.catalog.loaded = some result → c'.catalog.loaded = some result
  url : c'.forecasts.url = c.forecasts.url
  known : ∀ cve s, c.forecasts.known.lookup cve = some s → c'.forecasts.known.lookup cve = some s

namespace Grows

variable {c c' c'' : Clients}

theorem refl (c : Clients) : c.Grows c := ⟨fun _ h => h, rfl, fun _ _ h => h⟩

theorem trans (h : c.Grows c') (h' : c'.Grows c'') : c.Grows c'' where
  loaded result hr := h'.loaded result (h.loaded result hr)
  url := h'.url.trans h.url
  known cve s hs := h'.known cve s (h.known cve s hs)

theorem isSome_loaded (h : c.Grows c') (hs : c.catalog.loaded.isSome) : c'.catalog.loaded.isSome := by
  obtain ⟨result, hr⟩ := Option.isSome_iff_exists.1 hs
  exact Option.isSome_iff_exists.2 ⟨result, h.loaded result hr⟩

theorem isSome_known (h : c.Grows c') {cve : String} (hs : (c.forecasts.known.lookup cve).isSome) :
    (c'.forecasts.known.lookup cve).isSome := by
  obtain ⟨s, hs⟩ := Option.isSome_iff_exists.1 hs
  exact Option.isSome_iff_exists.2 ⟨s, h.known cve s hs⟩

/-- A remembered forecast stays. -/
theorem score_eq (h : c.Grows c') {cve : String} (hs : (c.forecasts.known.lookup cve).isSome) :
    c'.score cve = c.score cve := by
  obtain ⟨s, hs⟩ := Option.isSome_iff_exists.1 hs
  rw [score, score, hs, h.known cve s hs]

end Grows

end Clients

def Call.answer (c : Clients) : Call → Answer
  | .prefetchCatalog =>
    match c.catalog.loaded with
    | some (.error e) => .prefetched (.error e)
    | _ => .prefetched (.ok ())
  | .status id => .status ((Cve.validate id).map c.status)
  | .statusChange f => .change ((Cve.validate f.cve).map fun cve => ExploitedCatalog.apply (c.status cve))
  | .prefetchForecasts ids => .prefetched ((ids.mapM Cve.validate).map fun _ => ())
  | .forecasts ids => .forecasts ((ids.mapM Cve.validate).map fun cves =>
      (Listing.distinct cves).map fun cve => (cve, c.score cve))
  | .forecastChange f => .change ((Cve.validate f.cve).map fun cve => Forecasts.apply (c.score cve))

namespace Call

variable (c : Clients) (h : Host)

/-! ## One call -/

/-- What a call of the client of the catalog does: nothing, if there is nothing to look for, or else it
loads the catalog and answers from it. -/
theorem run_eq_load {call : Call} (hcall : call.ofCatalog = true) :
    (∃ a, call.run c h = ((a, c), h) ∧ ∀ later, a = call.answer later) ∨
      ∃ a, call.run c h = ((a, { c with catalog := (c.catalog.load h).1.2 }), (c.catalog.load h).2) ∧
        ∀ later : Clients, later.catalog.loaded = some (c.catalog.load h).1.1 → a = call.answer later := by
  cases call with
  | prefetchCatalog =>
    refine .inr ⟨.prefetched ((c.catalog.load h).1.1.map fun _ => ()), rfl, fun later hl => ?_⟩
    simp only [answer, hl]
    cases (c.catalog.load h).1.1 <;> rfl
  | status id =>
    have hrun : Call.run c (.status id) h =
        ((.status (c.catalog.lookup id h).1.1, { c with catalog := (c.catalog.lookup id h).1.2 }),
          (c.catalog.lookup id h).2) := by
      simp only [Call.run, bind_apply, pure_apply]
    rw [hrun, ExploitedCatalog.Client.lookup_eq]
    cases hv : Cve.validate id with
    | error e => exact .inl ⟨.status (.error e), rfl, fun later => by simp only [answer, hv]; rfl⟩
    | ok cve =>
      refine .inr ⟨_, rfl, fun later hl => ?_⟩
      simp only [answer, hv, Clients.status, hl, Except.map]
  | statusChange f =>
    have hrun : Call.run c (.statusChange f) h =
        ((.change ((c.catalog.lookup f.cve h).1.1.map ExploitedCatalog.apply),
          { c with catalog := (c.catalog.lookup f.cve h).1.2 }), (c.catalog.lookup f.cve h).2) := by
      simp only [Call.run, ExploitedCatalog.Client.contribute, bind_apply, pure_apply]
    rw [hrun, ExploitedCatalog.Client.lookup_eq]
    cases hv : Cve.validate f.cve with
    | error e => exact .inl ⟨.change (.error e), rfl, fun later => by simp only [answer, hv]; rfl⟩
    | ok cve =>
      refine .inr ⟨_, rfl, fun later hl => ?_⟩
      simp only [answer, hv, Clients.status, hl, Except.map]
  | prefetchForecasts ids => cases hcall
  | forecasts ids => cases hcall
  | forecastChange f => cases hcall

/-- **A call of the client of the catalog** answers from what is remembered from then on. It sends one
request at most, and none if a result of loading the catalog is remembered already. -/
theorem run_catalog {call : Call} (hcall : call.ofCatalog = true) :
    c.Grows (call.run c h).1.2 ∧
      (∀ later, (call.run c h).1.2.Grows later → (call.run c h).1.1 = call.answer later) ∧
      (call.run c h).1.2.forecasts = c.forecasts ∧
      ∃ requests, (call.run c h).2.sent = requests ++ h.sent ∧ requests.length ≤ 1 ∧
        (requests ≠ [] → c.catalog.loaded = none ∧ (call.run c h).1.2.catalog.loaded.isSome) := by
  rcases run_eq_load c h hcall with ⟨a, hrun, ha⟩ | ⟨a, hrun, ha⟩
  · rw [hrun]
    exact ⟨.refl c, fun later _ => ha later, rfl, [], rfl, by simp, by simp⟩
  · rw [hrun]
    obtain ⟨hc, hsent⟩ := c.catalog.load_spec h
    have hloaded : (c.catalog.load h).1.2.loaded = some (c.catalog.load h).1.1 := by rw [hc]
    refine ⟨⟨fun result hr => ?_, rfl, fun _ _ hs => hs⟩, fun later hl => ha later (hl.loaded _ hloaded), rfl, ?_⟩
    · rcases hsent with ⟨hsome, -⟩ | ⟨hnone, -⟩
      · rw [hsome] at hr
        cases hr
        exact hloaded
      · rw [hnone] at hr
        cases hr
    · rcases hsent with ⟨-, hsent⟩ | ⟨hnone, requests, hlen, hsent⟩
      · exact ⟨[], hsent, by simp, by simp⟩
      · exact ⟨requests, hsent, hlen, fun _ => ⟨hnone, Option.isSome_iff_exists.2 ⟨_, hloaded⟩⟩⟩

/-- What a call of the client of the forecasts does. -/
theorem run_eq_fetch {call : Call} (hcall : call.ofCatalog = false) :
    ∃ a, call.run c h = ((a, { c with forecasts := (c.forecasts.fetch call.ids h).1.2 }),
        (c.forecasts.fetch call.ids h).2) ∧
      ∀ later : Clients, (c.forecasts.fetch call.ids h).1.1 = (call.ids.mapM Cve.validate).map
        (fun cves => (Listing.distinct cves).map fun cve => (cve, later.score cve)) →
        a = call.answer later := by
  cases call with
  | prefetchCatalog => cases hcall
  | status id => cases hcall
  | statusChange f => cases hcall
  | prefetchForecasts ids =>
    refine ⟨.prefetched ((c.forecasts.fetch ids h).1.1.map fun _ => ()), rfl, fun later hl => ?_⟩
    simp only [Call.ids] at hl
    rw [hl, answer]
    cases ids.mapM Cve.validate <;> rfl
  | forecasts ids =>
    refine ⟨.forecasts (c.forecasts.fetch ids h).1.1, rfl, fun later hl => ?_⟩
    simp only [Call.ids] at hl
    rw [hl, answer]
  | forecastChange f =>
    refine ⟨.change ((c.forecasts.fetch [f.cve] h).1.1.map fun fs =>
      Forecasts.apply (Forecasts.among fs (Cve.canonical? f.cve))), ?_, fun later hl => ?_⟩
    · simp only [Call.run, Forecasts.Client.contribute, bind_apply, pure_apply, Call.ids]
    simp only [Call.ids, List.mapM_cons, List.mapM_nil] at hl
    rw [hl, answer]
    cases hv : Cve.validate f.cve with
    | error e => rfl
    | ok cve =>
      have hcanonical : Cve.canonical? f.cve = some cve := by rw [Cve.canonical?, hv]; rfl
      have hamong : Forecasts.among [(cve, later.score cve)] (some cve) = later.score cve := by
        simp [Forecasts.among]
      rw [hcanonical]
      exact congrArg (fun s => Answer.change (.ok (Forecasts.apply s))) hamong

/-- **A call of the client of the forecasts** answers from what is remembered from then on, and asks only
for what is not. -/
theorem run_forecasts {call : Call} (hcall : call.ofCatalog = false) :
    c.Grows (call.run c h).1.2 ∧
      (∀ later, (call.run c h).1.2.Grows later → (call.run c h).1.1 = call.answer later) ∧
      (call.run c h).1.2.catalog = c.catalog ∧
      ∃ batches, (call.run c h).2.sent =
          (batches.filterMap (Forecasts.request? c.forecasts.url)).reverse ++ h.sent ∧
        Forecasts.Fetched c.forecasts (call.run c h).1.2.forecasts (Forecasts.canonicals call.ids)
          batches := by
  obtain ⟨a, hrun, ha⟩ := run_eq_fetch c h hcall
  obtain ⟨batches, hfetched, hsent, hresult⟩ := c.forecasts.fetch_spec call.ids h
  rw [hrun]
  refine ⟨⟨fun _ hr => hr, hfetched.url, hfetched.kept⟩, fun later hl => ha later ?_, rfl, batches, hsent,
    hfetched⟩
  rw [hresult]
  cases hv : call.ids.mapM Cve.validate with
  | error e => rfl
  | ok cves =>
    refine congrArg Except.ok (List.map_congr_left fun cve hcve => ?_)
    have hsome := hfetched.known cve
      (by simpa [Forecasts.canonicals, hv, Except.toOption] using Listing.mem_distinct.1 hcve)
    exact congrArg (cve, ·) (hl.score_eq hsome).symm

theorem isSome_loaded_of_prefetch : (Call.prefetchCatalog.run c h).1.2.catalog.loaded.isSome := by
  obtain ⟨hc, -⟩ := c.catalog.load_spec h
  have hrun : (Call.prefetchCatalog.run c h).1.2.catalog = (c.catalog.load h).1.2 := rfl
  rw [hrun, hc]
  rfl

theorem grows_run (call : Call) : c.Grows (call.run c h).1.2 := by
  cases hcall : call.ofCatalog with
  | true => exact (run_catalog c h hcall).1
  | false => exact (run_forecasts c h hcall).1

theorem answer_of_run (call : Call) {later : Clients} (hl : (call.run c h).1.2.Grows later) :
    (call.run c h).1.1 = call.answer later := by
  cases hcall : call.ofCatalog with
  | true => exact (run_catalog c h hcall).2.1 later hl
  | false => exact (run_forecasts c h hcall).2.1 later hl

end Call

/-! ## Many calls -/

/-- A call and the surroundings that it finds. -/
structure Step where
  call : Call
  host : Host

/-- A call with its answer and with the requests that were sent for it, in their order. -/
structure Seen where
  call : Call
  answer : Answer
  requests : List Request

namespace Clients

/-- Makes a call in its surroundings. What others have sent before is left out. -/
def make (c : Clients) (s : Step) : (Answer × Clients) × Host := s.call.run c { s.host with sent := [] }

def observe (c : Clients) (s : Step) : Seen := ⟨s.call, (c.make s).1.1, (c.make s).2.sent.reverse⟩

def after (c : Clients) (steps : List Step) : Clients := steps.foldl (fun c s => (c.make s).1.2) c

def seen : Clients → List Step → List Seen
  | _, [] => []
  | c, s :: steps => c.observe s :: seen (c.make s).1.2 steps

def catalogRequests (l : List Seen) : List Request :=
  (l.filter (·.call.ofCatalog)).flatMap (·.requests)

def forecastRequests (l : List Seen) : List Request :=
  (l.filter (!·.call.ofCatalog)).flatMap (·.requests)

variable {c : Clients}

theorem grows_after (c : Clients) (steps : List Step) : c.Grows (c.after steps) := by
  induction steps generalizing c with
  | nil => exact .refl c
  | cons s steps ih => exact (Call.grows_run c _ s.call).trans (ih (c.make s).1.2)

/-- **What the clients remember in the end** tells what every call answered. -/
theorem answer_of_mem_seen {steps : List Step} {later : Clients} (hl : (c.after steps).Grows later) {x : Seen}
    (hx : x ∈ c.seen steps) : x.answer = x.call.answer later := by
  induction steps generalizing c with
  | nil => cases hx
  | cons s steps ih =>
    rcases List.mem_cons.1 hx with rfl | hx
    · exact Call.answer_of_run c _ s.call ((grows_after (c.make s).1.2 steps).trans hl)
    · exact ih hl hx

theorem call_of_mem_seen {steps : List Step} {x : Seen} (hx : x ∈ c.seen steps) : x.call ∈ steps.map Step.call := by
  induction steps generalizing c with
  | nil => cases hx
  | cons s steps ih =>
    rcases List.mem_cons.1 hx with rfl | hx
    · exact List.mem_cons_self
    · exact List.mem_cons_of_mem _ (ih hx)

/-- **The catalog is requested once at most**, and not at all if an attempt to load it is remembered. -/
theorem length_catalogRequests (c : Clients) (steps : List Step) :
    (catalogRequests (c.seen steps)).length ≤ if c.catalog.loaded.isSome then 0 else 1 := by
  induction steps generalizing c with
  | nil => exact Nat.zero_le _
  | cons s steps ih =>
    have hrest := ih (c.make s).1.2
    cases hcall : s.call.ofCatalog with
    | true =>
      obtain ⟨hgrows, -, -, requests, hsent, hone, honce⟩ :=
        Call.run_catalog c { s.host with sent := [] } hcall
      have hsplit : catalogRequests (c.seen (s :: steps)) =
          requests.reverse ++ catalogRequests (seen (c.make s).1.2 steps) := by
        have hmake : (c.make s).2.sent = requests := hsent.trans (List.append_nil _)
        simp only [catalogRequests, seen, observe, List.filter_cons, hcall, if_true, List.flatMap_cons, hmake]
      rw [hsplit, List.length_append, List.length_reverse]
      by_cases hr : requests = []
      · subst hr
        cases hl : c.catalog.loaded.isSome with
        | true =>
          have hkept : (c.make s).1.2.catalog.loaded.isSome := hgrows.isSome_loaded hl
          rw [hkept] at hrest
          simpa using hrest
        | false =>
          refine Nat.le_trans (by simpa using hrest) ?_
          split <;> simp
      · obtain ⟨hnone, hsome⟩ := honce hr
        have hkept : (c.make s).1.2.catalog.loaded.isSome := hsome
        rw [hkept] at hrest
        simp only [hnone, Option.isSome_none, Bool.false_eq_true, if_false]
        simp only [if_true] at hrest
        omega
    | false =>
      have hsame : (c.make s).1.2.catalog = c.catalog := (Call.run_forecasts c _ hcall).2.2.1
      rw [hsame] at hrest
      simpa [catalogRequests, seen, observe, hcall] using hrest

/-- **No forecast is asked for twice**: the requests of all calls are those for some batches, in which no
vulnerability occurs twice, none that was remembered before, and each is remembered in the end. -/
theorem exists_batches (c : Clients) (steps : List Step) :
    ∃ batches : List (List String), batches.flatten.Nodup ∧
      (∀ cve ∈ batches.flatten, c.forecasts.known.lookup cve = none) ∧
      forecastRequests (c.seen steps) = batches.filterMap (Forecasts.request? c.forecasts.url) := by
  induction steps generalizing c with
  | nil => exact ⟨[], List.nodup_nil, by simp, rfl⟩
  | cons s steps ih =>
    obtain ⟨batches, hnodup, hunknown, hrequests⟩ := ih (c.make s).1.2
    cases hcall : s.call.ofCatalog with
    | true =>
      have hsame : (c.make s).1.2.forecasts = c.forecasts := (Call.run_catalog c _ hcall).2.2.1
      rw [hsame] at hunknown hrequests
      refine ⟨batches, hnodup, hunknown, ?_⟩
      rw [← hrequests]
      simp [forecastRequests, seen, observe, hcall]
    | false =>
      obtain ⟨hgrows, -, -, first, hsent, hfetched⟩ :=
        Call.run_forecasts c { s.host with sent := [] } hcall
      have hmake : (c.make s).2.sent.reverse = first.filterMap (Forecasts.request? c.forecasts.url) := by
        rw [make, hsent, List.append_nil, List.reverse_reverse]
      have hurl : (c.make s).1.2.forecasts.url = c.forecasts.url := hgrows.url
      -- Whatever the first call asks for is known to the others.
      have hdisjoint : ∀ cve ∈ first.flatten, ∀ other ∈ batches.flatten, cve ≠ other := by
        rintro cve hcve _ hother rfl
        have hsome : ((c.make s).1.2.forecasts.known.lookup cve).isSome :=
          hfetched.known cve (hfetched.wanted hcve)
        rw [hunknown cve hother] at hsome
        cases hsome
      refine ⟨first ++ batches, ?_, ?_, ?_⟩
      · rw [List.flatten_append]
        exact List.nodup_append.2 ⟨hfetched.nodup, hnodup, hdisjoint⟩
      · intro cve hcve
        rw [List.flatten_append] at hcve
        rcases List.mem_append.1 hcve with hcve | hcve
        · exact hfetched.unknown cve hcve
        · rw [← Option.not_isSome_iff_eq_none]
          intro hsome
          have hkept : ((c.make s).1.2.forecasts.known.lookup cve).isSome := hgrows.isSome_known hsome
          rw [hunknown cve hcve] at hkept
          cases hkept
      · rw [List.filterMap_append, ← hmake, ← hurl, ← hrequests]
        simp [forecastRequests, seen, observe, hcall]

/-! ### After a prefetch -/

theorem isSome_loaded_after {steps : List Step} (h : .prefetchCatalog ∈ steps.map Step.call) :
    (c.after steps).catalog.loaded.isSome := by
  induction steps generalizing c with
  | nil => cases h
  | cons s steps ih =>
    rcases List.mem_cons.1 h with hs | h
    · have hsome : (c.make s).1.2.catalog.loaded.isSome := by
        rw [make, ← hs]
        exact Call.isSome_loaded_of_prefetch c _
      exact (grows_after (c.make s).1.2 steps).isSome_loaded hsome
    · exact ih h

/-- All vulnerabilities that a call asks forecasts for are known after it. -/
theorem isSome_known_of_call {steps : List Step} {call : Call} (h : call ∈ steps.map Step.call)
    (hcall : call.ofCatalog = false) {cve : String} (hcve : cve ∈ Forecasts.canonicals call.ids) :
    ((c.after steps).forecasts.known.lookup cve).isSome := by
  induction steps generalizing c with
  | nil => cases h
  | cons s steps ih =>
    rcases List.mem_cons.1 h with rfl | h
    · obtain ⟨-, -, -, batches, -, hfetched⟩ := Call.run_forecasts c { s.host with sent := [] } hcall
      have hsome : ((c.make s).1.2.forecasts.known.lookup cve).isSome := hfetched.known cve hcve
      exact (grows_after (c.make s).1.2 steps).isSome_known hsome
    · exact ih h

theorem isSome_known_after {steps : List Step} {ids : List String}
    (h : .prefetchForecasts ids ∈ steps.map Step.call) {cve : String}
    (hcve : cve ∈ Forecasts.canonicals ids) : ((c.after steps).forecasts.known.lookup cve).isSome :=
  isSome_known_of_call h rfl hcve

/-- Once the catalog has been tried, no call of its client sends anything. -/
theorem requests_of_loaded {s : Step} (hcall : s.call.ofCatalog = true) (h : c.catalog.loaded.isSome) :
    (c.observe s).requests = [] := by
  obtain ⟨-, -, -, requests, hsent, -, honce⟩ := Call.run_catalog c { s.host with sent := [] } hcall
  have hr : requests = [] := by
    by_contra hr
    rw [(honce hr).1] at h
    cases h
  rw [observe, make, hsent, hr]
  rfl

/-- Once all vulnerabilities of a call are known, it sends nothing. -/
theorem requests_of_known {s : Step} (hcall : s.call.ofCatalog = false)
    (h : ∀ cve ∈ Forecasts.canonicals s.call.ids, (c.forecasts.known.lookup cve).isSome) :
    (c.observe s).requests = [] := by
  obtain ⟨-, -, -, batches, hsent, hfetched⟩ := Call.run_forecasts c { s.host with sent := [] } hcall
  rw [observe, make, hsent, hfetched.batches_eq_nil h]
  rfl

end Clients

end Triage
