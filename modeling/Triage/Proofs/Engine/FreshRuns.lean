import Triage.Pipeline
import Triage.Proofs.Engine.SameAnswers

/-!
# Runs do not leak into each other

The clients of the sources remember what they have found out in a run, and are made to forget it at the
beginning of the next one. They keep how they are set up, so that after forgetting they are as they were built
(`FanOut.SetUp.step`). A run therefore publishes what it would publish in a new engine with new clients on the same
host. An attempt that cannot load its findings publishes nothing. Main statement: `published_by_last_loaded`.
-/
namespace Triage

/-! ## What clients forget -/

/-- The clients remember nothing. -/
structure Clients.Blank (c : Clients) : Prop where
  catalog : c.catalog.loaded = none
  forecasts : c.forecasts.known = []
  advisories : c.advisories.known = []

/-- Clients are built so. -/
theorem Settings.blank_clients (s : Settings) (env : Environment) : (s.clients env).Blank := ⟨rfl, rfl, rfl⟩

namespace ExploitedCatalog.Client

theorem reset_load (c : Client) (h : Host) : (c.load h).1.2.reset = c.reset := by
  rw [(c.load_spec h).1]
  rfl

theorem reset_lookup (c : Client) (id : String) (h : Host) : (c.lookup id h).1.2.reset = c.reset := by
  rw [lookup_eq]
  cases Cve.validate id with
  | error e => rfl
  | ok cve => exact c.reset_load h

theorem reset_contribute (c : Client) (f : Finding) (h : Host) : (c.contribute f h).1.2.reset = c.reset := by
  simp only [contribute, bind_apply, pure_apply]
  exact c.reset_lookup f.cve h

theorem reset_prefetch (c : Client) (h : Host) : (c.prefetch h).1.2.reset = c.reset := by
  simp only [prefetch, bind_apply, pure_apply]
  exact c.reset_load h

end ExploitedCatalog.Client

namespace Forecasts.Client

theorem reset_fetch (c : Client) (ids : List String) (h : Host) : (c.fetch ids h).1.2.reset = c.reset := by
  obtain ⟨batches, hfetched, -⟩ := c.fetch_spec ids h
  rw [reset, reset, hfetched.url]

theorem reset_contribute (c : Client) (f : Finding) (h : Host) : (c.contribute f h).1.2.reset = c.reset := by
  simp only [contribute, bind_apply, pure_apply]
  exact c.reset_fetch [f.cve] h

theorem reset_prefetch (c : Client) (ids : List String) (h : Host) :
    (c.prefetch ids h).1.2.reset = c.reset := by
  simp only [prefetch, bind_apply, pure_apply]
  exact c.reset_fetch ids h

end Forecasts.Client

namespace Advisories.Client

theorem reset_find (c : Client) (cve : String) (h : Host) : (c.find cve h).1.2.reset = c.reset := by
  unfold find
  cases c.known.lookup cve with
  | some a => rfl
  | none =>
    dsimp only
    rw [bind_apply]
    cases (c.ask cve h).1 <;> rfl

theorem reset_contribute (c : Client) (f : Finding) (h : Host) : (c.contribute f h).1.2.reset = c.reset := by
  unfold contribute
  cases Cve.validate f.cve with
  | error e => rfl
  | ok cve =>
    simp only [bind_apply, pure_apply]
    exact c.reset_find cve h

end Advisories.Client

/-- The clients after a source has forgotten the run before. -/
def SourceId.wipe : SourceId → Clients → Clients
  | .catalog, c => { c with catalog := c.catalog.reset }
  | .forecasts, c => { c with forecasts := c.forecasts.reset }
  | .advisories, c => { c with advisories := c.advisories.reset }
  | .exploits, c => c

namespace SourceId

variable {id : SourceId} {ids : List SourceId} {c c' : Clients}

theorem wipe_wipe (id : SourceId) (c : Clients) : id.wipe (id.wipe c) = id.wipe c := by cases id <;> rfl

theorem wipe_comm (id other : SourceId) (c : Clients) : id.wipe (other.wipe c) = other.wipe (id.wipe c) := by
  cases id <;> cases other <;> rfl

theorem wipe_onCatalog {α : Type} (act : ExploitedCatalog.Client → Session (α × ExploitedCatalog.Client))
    (w : World) (h : (act w.clients.catalog w.host).1.2.reset = w.clients.catalog.reset) :
    wipe .catalog (World.onCatalog act w).2.clients = wipe .catalog w.clients :=
  congrArg (fun catalog => { w.clients with catalog }) h

theorem wipe_onForecasts {α : Type} (act : Forecasts.Client → Session (α × Forecasts.Client)) (w : World)
    (h : (act w.clients.forecasts w.host).1.2.reset = w.clients.forecasts.reset) :
    wipe .forecasts (World.onForecasts act w).2.clients = wipe .forecasts w.clients :=
  congrArg (fun forecasts => { w.clients with forecasts }) h

theorem wipe_onAdvisories {α : Type} (act : Advisories.Client → Session (α × Advisories.Client)) (w : World)
    (h : (act w.clients.advisories w.host).1.2.reset = w.clients.advisories.reset) :
    wipe .advisories (World.onAdvisories act w).2.clients = wipe .advisories w.clients :=
  congrArg (fun advisories => { w.clients with advisories }) h

theorem clients_onExploits {α : Type} (act : Exploits.Client → Session α) (w : World) :
    (World.onExploits act w).2.clients = w.clients := rfl

/-- A source that contributes changes nothing of the clients but what it forgets. -/
theorem wipe_contribute (id : SourceId) (f : Finding) (w : World) :
    id.wipe (id.source.contribute f w).2.clients = id.wipe w.clients := by
  cases id with
  | catalog =>
    simp only [source, Engine.catalogSource, wipe_onCatalog, ExploitedCatalog.Client.reset_contribute]
  | forecasts =>
    simp only [source, Engine.forecastSource, wipe_onForecasts, Forecasts.Client.reset_contribute]
  | advisories =>
    simp only [source, Engine.advisorySource, wipe_onAdvisories, Advisories.Client.reset_contribute]
  | exploits => simp only [source, Engine.exploitSource, wipe, clients_onExploits]

/-- Nor does one that prepares. -/
theorem wipe_prefetch (id : SourceId) {prefetch : List String → StateM World (Except Failure Unit)}
    (h : id.source.prefetch = some prefetch) (cves : List String) (w : World) :
    id.wipe (prefetch cves w).2.clients = id.wipe w.clients := by
  cases id with
  | catalog =>
    cases h
    exact wipe_onCatalog (·.prefetch) w (w.clients.catalog.reset_prefetch w.host)
  | forecasts =>
    cases h
    exact wipe_onForecasts (·.prefetch cves) w (w.clients.forecasts.reset_prefetch cves w.host)
  | advisories => cases h
  | exploits => cases h

/-- The clients after several sources have forgotten. -/
def wipeAll (ids : List SourceId) (c : Clients) : Clients := ids.foldl (fun c id => id.wipe c) c

theorem wipeAll_wipe (h : id ∈ ids) (c : Clients) : wipeAll ids (id.wipe c) = wipeAll ids c := by
  induction ids generalizing c with
  | nil => cases h
  | cons other ids ih =>
    rcases List.mem_cons.1 h with rfl | h
    · exact congrArg (wipeAll ids) (wipe_wipe id c)
    · calc wipeAll (other :: ids) (id.wipe c) = wipeAll ids (id.wipe (other.wipe c)) :=
            congrArg (wipeAll ids) (wipe_comm other id c)
        _ = wipeAll ids (other.wipe c) := ih h _

theorem wipeAll_congr (hid : id ∈ ids) (h : id.wipe c = id.wipe c') : wipeAll ids c = wipeAll ids c' := by
  rw [← wipeAll_wipe hid c, h, wipeAll_wipe hid]

theorem wipe_of_blank (h : c.Blank) (id : SourceId) : id.wipe c = c := by
  obtain ⟨catalog, forecasts, advisories, exploits⟩ := c
  obtain ⟨hcatalog, hforecasts, hadvisories⟩ := h
  cases id with
  | catalog => simp only [wipe, ExploitedCatalog.Client.reset, ← hcatalog]
  | forecasts => simp only [wipe, Forecasts.Client.reset, ← hforecasts]
  | advisories => simp only [wipe, Advisories.Client.reset, ← hadvisories]
  | exploits => rfl

theorem wipeAll_of_blank (h : c.Blank) (ids : List SourceId) : wipeAll ids c = c := by
  induction ids with
  | nil => rfl
  | cons id ids ih => exact (congrArg (wipeAll ids) (wipe_of_blank h id)).trans ih

end SourceId

namespace Engine

open SourceId (wipeAll)

/-! ## Clients in the course of a run -/

/-- After the sources have forgotten, the clients are as they were built. -/
def SetUp (ids : List SourceId) (built : Clients) (w : World) : Prop := wipeAll ids w.clients = built

section SetUp

variable {ids : List SourceId} {built : Clients} {w : World}

theorem resetAll_eq (ids : List SourceId) (w : World) :
    resetAll (ids.map SourceId.source) w = ((), { w with clients := wipeAll ids w.clients }) := by
  induction ids generalizing w with
  | nil => rfl
  | cons id ids ih =>
    have hreset : (id.source.reset.getD (pure ())) w = ((), { w with clients := id.wipe w.clients }) := by
      cases id <;> rfl
    rw [resetAll, List.map_cons, List.forM, bind_apply, hreset]
    exact ih { w with clients := id.wipe w.clients }

theorem SetUp.prefetchAll (h : SetUp ids built w) {asked : List SourceId} (hasked : asked ⊆ ids)
    (cves : List String) : SetUp ids built (prefetchAll (asked.map SourceId.source) cves w).2 := by
  unfold Engine.prefetchAll
  split
  · exact h
  · induction asked generalizing w with
    | nil => exact h
    | cons id asked ih =>
      obtain ⟨hid, hrest⟩ := List.cons_subset.1 hasked
      rw [List.map_cons, List.forM, bind_apply]
      refine ih ?_ hrest
      cases hprefetch : id.source.prefetch with
      | none => exact h
      | some prefetch =>
        exact (SourceId.wipeAll_congr hid (id.wipe_prefetch hprefetch cves w)).trans h

theorem SetUp.readyState (h : SetUp ids built w) (hbuilt : built.Blank) (fs : List Finding) :
    SetUp ids built (readyState (ids.map SourceId.source) fs w) := by
  refine SetUp.prefetchAll ?_ (List.Subset.refl _) _
  rw [resetAll_eq, h]
  exact SourceId.wipeAll_of_blank hbuilt ids

/-- The lookups are made in the sources, and their clients are set up. -/
structure FanOut.SetUp (ids : List SourceId) (built : Clients) (m : FanOut World) : Prop where
  sources : ∀ t ∈ m.tasks, t.source ∈ ids.map SourceId.source
  state : Engine.SetUp ids built m.run.state

namespace FanOut

variable {workers : Nat} {m m' : FanOut World}

/-- **A step keeps the clients set up**, if nothing outside does anything to them. -/
theorem SetUp.step {e : Event World} (h : m.SetUp ids built)
    (hout : ∀ w, e = .outside w → w.clients = m.run.state.clients) (hs : m.step workers e = some m') :
    m'.SetUp ids built := by
  refine ⟨fun t ht => ?_, ?_⟩
  · obtain ⟨t₀, ht₀, hsource, -⟩ := exists_mem_of_jobs (step_jobs hs) ht
    exact hsource ▸ h.sources t₀ ht₀
  cases e with
  | cancel => cases hs; exact h.state
  | outside w =>
    cases hs
    exact (congrArg (wipeAll ids) (hout w rfl)).trans h.state
  | move i mv =>
    obtain ⟨pre, t, post, p, r, ht, -, hmove, rfl⟩ := step_move hs
    obtain ⟨id, hid, hsource⟩ := List.mem_map.1 (h.sources t (by rw [ht]; simp))
    have hasked : Engine.SetUp ids built (ask t.source t.finding m.run.state).2 := by
      rw [(ask_apply _ _ _).1, ← hsource]
      exact (SourceId.wipeAll_congr hid (id.wipe_contribute _ _)).trans h.state
    cases hmove with
    | rejected _ ha _ => rwa [ha] at hasked
    | answered _ ha _ => rwa [ha] at hasked
    | _ => exact h.state

theorem SetUp.exec {es : List (Event World)} (h : m.SetUp ids built) (hinside : ∀ w, .outside w ∉ es)
    (hexec : m.exec workers es = some m') : m'.SetUp ids built := by
  refine exec_invariant (fun es m' => (∀ w, .outside w ∉ es) → m'.SetUp ids built) (fun _ => h) ?_ hexec
    hinside
  intro es e m₁ m₂ _ ih hs hinside
  refine (ih fun w hw => hinside w (List.mem_append_left _ hw)).step ?_ hs
  rintro w rfl
  exact absurd (List.mem_append_right _ List.mem_cons_self) (hinside w)

theorem setUp_start (hw : Engine.SetUp ids built w) (hbuilt : built.Blank) (fs : List Finding) :
    (start (ids.map SourceId.source) (fs.map prepare)
      (readyState (ids.map SourceId.source) fs w)).SetUp ids built :=
  ⟨fun _ ht => (mem_tasksOf ht).1, hw.readyState hbuilt fs⟩

end FanOut

end SetUp

/-! ## Attempts -/

/-- An event in a world in which nothing reaches the clients from outside. -/
def Event.within (w : World) : Event Host → Event World
  | .move i mv => .move i mv
  | .cancel => .cancel
  | .outside host => .outside { w with host }

/-- What a sequence of such events leads to, if they can happen in this order. -/
def FanOut.execWithin (workers : Nat) : FanOut World → List (Event Host) → Option (FanOut World)
  | m, [] => some m
  | m, e :: es => (m.step workers (e.within m.run.state)).bind fun m => execWithin workers m es

/-- How the lookups of a run are made: one after the other, or side by side while the host changes. -/
inductive Schedule where
  | oneByOne (canceled : Bool)
  | sideBySide (workers : Nat) (events : List (Event Host))

/-- What a run over findings leads to, if its lookups can be made so. -/
def Schedule.enrich (sources : List (Source World)) (fs : List Finding) (w : World) :
    Schedule → Option (Report × World)
  | .oneByOne canceled => some (Engine.enrich sources canceled fs w)
  | .sideBySide workers events => do
    let m ← (FanOut.start sources (fs.map prepare) (readyState sources fs w)).execWithin workers events
    if m.Finished then some (m.report sources (fs.map prepare), m.run.state) else none

/-- An attempt to run the engine. -/
structure Attempt where
  /-- What becomes of the host beforehand. -/
  meanwhile : Host → Host
  load : Option (Session (Except Failure (List Finding)))
  schedule : Schedule

namespace Attempt

/-- The world that an attempt begins in. -/
def world (a : Attempt) (w : World) : World := { w with host := a.meanwhile w.host }

def loaded (a : Attempt) (w : World) : Option (List Finding) × World :=
  match a.load with
  | none => (none, a.world w)
  | some load => ((World.onHost load (a.world w)).1.toOption, (World.onHost load (a.world w)).2)

/-- What an attempt leads to: the world after it, and what is published then. -/
def run (sources : List (Source World)) (a : Attempt) (w : World) (p : Publication) :
    Option (World × Publication) :=
  match a.loaded w with
  | (none, w) => some (w, p)
  | (some fs, w) =>
    (a.schedule.enrich sources fs w).map fun (report, w) =>
      (w, { findings := report.findings, stats := report.stats, lastRun := runTime w.host.now })

end Attempt

def runAll (sources : List (Source World)) :
    World → Publication → List Attempt → Option (World × Publication)
  | w, p, [] => some (w, p)
  | w, p, a :: attempts => (a.run sources w p).bind fun (w, p) => runAll sources w p attempts

def NoneLoads (sources : List (Source World)) : World → Publication → List Attempt → Prop
  | _, _, [] => True
  | w, p, a :: attempts =>
    (a.loaded w).1 = none ∧ ∀ w' p', a.run sources w p = some (w', p') → NoneLoads sources w' p' attempts

section Attempt

variable {ids : List SourceId} {built : Clients} {w w' : World} {p p' : Publication}

/-- **An attempt whose lookups are made one after the other** is a run of the engine. -/
theorem run_oneByOne (sources : List (Source World)) {a : Attempt} {canceled : Bool}
    (h : a.schedule = .oneByOne canceled) (w : World) (p : Publication) :
    a.run sources w p =
      let r := publish sources canceled (·.host.now) (a.load.map World.onHost) p (a.world w)
      some (r.2, r.1.2) := by
  unfold Attempt.run Attempt.loaded publish
  rw [h]
  cases a.load with
  | none => rfl
  | some load =>
    simp only [Option.map_some, bind_apply]
    cases (World.onHost load (a.world w)).1 <;> rfl

/-- Such attempts can always be made. -/
theorem exists_runAll (sources : List (Source World)) {attempts : List Attempt}
    (h : ∀ a ∈ attempts, ∃ canceled, a.schedule = .oneByOne canceled) (w : World) (p : Publication) :
    ∃ w' p', runAll sources w p attempts = some (w', p') := by
  induction attempts generalizing w p with
  | nil => exact ⟨w, p, rfl⟩
  | cons a attempts ih =>
    obtain ⟨canceled, ha⟩ := h a List.mem_cons_self
    obtain ⟨w', p', hrest⟩ := ih (fun b hb => h b (List.mem_cons_of_mem a hb)) _ _
    refine ⟨w', p', ?_⟩
    rw [runAll, run_oneByOne sources ha]
    exact hrest

/-- The clients have no part in loading. -/
theorem loaded_eq (a : Attempt) (w : World) :
    ∃ host, ∀ c, a.loaded { w with clients := c } = ((a.loaded w).1, { host, clients := c }) := by
  obtain ⟨meanwhile, load, schedule⟩ := a
  cases load with
  | none => exact ⟨meanwhile w.host, fun c => rfl⟩
  | some load => exact ⟨(load (meanwhile w.host)).2, fun c => rfl⟩

theorem setUp_execWithin {workers : Nat} {m m' : FanOut World} {es : List (Event Host)}
    (h : m.SetUp ids built) (hexec : m.execWithin workers es = some m') : m'.SetUp ids built := by
  induction es generalizing m with
  | nil => cases hexec; exact h
  | cons e es ih =>
    obtain ⟨m₁, hs, hrest⟩ := Option.bind_eq_some_iff.1 hexec
    refine ih (h.step ?_ hs) hrest
    intro w' hw'
    cases e with
    | move i mv => cases hw'
    | cancel => cases hw'
    | outside host => cases hw'; rfl

/-- A run leaves the clients set up. -/
theorem setUp_enrich {s : Schedule} {fs : List Finding} {report : Report} (hw : SetUp ids built w)
    (hbuilt : built.Blank) (h : s.enrich (ids.map SourceId.source) fs w = some (report, w')) :
    SetUp ids built w' := by
  have hstart := FanOut.setUp_start hw hbuilt fs
  cases s with
  | oneByOne canceled =>
    obtain ⟨es, m, hexec, -, -, hinside, hlookups⟩ :=
      exists_exec_lookups Nat.one_pos (ids.map SourceId.source) canceled fs w
    have hw' : w' = ((fs.map prepare).mapM (lookups canceled (ids.map SourceId.source))
        { state := readyState (ids.map SourceId.source) fs w }).2.state :=
      (congrArg Prod.snd (Option.some.inj h)).symm
    rw [hw', hlookups]
    exact (hstart.exec hinside hexec).state
  | sideBySide workers events =>
    obtain ⟨m, hexec, hm⟩ := Option.bind_eq_some_iff.1 h
    split at hm
    · cases hm
      exact (setUp_execWithin hstart hexec).state
    · cases hm

/-- A run begins with clients that have forgotten everything. -/
theorem enrich_of_setUp (hw : SetUp ids built w) (hbuilt : built.Blank) (s : Schedule) (fs : List Finding) :
    s.enrich (ids.map SourceId.source) fs w =
      s.enrich (ids.map SourceId.source) fs { w with clients := built } := by
  have hreset : resetAll (ids.map SourceId.source) w =
      resetAll (ids.map SourceId.source) { w with clients := built } := by
    rw [resetAll_eq, resetAll_eq, SourceId.wipeAll_of_blank hbuilt, hw]
  cases s with
  | oneByOne canceled =>
    simp only [Schedule.enrich, enrich, bind_apply, hreset]
  | sideBySide workers events =>
    simp only [Schedule.enrich, readyState, hreset]

/-- **What an attempt leaves behind does not show in the next one.** -/
theorem run_of_setUp (hw : SetUp ids built w) (hbuilt : built.Blank) {a : Attempt}
    (hloads : (a.loaded w).1.isSome) (p : Publication) :
    a.run (ids.map SourceId.source) w p = a.run (ids.map SourceId.source) { w with clients := built } {} := by
  obtain ⟨host, hloaded⟩ := loaded_eq a w
  obtain ⟨fs, hfs⟩ := Option.isSome_iff_exists.1 hloads
  unfold Attempt.run
  have hself := hloaded w.clients
  have hset : SetUp ids built { host, clients := w.clients } := hw
  rw [hself, hloaded built, hfs]
  simp only [enrich_of_setUp hset hbuilt]

theorem run_of_not_loaded (sources : List (Source World)) {a : Attempt} (h : (a.loaded w).1 = none)
    (p : Publication) : a.run sources w p = some ((a.loaded w).2, p) := by
  unfold Attempt.run
  rcases hl : a.loaded w with ⟨_ | fs, w'⟩
  · rfl
  · rw [hl] at h; cases h

theorem setUp_run (hw : SetUp ids built w) (hbuilt : built.Blank) {a : Attempt}
    (h : a.run (ids.map SourceId.source) w p = some (w', p')) : SetUp ids built w' := by
  obtain ⟨host, hloaded⟩ := loaded_eq a w
  have hself := hloaded w.clients
  have hset : SetUp ids built { host, clients := w.clients } := hw
  unfold Attempt.run at h
  rw [hself] at h
  cases hfs : (a.loaded w).1 with
  | none => rw [hfs] at h; cases h; exact hset
  | some fs =>
    rw [hfs] at h
    obtain ⟨⟨report, w''⟩, henrich, hw''⟩ := Option.map_eq_some_iff.1 h
    cases hw''
    exact setUp_enrich hset hbuilt henrich

end Attempt

/-- What is published in the end is what the last attempt that could load its findings publishes in a new engine
with the clients `built`, in the world that the attempts before it leave. -/
def PublishedFresh (sources : List (Source World)) (built : Clients) (w : World) (p₀ : Publication)
    (attempts : List Attempt) (p : Publication) : Prop :=
  ∃ before a after w₁ p₁ w₂, attempts = before ++ a :: after ∧
    runAll sources w p₀ before = some (w₁, p₁) ∧ (a.loaded w₁).1.isSome ∧
    a.run sources w₁ p₁ = some (w₂, p) ∧ a.run sources { w₁ with clients := built } {} = some (w₂, p) ∧
    NoneLoads sources w₂ p after

/-- **Attempt after attempt**: each begins with clients that are set up, and leaves them so. -/
theorem published_of_setUp {ids : List SourceId} {built : Clients} (hbuilt : built.Blank)
    {attempts : List Attempt} {w w' : World} {p₀ p : Publication} (hw : SetUp ids built w)
    (h : runAll (ids.map SourceId.source) w p₀ attempts = some (w', p)) :
    PublishedFresh (ids.map SourceId.source) built w p₀ attempts p ∨
      NoneLoads (ids.map SourceId.source) w p₀ attempts ∧ p = p₀ := by
  induction attempts generalizing w p₀ with
  | nil => cases h; exact .inr ⟨trivial, rfl⟩
  | cons a attempts ih =>
    obtain ⟨⟨w₁, p₁⟩, hrun, hrest⟩ := Option.bind_eq_some_iff.1 h
    rcases ih (setUp_run hw hbuilt hrun) hrest with hlater | ⟨hnone, rfl⟩
    · obtain ⟨before, b, after, w₂, p₂, w₃, rfl, hbefore, hb⟩ := hlater
      refine .inl ⟨a :: before, b, after, w₂, p₂, w₃, rfl, ?_, hb⟩
      rw [runAll, hrun]
      exact hbefore
    · cases hloaded : (a.loaded w).1 with
      | some fs =>
        have hloads : (a.loaded w).1.isSome := by rw [hloaded]; rfl
        exact .inl ⟨[], a, attempts, w, p₀, w₁, rfl, rfl, hloads, hrun,
          (run_of_setUp hw hbuilt hloads p₀).symm.trans hrun, hnone⟩
      | none =>
        rw [run_of_not_loaded _ hloaded] at hrun
        cases hrun
        refine .inr ⟨⟨hloaded, fun w' p' hrun => ?_⟩, rfl⟩
        rw [run_of_not_loaded _ hloaded] at hrun
        cases hrun
        exact hnone

/-- **Runs do not leak into each other.** After any attempts to run an engine whose clients were built for it,
while the host changes in any way, what is published is what the last attempt that could load its findings
publishes with new clients and nothing published before; if there is none, nothing has been published. An attempt
that cannot load its findings publishes nothing, and one whose lookups are made one after the other is a run of
the engine. -/
theorem published_by_last_loaded (ids : List SourceId) {w₀ w : World} (hbuilt : w₀.clients.Blank)
    {attempts : List Attempt} {p : Publication}
    (h : runAll (ids.map SourceId.source) w₀ {} attempts = some (w, p)) :
    (PublishedFresh (ids.map SourceId.source) w₀.clients w₀ {} attempts p ∨
      NoneLoads (ids.map SourceId.source) w₀ {} attempts ∧ p = {}) ∧
    (∀ (a : Attempt) (w : World) (p : Publication), (a.loaded w).1 = none →
      a.run (ids.map SourceId.source) w p = some ((a.loaded w).2, p)) ∧
    ∀ (a : Attempt) (canceled : Bool), a.schedule = .oneByOne canceled → ∀ (w : World) (p : Publication),
      a.run (ids.map SourceId.source) w p =
        let r := publish (ids.map SourceId.source) canceled (·.host.now) (a.load.map World.onHost) p (a.world w)
        some (r.2, r.1.2) :=
  ⟨published_of_setUp hbuilt (SourceId.wipeAll_of_blank hbuilt ids) h,
    fun _ _ p hloaded => run_of_not_loaded _ hloaded p, fun _ _ hs w p => run_oneByOne _ hs w p⟩

/-- A run that finds all servers, one that finds none, and one that has nothing to load. -/
def fadingAttempts : List Attempt :=
  [ { meanwhile := id, load := some fun h => (.ok [carriedFinding], h), schedule := .oneByOne false },
    { meanwhile := fun h => { h with network := fun _ => .failed .timeout }
      load := some fun h => (.ok [carriedFinding], h), schedule := .oneByOne false },
    { meanwhile := id, load := none, schedule := .oneByOne false } ]

theorem published_by_last_loaded_fading :
    ∃ w p, listingWorld.clients.Blank ∧
      runAll (SourceId.all.map SourceId.source) listingWorld {} fadingAttempts = some (w, p) ∧
      PublishedFresh (SourceId.all.map SourceId.source) listingWorld.clients listingWorld {} fadingAttempts p := by
  have hbuilt : listingWorld.clients.Blank := ⟨rfl, rfl, rfl⟩
  obtain ⟨w, p, h⟩ := @exists_runAll (SourceId.all.map SourceId.source) fadingAttempts
    (by simp [fadingAttempts]) listingWorld {}
  refine ⟨w, p, hbuilt, h, ?_⟩
  rcases (published_by_last_loaded SourceId.all hbuilt h).1 with hfresh | ⟨hnone, -⟩
  · exact hfresh
  · cases hnone.1

end Engine

end Triage
