import Triage.Proofs.Cve
import Triage.Proofs.Engine.GivingUp
import Triage.Proofs.Intel.Calls
import Triage.Proofs.Intel.Contributions
import Triage.Proofs.Ranking

/-!
# One answer for all findings of a vulnerability

In a run of the engine the clients of the catalog and of the forecasts are called by many lookups, in any
order. All lookups that reach them get what the clients remember in the end, and they never fail. So in a
run that is not called off, findings with the same identifier carry the same status and the same forecast.
-/
namespace Triage.Engine

open Clients (Grows)
open SideBySide (forall_mem_replace)

/-! ## Lookups as calls -/

theorem run_statusChange (f : Finding) (w : World) :
    (Call.statusChange f).run w.clients w.host =
      ((.change (catalogSource.contribute f w).1, (catalogSource.contribute f w).2.clients),
        (catalogSource.contribute f w).2.host) := by
  simp only [Call.run, catalogSource, World.onCatalog, bind_apply, pure_apply]
  rcases w.clients.catalog.contribute f w.host with ⟨⟨a, c⟩, host⟩
  rfl

theorem run_forecastChange (f : Finding) (w : World) :
    (Call.forecastChange f).run w.clients w.host =
      ((.change (forecastSource.contribute f w).1, (forecastSource.contribute f w).2.clients),
        (forecastSource.contribute f w).2.host) := by
  simp only [Call.run, forecastSource, World.onForecasts, bind_apply, pure_apply]
  rcases w.clients.forecasts.contribute f w.host with ⟨⟨a, c⟩, host⟩
  rfl

/-- A source that remembers: what it contributes is told by what the clients remember from then on. -/
structure Remembers (s : Source World) (told : Clients → String → Contribution) : Prop where
  mem : s ∈ allSources
  contribute : ∀ f w cve later, Cve.validate f.cve = .ok cve → (s.contribute f w).2.clients.Grows later →
    (s.contribute f w).1 = .ok (told later cve)

theorem remembers_catalog :
    Remembers catalogSource fun later cve => ExploitedCatalog.apply (later.status cve) where
  mem := List.mem_cons_self
  contribute f w cve later hv hl := by
    have h := @Call.answer_of_run w.clients w.host (.statusChange f) later
    rw [run_statusChange] at h
    generalize catalogSource.contribute f w = r at h hl ⊢
    have h := h hl
    simp only [Call.answer, hv] at h
    exact Answer.change.inj h

theorem remembers_forecasts :
    Remembers forecastSource fun later cve => Forecasts.apply (later.score cve) where
  mem := List.mem_cons_of_mem _ List.mem_cons_self
  contribute f w cve later hv hl := by
    have h := @Call.answer_of_run w.clients w.host (.forecastChange f) later
    rw [run_forecastChange] at h
    generalize forecastSource.contribute f w = r at h hl ⊢
    have h := h hl
    simp only [Call.answer, hv] at h
    exact Answer.change.inj h

/-- No source makes the clients forget. -/
theorem grows_contribute {s : Source World} (hs : s ∈ allSources) (f : Finding) (w : World) :
    w.clients.Grows (s.contribute f w).2.clients := by
  simp only [allSources, List.mem_cons, List.not_mem_nil, or_false] at hs
  obtain rfl | rfl | rfl | rfl := hs
  · have h := Call.grows_run w.clients w.host (.statusChange f)
    rw [run_statusChange] at h
    generalize catalogSource.contribute f w = r at h ⊢
    exact h
  · have h := Call.grows_run w.clients w.host (.forecastChange f)
    rw [run_forecastChange] at h
    generalize forecastSource.contribute f w = r at h ⊢
    exact h
  · simp only [advisorySource, World.onAdvisories]
    rcases w.clients.advisories.contribute f w.host with ⟨⟨a, c⟩, host⟩
    exact ⟨fun _ h => h, rfl, fun _ _ h => h⟩
  · simp only [exploitSource, World.onExploits]
    rcases w.clients.exploits.contribute f w.host with ⟨a, host⟩
    exact .refl _

theorem eq_of_name_eq {s s' : Source World} (hs : s ∈ allSources) (hs' : s' ∈ allSources)
    (h : s.name = s'.name) : s = s' := by
  have hnodup : (allSources.map (·.name)).Nodup := by decide
  exact List.inj_on_of_nodup_map hnodup hs hs' h

/-! ## The lookups of a run -/

theorem ask_apply (s : Source World) (f : Finding) (w : World) :
    (ask s f w).2 = (s.contribute f w).2 ∧
      ∀ change, (s.contribute f w).1 = .ok change → (ask s f w).1 = .contributed change := by
  unfold ask
  rw [bind_apply]
  rcases s.contribute f w with ⟨_ | change, w'⟩
  · exact ⟨rfl, fun _ h => nomatch h⟩
  · exact ⟨rfl, fun _ h => by cases h; rfl⟩

def Phase.come? : Phase → Option Outcome
  | .rejected o | .settled o | .done o => some o
  | _ => none

/-- The lookup is one of a run of all sources over findings whose identifiers are resolved. -/
def Task.Proper (t : Task World) : Prop :=
  t.source ∈ allSources ∧ Cve.validate t.finding.cve = .ok t.finding.cve

theorem validate_of_resolved {f : Finding} (h : (prepare f).resolveCve?.isSome = true) :
    Cve.validate (prepare f).cve = .ok (prepare f).cve := by
  rw [resolveCve?_prepare] at h
  obtain ⟨cve, hcve⟩ := Option.isSome_iff_exists.1 h
  obtain ⟨id, -, hid⟩ := List.exists_of_findSome?_eq_some hcve
  have hcanonical := Cve.canonical?_canonical hid
  rw [prepare_of_resolved hcve]
  rw [Cve.canonical?] at hcanonical
  exact eq_ok_of_toOption hcanonical

namespace FanOut

variable {workers : Nat} {sources : List (Source World)} {fs : List Finding} {w : World}
  {m m' : FanOut World} {es : List (Event World)} {s : Source World}
  {told : Clients → String → Contribution}

theorem proper_of_mem (hsources : sources ⊆ allSources)
    (h : (start sources (fs.map prepare) w).exec workers es = some m) : ∀ t ∈ m.tasks, t.Proper := by
  intro t ht
  obtain ⟨t₀, ht₀, hsource, hfinding⟩ := exists_mem_of_jobs (exec_jobs h) ht
  obtain ⟨f, hf, ht₀⟩ := List.mem_flatMap.1 ht₀
  obtain ⟨f, -, rfl⟩ := List.mem_map.1 hf
  unfold tasksFor at ht₀
  split at ht₀
  · rename_i hcve
    obtain ⟨s, hs, rfl⟩ := List.mem_map.1 ht₀
    dsimp only at hsource hfinding
    rw [Task.Proper, ← hsource, ← hfinding]
    exact ⟨hsources hs, validate_of_resolved hcve⟩
  · cases ht₀

/-- Nothing that happens outside makes the clients forget. -/
def Keeps (workers : Nat) (m₀ : FanOut World) (es : List (Event World)) : Prop :=
  ∀ before w after m, es = before ++ .outside w :: after → m₀.exec workers before = some m →
    m.run.state.clients.Grows w.clients

theorem Keeps.init {m₀ : FanOut World} {e : Event World} (h : Keeps workers m₀ (es ++ [e])) :
    Keeps workers m₀ es :=
  fun before w after m hes => h before w (after ++ [e]) m (by rw [hes]; simp)

theorem keeps_of_not_mem (m₀ : FanOut World) (h : ∀ w, .outside w ∉ es) : Keeps workers m₀ es :=
  fun _ w _ _ hes => absurd (by rw [hes]; simp) (h w)

/-- **A step does not make the clients forget.** -/
theorem grows_step {e : Event World} (hproper : ∀ t ∈ m.tasks, t.Proper)
    (hout : ∀ w, e = .outside w → m.run.state.clients.Grows w.clients) (h : m.step workers e = some m') :
    m.run.state.clients.Grows m'.run.state.clients := by
  cases e with
  | cancel => cases h; exact .refl _
  | outside w => cases h; exact hout w rfl
  | move i mv =>
    obtain ⟨pre, t, post, p, r, ht, -, hmove, rfl⟩ := step_move h
    have hgrows := grows_contribute (hproper t (by rw [ht]; simp)).1 t.finding m.run.state
    rw [← (ask_apply _ _ _).1] at hgrows
    cases hmove with
    | rejected _ ha _ => rwa [ha] at hgrows
    | answered _ ha _ => rwa [ha] at hgrows
    | _ => exact .refl _

/-- What the lookups of a source with a memory have come to is told by it, unless the run was called off. -/
def Tells (s : Source World) (told : Clients → String → Contribution) (m : FanOut World) : Prop :=
  ∀ later, m.run.state.clients.Grows later → ∀ t ∈ m.tasks, t.source = s → ∀ o, t.phase.come? = some o →
    o = .contributed (told later t.finding.cve) ∨ m.canceled = true ∧ ∃ e, o = .skipped e

/-- Such a source is never given up. -/
theorem Tells.not_mem_disabled (hs : Remembers s told) (hm : m.Tells s told) (hc : m.Consistent workers)
    (hproper : ∀ t ∈ m.tasks, t.Proper) : s.name ∉ m.run.disabled := by
  intro hd
  obtain ⟨t, ht, hname, o, ho, hrejected⟩ := (hc.disabled_iff _).1 hd
  have hsource := eq_of_name_eq (hproper t ht).1 hs.mem hname
  have hcome : t.phase.come? = some o := by
    cases hp : t.phase <;> rw [hp] at ho <;> cases ho <;> rfl
  rcases hm _ (.refl _) t ht hsource o hcome with rfl | ⟨-, e, rfl⟩ <;> cases hrejected

theorem Tells.step {e : Event World} (hs : Remembers s told) (hm : m.Tells s told)
    (hc : m.Consistent workers) (hproper : ∀ t ∈ m.tasks, t.Proper)
    (hout : ∀ w, e = .outside w → m.run.state.clients.Grows w.clients) (h : m.step workers e = some m') :
    m'.Tells s told := by
  intro later hl
  have hbefore := hm later ((grows_step hproper hout h).trans hl)
  cases e with
  | cancel =>
    cases h
    exact fun t ht hsource o ho => (hbefore t ht hsource o ho).imp_right fun ⟨_, hskip⟩ => ⟨rfl, hskip⟩
  | outside w => cases h; exact hbefore
  | move i mv =>
    obtain ⟨pre, t, post, p, r, ht, -, hmove, rfl⟩ := step_move h
    have hmem : t ∈ m.tasks := by rw [ht]; simp
    rw [ht] at hbefore
    refine forall_mem_replace hbefore fun hsource o ho => ?_
    have hold := hbefore t (by simp) hsource
    -- Only asking the source is of interest: its answer is what it remembers from then on.
    have hasked (a : Outcome) (state : World) (ha : ask t.source t.finding m.run.state = (a, state))
        (hl : state.clients.Grows later) : a = .contributed (told later t.finding.cve) := by
      have hstate : (s.contribute t.finding m.run.state).2 = state := by
        rw [← (ask_apply _ _ _).1, ← hsource, ha]
      have hanswer := (ask_apply s t.finding m.run.state).2 _
        (hs.contribute t.finding m.run.state _ later (hproper t hmem).2 (by rw [hstate]; exact hl))
      rw [← hsource, ha] at hanswer
      exact hanswer
    cases hmove with
    | barred _ hd =>
      have hsource : t.source = s := hsource
      exact absurd (hsource ▸ hd) (hm.not_mem_disabled hs hc hproper)
    | calledOff _ hcanceled => cases ho; exact .inr ⟨hcanceled, _, rfl⟩
    | rejected _ ha _ => cases ho; exact .inl (hasked _ _ ha hl)
    | answered _ ha _ => cases ho; exact .inl (hasked _ _ ha hl)
    | gaveUp hp => cases ho; exact hold _ (by rw [hp]; rfl)
    | released hp => cases ho; exact hold _ (by rw [hp]; rfl)
    | _ => cases ho

/-- **All lookups of a source with a memory** come to what it remembers in the end. -/
theorem tells_exec (hs : Remembers s told) (hsources : sources ⊆ allSources)
    (h : (start sources (fs.map prepare) w).exec workers es = some m)
    (hkeeps : Keeps workers (start sources (fs.map prepare) w) es) : m.Tells s told := by
  refine exec_invariant (fun es m => Keeps workers (start sources (fs.map prepare) w) es → m.Tells s told)
    ?_ ?_ h hkeeps
  · intro _ later _ t ht _ o ho
    rw [(mem_tasksOf ht).2] at ho
    cases ho
  · intro es e m₁ m₂ hexec ih hstep hkeeps
    refine (ih hkeeps.init).step hs (consistent_exec hexec) (proper_of_mem hsources hexec) ?_ hstep
    rintro w rfl
    exact hkeeps es w [] m₁ rfl hexec

end FanOut

/-! ## The findings of a run -/

theorem exists_of_mem_zip_rows {α β : Type} {g : α → β} {width : Nat} {fs : List Finding} {l : List α}
    {f : Finding} {row : List β} (h : (f, row) ∈ fs.zip (rows width fs (l.map g))) :
    ∃ row', (f, row') ∈ fs.zip (rows width fs l) ∧ row'.map g = row := by
  rw [rows_map, List.zip_map_right] at h
  obtain ⟨⟨f', row'⟩, hmem, hrow⟩ := List.mem_map.1 h
  simp only [Prod.map_apply, id_eq, Prod.mk.injEq] at hrow
  exact ⟨row', hrow.1 ▸ hmem, hrow.2⟩

theorem mem_of_mem_rows {α : Type} {width : Nat} {fs : List Finding} {l row : List α}
    (h : row ∈ rows width fs l) : ∀ x ∈ row, x ∈ l := by
  induction fs generalizing l with
  | nil => cases h
  | cons f fs ih =>
    simp only [rows] at h
    split at h
    · rcases List.mem_cons.1 h with rfl | h
      · exact fun x hx => List.mem_of_mem_take hx
      · exact fun x hx => List.mem_of_mem_drop (ih h x hx)
    · rcases List.mem_cons.1 h with rfl | h
      · exact fun x hx => absurd hx List.not_mem_nil
      · exact ih h

theorem finding_of_mem_tasksFor {σ : Type} {sources : List (Source σ)} {f : Finding} {t : Task σ}
    (h : t ∈ tasksFor sources f) : t.finding = f := by
  unfold tasksFor at h
  split at h
  · obtain ⟨s, -, rfl⟩ := List.mem_map.1 h
    rfl
  · cases h

theorem map_source_tasksFor {σ : Type} (sources : List (Source σ)) (f : Finding) :
    (tasksFor sources f).map (·.source) = if f.resolveCve?.isSome then sources else [] := by
  rw [tasksFor]
  split
  · rw [List.map_map]
    exact List.map_id' sources
  · rfl

section Results

variable {σ : Type} {ts : List (Task σ)} {row : List (String × Outcome)}

theorem Task.result?_eq_some_iff {t : Task σ} {name : String} {o : Outcome} :
    t.result? = some (name, o) ↔ t.source.name = name ∧ t.phase = .done o := by
  unfold Task.result? Phase.outcome?
  cases t.phase <;> simp

theorem map_name_of_results (h : ts.map Task.result? = row.map some) :
    row.map (·.1) = ts.map fun t => t.source.name := by
  induction ts generalizing row with
  | nil => simpa using h.symm
  | cons t ts ih =>
    obtain ⟨⟨name, o⟩, rest, rfl, hresult, hrest⟩ := List.map_eq_cons_iff.1 h.symm
    rw [List.map_cons, List.map_cons, (Task.result?_eq_some_iff.1 hresult.symm).1, ih hrest.symm]

theorem mem_iff_of_results (h : ts.map Task.result? = row.map some) {name : String} {o : Outcome} :
    (name, o) ∈ row ↔ ∃ t ∈ ts, t.source.name = name ∧ t.phase = .done o := by
  have hsome : (name, o) ∈ row ↔ some (name, o) ∈ row.map some := by simp
  rw [hsome, ← h, List.mem_map]
  simp only [Task.result?_eq_some_iff]

end Results

namespace FanOut

variable {σ : Type} {workers : Nat} {sources : List (Source σ)} {prepared : List Finding} {state : σ}
  {es : List (Event σ)} {m : FanOut σ}

theorem map_some_outcomes (hfin : m.Finished) : m.outcomes.map some = m.tasks.map Task.result? := by
  rw [outcomes, List.map_filterMap, ← List.filterMap_eq_map]
  refine List.filterMap_congr fun t ht => ?_
  obtain ⟨o, ho⟩ := hfin t ht
  simp [Task.result?_of_done ho]

/-- The tasks in the row of a finding are the lookups of that finding, which the run began with. -/
theorem jobs_of_mem_rows (h : (start sources prepared state).exec workers es = some m) {f : Finding}
    {ts : List (Task σ)} (hts : (f, ts) ∈ prepared.zip (rows sources.length prepared m.tasks)) :
    (tasksFor sources f).map Task.job = ts.map Task.job := by
  have hstart : m.tasks.map Task.job = (tasksOf sources prepared).map Task.job := exec_jobs h
  have hjobs : (f, ts.map Task.job) ∈ prepared.zip (rows sources.length prepared (m.tasks.map Task.job)) := by
    rw [rows_map, List.zip_map_right]
    exact List.mem_map_of_mem (f := Prod.map id (List.map Task.job)) hts
  rw [hstart, rows_tasksOf] at hjobs
  have hzip (g : Finding → List (Source σ × Finding)) :
      prepared.zip (prepared.map g) = prepared.map fun f => (f, g f) := by
    rw [List.zip, List.zipWith_map_right, List.zipWith_self]
  rw [hzip] at hjobs
  obtain ⟨f', -, hf'⟩ := List.mem_map.1 hjobs
  obtain ⟨rfl, hlookups⟩ := Prod.mk.inj hf'
  exact hlookups

theorem finding_of_mem_rows (h : (start sources prepared state).exec workers es = some m) {f : Finding}
    {ts : List (Task σ)} (hts : (f, ts) ∈ prepared.zip (rows sources.length prepared m.tasks)) {t : Task σ}
    (ht : t ∈ ts) : t.finding = f := by
  obtain ⟨t₀, ht₀, -, hfinding⟩ := exists_mem_of_jobs (jobs_of_mem_rows h hts).symm ht
  exact hfinding.symm.trans (finding_of_mem_tasksFor ht₀)

/-- The outcomes that a finding gets back are those of its own lookups, one for each source. -/
theorem exists_tasks (h : (start sources prepared state).exec workers es = some m) (hfin : m.Finished)
    {f : Finding} {row : List (String × Outcome)}
    (hrow : (f, row) ∈ prepared.zip (rows sources.length prepared m.outcomes)) :
    ∃ ts : List (Task σ), (∀ t ∈ ts, t ∈ m.tasks ∧ t.finding = f) ∧
      ts.map (·.source) = (if f.resolveCve?.isSome then sources else []) ∧ ts.map Task.result? = row.map some := by
  have hsome : (f, row.map some) ∈ prepared.zip (rows sources.length prepared (m.outcomes.map some)) := by
    rw [rows_map, List.zip_map_right]
    exact List.mem_map_of_mem (f := Prod.map id (List.map some)) hrow
  rw [map_some_outcomes hfin] at hsome
  obtain ⟨ts, hts, hown⟩ := exists_of_mem_zip_rows hsome
  refine ⟨ts, fun t ht => ⟨mem_of_mem_rows (List.of_mem_zip hts).2 t ht, finding_of_mem_rows h hts ht⟩, ?_, hown⟩
  rw [← map_source_tasksFor sources f]
  have hsources := congrArg (List.map Prod.fst) (jobs_of_mem_rows h hts)
  simp only [List.map_map] at hsources
  exact hsources.symm

/-- What a lookup came to is among the outcomes that its finding gets back. -/
theorem exists_row (h : (start sources prepared state).exec workers es = some m) (hfin : m.Finished)
    {t : Task σ} (ht : t ∈ m.tasks) {o : Outcome} (ho : t.phase = .done o) :
    ∃ row, (t.finding, row) ∈ prepared.zip (rows sources.length prepared m.outcomes) ∧
      (t.source.name, o) ∈ row := by
  have hlen : m.tasks.length = (tasksOf sources prepared).length := exec_tasks_length h
  have hmem : t ∈ (rows sources.length prepared m.tasks).flatten := by
    rwa [flatten_rows sources prepared _ hlen]
  obtain ⟨ts, hts, hmem⟩ := List.mem_flatten.1 hmem
  obtain ⟨i, hi, rfl⟩ := List.getElem_of_mem hts
  have hi' : i < prepared.length := by rwa [length_rows] at hi
  have hts : (prepared[i], (rows sources.length prepared m.tasks)[i]) ∈
      prepared.zip (rows sources.length prepared m.tasks) :=
    List.mem_iff_getElem.2 ⟨i, by rw [List.length_zip]; omega, List.getElem_zip⟩
  rw [finding_of_mem_rows h hts hmem]
  generalize prepared[i] = f at hts
  generalize (rows sources.length prepared m.tasks)[i] = ts at hts hmem
  have hresults : (f, ts.map Task.result?) ∈
      prepared.zip (rows sources.length prepared (m.tasks.map Task.result?)) := by
    rw [rows_map, List.zip_map_right]
    exact List.mem_map_of_mem (f := Prod.map id (List.map Task.result?)) hts
  rw [← map_some_outcomes hfin] at hresults
  obtain ⟨row, hrow, hown⟩ := exists_of_mem_zip_rows hresults
  exact ⟨row, hrow, (mem_iff_of_results hown.symm).2 ⟨t, hmem, rfl, ho⟩⟩

end FanOut

/-- A change that a source makes keeps to the fields of its own: to the identifiers of a finding none does
anything, to its status only the catalog, and to its forecast only the forecasts. -/
def KeepsTo (s : Source World) (change : Contribution) : Prop :=
  ∀ g, (change g).identifiers = g.identifiers ∧ (s ≠ catalogSource → (change g).exploited = g.exploited) ∧
    (s ≠ forecastSource → (change g).forecast = g.forecast)

theorem keepsTo_contribute {t : Task World} (ht : t.Proper) {w : World} {change : Contribution}
    (h : (t.source.contribute t.finding w).1 = .ok change) : KeepsTo t.source change := by
  obtain ⟨hs, hv⟩ := ht
  simp only [allSources, List.mem_cons, List.not_mem_nil, or_false] at hs
  intro g
  rcases hs with hs | hs | hs | hs
  · rw [hs, contribute_catalog] at h
    dsimp only at h
    obtain ⟨status, rfl⟩ := exists_of_map_eq_ok h
    obtain ⟨severity, new, hg⟩ := ExploitedCatalog.exists_apply status g
    rw [hg]
    exact ⟨rfl, fun hne => absurd hs hne, fun _ => rfl⟩
  · rw [hs, contribute_forecasts] at h
    dsimp only at h
    obtain ⟨fetched, rfl⟩ := exists_of_map_eq_ok h
    obtain ⟨new, hg⟩ := Forecasts.exists_apply (Forecasts.among fetched (Cve.canonical? t.finding.cve)) g
    rw [hg]
    exact ⟨rfl, fun _ => rfl, fun hne => absurd hs hne⟩
  · rw [hs, contribute_advisories hv] at h
    dsimp only at h
    obtain ⟨a, rfl⟩ := exists_of_map_eq_ok h
    obtain ⟨advisory, fix, hg⟩ := Advisories.exists_apply a g
    rw [hg]
    exact ⟨rfl, fun _ => rfl, fun _ => rfl⟩
  · rw [hs, contribute_exploits] at h
    dsimp only at h
    obtain ⟨record, rfl⟩ := exists_of_map_eq_ok h
    obtain ⟨new, hg⟩ := Exploits.exists_apply record g
    rw [hg]
    exact ⟨rfl, fun _ => rfl, fun _ => rfl⟩

/-- What comes of a lookup keeps to the fields of its source; a failure has a field for itself. -/
theorem keepsTo_merge {t : Task World} (ht : t.Proper) {o : Outcome}
    (ho : (∃ e, o = .skipped e) ∨ ∃ w, (ask t.source t.finding w).1 = o) (name : String) :
    KeepsTo t.source (o.merge name) := by
  rcases ho with ⟨e, rfl⟩ | ⟨w, rfl⟩
  · exact fun g => ⟨rfl, fun _ => rfl, fun _ => rfl⟩
  · cases hc : (t.source.contribute t.finding w).1 with
    | ok change =>
      rw [(ask_apply _ _ _).2 change hc]
      exact keepsTo_contribute ht hc
    | error cause =>
      unfold ask
      rw [bind_apply, hc]
      exact fun g => ⟨rfl, fun _ => rfl, fun _ => rfl⟩

section Fields

variable {α : Type} {field : Finding → α} {changes : List Contribution}

theorem applyAll_of_keeps (h : ∀ c ∈ changes, ∀ g, field (c g) = field g) (f : Finding) :
    field (applyAll changes f) = field f := by
  induction changes generalizing f with
  | nil => rfl
  | cons c changes ih =>
    obtain ⟨hc, hrest⟩ := List.forall_mem_cons.1 h
    exact (ih hrest (c f)).trans (hc f)

/-- A field that changes set to one value, or leave alone, has that value in the end. -/
theorem applyAll_of_sets {a : α}
    (h : ∀ c ∈ changes, (∀ g, field (c g) = a) ∨ ∀ g, field (c g) = field g)
    (hsets : ∃ c ∈ changes, ∀ g, field (c g) = a) (f : Finding) : field (applyAll changes f) = a := by
  induction changes generalizing f with
  | nil =>
    obtain ⟨c, hc, -⟩ := hsets
    cases hc
  | cons c changes ih =>
    obtain ⟨hc, hrest⟩ := List.forall_mem_cons.1 h
    by_cases hlater : ∃ d ∈ changes, ∀ g, field (d g) = a
    · exact ih hrest hlater (c f)
    · -- The first change sets the field, and nothing after it touches it.
      have hkeeps : ∀ d ∈ changes, ∀ g, field (d g) = field g :=
        fun d hd => (hrest d hd).resolve_left fun hset => hlater ⟨d, hd, hset⟩
      have hfirst : ∀ g, field (c g) = a := by
        obtain ⟨d, hd, hset⟩ := hsets
        rcases List.mem_cons.1 hd with rfl | hd
        · exact hset
        · exact absurd ⟨d, hd, hset⟩ hlater
      exact (applyAll_of_keeps hkeeps (c f)).trans (hfirst f)

end Fields

theorem mergeAll_eq_merges (f : Finding) (row : List (String × Outcome)) :
    mergeAll f row = applyAll (row.map fun (name, o) => o.merge name) f := by
  simp only [mergeAll, applyAll, List.foldl_map]

namespace FanOut

variable {workers : Nat} {sources : List (Source World)} {fs : List Finding} {w : World}
  {m : FanOut World} {es : List (Event World)}

/-- Every finding of a report is one of those that went in, with the outcomes of its lookups merged in. -/
theorem exists_of_mem_findings (hsources : sources ⊆ allSources)
    (h : (start sources (fs.map prepare) w).exec workers es = some m) (hfin : m.Finished) {g : Finding}
    (hg : g ∈ (m.report sources (fs.map prepare)).findings) :
    ∃ f changes, g = (applyAll changes (prepare f)).score ∧
      (∀ c ∈ changes, ∃ t ∈ m.tasks, t.finding = prepare f ∧ KeepsTo t.source c ∧
        ∃ o, t.phase = .done o ∧ c = o.merge t.source.name) ∧
      (f.resolveCve?.isSome = true → ∀ s ∈ sources, ∃ t ∈ m.tasks, t.source = s ∧ t.finding = prepare f ∧
        ∃ o, t.phase = .done o ∧ o.merge t.source.name ∈ changes) := by
  have hfindings : (m.report sources (fs.map prepare)).findings =
      rank (merged fs (rows sources.length (fs.map prepare) m.outcomes)) := rfl
  rw [hfindings, (perm_rank _).mem_iff] at hg
  obtain ⟨_, hmerged, rfl⟩ := List.mem_map.1 hg
  obtain ⟨⟨f', row⟩, hrow, rfl⟩ := List.mem_map.1 hmerged
  obtain ⟨f, -, rfl⟩ := List.mem_map.1 (List.of_mem_zip hrow).1
  obtain ⟨ts, hmem, hall, hresults⟩ := exists_tasks h hfin hrow
  refine ⟨f, row.map fun (name, o) => o.merge name, congrArg Finding.score (mergeAll_eq_merges _ _),
    fun c hc => ?_, fun hsome s hs => ?_⟩
  · obtain ⟨⟨name, o⟩, hp, rfl⟩ := List.mem_map.1 hc
    obtain ⟨t, ht, rfl, ho⟩ := (mem_iff_of_results hresults).1 hp
    obtain ⟨htask, hfinding⟩ := hmem t ht
    have hanswers := exec_answersOf h t htask
    simp only [AnswersOf, ho] at hanswers
    exact ⟨t, htask, hfinding, keepsTo_merge (proper_of_mem hsources h t htask) hanswers _, _, ho, rfl⟩
  · rw [← resolveCve?_prepare] at hsome
    have hs : s ∈ ts.map (·.source) := by rwa [hall, if_pos hsome]
    obtain ⟨t, ht, hsource⟩ := List.mem_map.1 hs
    obtain ⟨htask, hfinding⟩ := hmem t ht
    obtain ⟨o, ho⟩ := hfin t htask
    have hp : (t.source.name, o) ∈ row := (mem_iff_of_results hresults).2 ⟨t, ht, rfl, ho⟩
    exact ⟨t, htask, hsource, hfinding, o, ho, List.mem_map.2 ⟨_, hp, rfl⟩⟩

theorem resolveCve?_of_changes {f g : Finding} {changes : List Contribution}
    (hg : g = (applyAll changes (prepare f)).score) (hkeeps : ∀ c ∈ changes, ∃ s, KeepsTo s c) :
    g.resolveCve? = f.resolveCve? := by
  have hidentifiers : (applyAll changes (prepare f)).identifiers = (prepare f).identifiers := by
    refine applyAll_of_keeps (fun c hc g => ?_) (prepare f)
    obtain ⟨s, hs⟩ := hkeeps c hc
    exact (hs g).1
  calc g.resolveCve? = (applyAll changes (prepare f)).score.identifiers.findSome? Cve.canonical? := by
        rw [hg]; rfl
    _ = (prepare f).identifiers.findSome? Cve.canonical? :=
        congrArg (List.findSome? Cve.canonical?) hidentifiers
    _ = f.resolveCve? := resolveCve?_prepare f

/-- A field that only one source changes, and sets to what it remembers, tells what is remembered. -/
theorem field_alike {α : Type} {field : Finding → α} {value : Clients → String → α} {s : Source World}
    {told : Clients → String → Contribution} (hs : Remembers s told)
    (hsets : ∀ c cve g, field (told c cve g) = value c cve)
    (hkept : ∀ s' change, KeepsTo s' change → s' ≠ s → ∀ g, field (change g) = field g)
    (hscore : ∀ g, field g.score = field g) (hsources : sources ⊆ allSources)
    (h : (start sources (fs.map prepare) w).exec workers es = some m) (hfin : m.Finished)
    (hkeeps : Keeps workers (start sources (fs.map prepare) w) es) (hgoes : .cancel ∉ es)
    (hmem : s ∈ sources) {g : Finding} (hg : g ∈ (m.report sources (fs.map prepare)).findings) {cve : String}
    (hcve : g.resolveCve? = some cve) : field g = value m.run.state.clients cve := by
  obtain ⟨f, changes, hwhole, hchanges, hall⟩ := exists_of_mem_findings hsources h hfin hg
  have hresolved : f.resolveCve? = some cve := by
    rw [← hcve, resolveCve?_of_changes hwhole]
    intro c hc
    obtain ⟨t, -, -, hto, -⟩ := hchanges c hc
    exact ⟨t.source, hto⟩
  have hgoes : ¬ m.canceled = true := fun hc => hgoes (((exec_canceled h).1 hc).resolve_left (nomatch ·))
  -- A lookup of the source sets the field.
  have hset : ∀ t ∈ m.tasks, t.source = s → t.finding = prepare f → ∀ o, t.phase = .done o →
      ∀ g, field (o.merge t.source.name g) = value m.run.state.clients cve := by
    intro t ht hsource hfinding o ho g
    have htold := (tells_exec hs hsources h hkeeps _ (.refl _) t ht hsource o (by rw [ho]; rfl)).resolve_right
      fun hc => hgoes hc.1
    rw [hfinding, prepare_of_resolved hresolved] at htold
    rw [htold]
    exact hsets _ _ _
  rw [hwhole, hscore]
  refine applyAll_of_sets (fun c hc => ?_) ?_ (prepare f)
  · obtain ⟨t, ht, hfinding, hto, o, ho, rfl⟩ := hchanges c hc
    by_cases hsource : t.source = s
    · exact .inl (hset t ht hsource hfinding o ho)
    · exact .inr (hkept _ _ hto hsource)
  · obtain ⟨t, ht, hsource, hfinding, o, ho, hc⟩ := hall (by rw [hresolved]; rfl) s hmem
    exact ⟨_, hc, hset t ht hsource hfinding o ho⟩

end FanOut

/-- A finding has what is remembered about its vulnerability, as far as `sources` are asked for it. -/
def Carries (sources : List (Source World)) (memory : Clients) (g : Finding) : Prop :=
  ∀ cve, g.resolveCve? = some cve →
    (catalogSource ∈ sources → g.exploited = some (memory.status cve)) ∧
      (forecastSource ∈ sources → g.forecast = some (memory.score cve))

/-- **Findings of a vulnerability are alike** in a run that is not called off. -/
theorem FanOut.carries {workers : Nat} {sources : List (Source World)} {fs : List Finding} {w : World}
    {m : FanOut World} {es : List (Event World)} (hsources : sources ⊆ allSources)
    (h : (FanOut.start sources (fs.map prepare) w).exec workers es = some m) (hfin : m.Finished)
    (hkeeps : FanOut.Keeps workers (FanOut.start sources (fs.map prepare) w) es) (hgoes : .cancel ∉ es) :
    ∀ g ∈ (m.report sources (fs.map prepare)).findings, Carries sources m.run.state.clients g := by
  intro g hg cve hcve
  have hstatus (c : Clients) (cve : String) (g : Finding) :
      (ExploitedCatalog.apply (c.status cve) g).exploited = some (c.status cve) :=
    (ExploitedCatalog.shown_apply _ g).1
  have hscore (c : Clients) (cve : String) (g : Finding) :
      (Forecasts.apply (c.score cve) g).forecast = some (c.score cve) := (Forecasts.shown_apply _ g).1
  constructor
  · intro hmem
    exact FanOut.field_alike remembers_catalog hstatus (fun _ _ hto hne g => (hto g).2.1 hne) (fun _ => rfl)
      hsources h hfin hkeeps hgoes hmem hg hcve
  · intro hmem
    exact FanOut.field_alike remembers_forecasts hscore (fun _ _ hto hne g => (hto g).2.2 hne) (fun _ => rfl)
      hsources h hfin hkeeps hgoes hmem hg hcve

/-! ## The clients and the engine together -/

/-- Knows one vulnerability: it is listed in the catalog, has a forecast, and an advisory with a fix. -/
def listingNetwork (r : Request) : Triage.Reply :=
  if r.method = "POST" then
    .answered 200
      ("\x7b\"data\":\x7b\"securityAdvisories\":\x7b\"nodes\":[\x7b\"ghsaId\":\"G-1\",\"vulnerabilities\":" ++
        "\x7b\"nodes\":[\x7b\"firstPatchedVersion\":\x7b\"identifier\":\"2\"\x7d\x7d]\x7d\x7d]\x7d\x7d\x7d") none
  else if r.url = "http://kev/" then .answered 200 "[\x7b\"cveID\":\"CVE-2024-0001\"\x7d]" none
  else
    .answered 200
      "\x7b\"data\":[\x7b\"cve\":\"CVE-2024-0001\",\"epss\":\"0.5\",\"percentile\":\"0.75\"\x7d]\x7d" none

/-- A world with that network and without a cache; the index of exploits has no key. -/
def listingWorld : World where
  host := { now := .zero, cache := none, network := listingNetwork }
  clients :=
    { catalog := { url := "http://kev/" }, forecasts := { url := "http://epss/" }
      advisories := { endpoint := "http://ghsa/" } }

/-- The vulnerability that is known there. -/
def listed : String := "CVE-2024-0001"

/-- A finding with a remediation, a warning and a record of a failure from before. -/
def carriedFinding : Finding :=
  { cve := " cve-2024-0001", version := "1", remediation := some { source := "scanner" }
    warnings := ["seen"], enrichmentErrors := [("epss", "before")] }

theorem exists_mem_enrich {sources : List (Source World)} {canceled : Bool} {fs : List Finding} {w : World}
    {cve : Option String} {status : Option ExploitedStatus}
    (h : (cve, status) ∈
      (merged fs (outcomesOneByOne sources canceled fs w)).map fun f => (f.resolveCve?, f.exploited)) :
    ∃ g ∈ (enrich sources canceled fs w).1.findings, g.resolveCve? = cve ∧ g.exploited = status := by
  obtain ⟨f, hf, hkey⟩ := List.mem_map.1 h
  obtain ⟨hcve, hstatus⟩ := Prod.mk.inj hkey
  rw [findings_enrich]
  exact ⟨f.score, (perm_rank _).mem_iff.2 (List.mem_map_of_mem hf), hcve, hstatus⟩

/-- Two findings of the same vulnerability, one of them with a status from before. -/
def calledOffFindings : List Finding :=
  [{ cve := listed, exploited := some { inCatalog := true } }, { cve := listed }]

end Triage.Engine
