import Triage.Proofs.Engine.OneByOne
import Triage.Proofs.Engine.Records
import Triage.Proofs.Ranking
import Triage.Proofs.SideBySide

/-!
# The order of the lookups does not show

If what a source has to say depends on the finding alone, no source rejects the credentials, and the
run is not called off, then every lookup has the outcome that is due to it, whatever is looked up
before it and besides it. So all orders of the moves, with any number of workers, lead to one report:
that of the lookups made one after the other.

In that report every finding stands as it comes out of its own lookups (`enriched`): what the sources
contribute is applied in their order, and the failures are recorded by the names of the sources.
Contributions that leave those records alone do not feel a failure of another source
(`enriched_of_neutral`).
-/
namespace Triage.Engine

variable {σ : Type}

/-- The sources answer by the finding alone and accept the credentials. -/
structure Steady (sources : List (Source σ))
    (answer : Source σ → Finding → Except Failure Contribution) : Prop where
  distinct : (sources.map (·.name)).Nodup
  answers : ∀ s ∈ sources, ∀ f state, (s.contribute f state).1 = answer s f
  accepts : ∀ s ∈ sources, ∀ f e, answer s f = .error e → (e.classify s.name).kind ≠ disablingKind

/-- The outcome of a lookup with this answer. -/
def outcomeOf (name : String) : Except Failure Contribution → Outcome
  | .ok change => .contributed change
  | .error e => .failed (e.classify name)

def recordFailure (name : String) (e : Failure) (f : Finding) : Finding :=
  { f with enrichmentErrors := Keyed.insert name (e.classify name).message f.enrichmentErrors }

/-- A finding with the answers of the sources applied in their order: what they contribute, and the
failures of those that fail. -/
def applyAnswers (sources : List (Source σ)) (answer : Source σ → Finding → Except Failure Contribution)
    (f : Finding) : Finding :=
  sources.foldl (fun g s =>
    match answer s f with
    | .ok change => change g
    | .error e => recordFailure s.name e g) f

/-- What becomes of a finding by itself: its identifier is resolved, the answers of the sources are
applied if it has one, and it is scored. -/
def enriched (sources : List (Source σ)) (answer : Source σ → Finding → Except Failure Contribution)
    (f : Finding) : Finding :=
  let f := prepare f
  (if f.resolveCve?.isSome then applyAnswers sources answer f else f).score

/-! ## Every lookup has the outcome that is due to it -/

section Steady

variable {sources : List (Source σ)} {answer : Source σ → Finding → Except Failure Contribution}

theorem Steady.ask_eq (h : Steady sources answer) {s : Source σ} (hs : s ∈ sources) (f : Finding)
    (state : σ) : (ask s f state).1 = outcomeOf s.name (answer s f) := by
  rw [← h.answers s hs f state]
  unfold ask
  rw [bind_apply]
  cases (s.contribute f state).1 <;> rfl

theorem Steady.disables_outcomeOf (h : Steady sources answer) {s : Source σ} (hs : s ∈ sources)
    (f : Finding) : (outcomeOf s.name (answer s f)).disables = false := by
  cases ha : answer s f with
  | ok change => rfl
  | error e => exact beq_false_of_ne (h.accepts s hs f e ha)

/-- A task that stands where the answer of its source leads to. -/
def Task.Due (answer : Source σ → Finding → Except Failure Contribution) (t : Task σ) : Prop :=
  match t.phase with
  | .rejected _ => False
  | .settled o | .done o => o = outcomeOf t.source.name (answer t.source t.finding)
  | _ => True

/-- The run has not been called off, no source has been given up, and all tasks stand where the answers
of their sources lead to. -/
structure FanOut.OnCourse (sources : List (Source σ))
    (answer : Source σ → Finding → Except Failure Contribution) (m : FanOut σ) : Prop where
  goesOn : m.canceled = false
  allInUse : m.run.disabled = []
  due : ∀ t ∈ m.tasks, t.source ∈ sources ∧ t.Due answer

/-- A move leaves its task where the answer of its source leads to. -/
theorem Task.Moves.due (h : Steady sources answer) {t : Task σ} {free : Bool} {r r' : Run σ}
    {mv : Move} {p : Phase} (hs : t.source ∈ sources) (hr : r.disabled = []) (ht : t.Due answer)
    (hm : t.Moves free false r mv p r') :
    ({ t with phase := p } : Task σ).Due answer ∧ r'.disabled = [] := by
  cases hm with
  | admitted hp _ => exact ⟨trivial, hr⟩
  | barred hp hd => rw [hr] at hd; cases hd
  | cleared hp hd => exact ⟨trivial, hr⟩
  | calledOff hp hc => cases hc
  | resumed hp hc => exact ⟨trivial, hr⟩
  | rejected hp ha hd =>
    have ho := h.ask_eq hs t.finding r.state
    rw [ha] at ho
    have hnot := h.disables_outcomeOf hs t.finding
    rw [← ho, hd] at hnot
    cases hnot
  | answered hp ha hd =>
    have ho := h.ask_eq hs t.finding r.state
    rw [ha] at ho
    exact ⟨ho, hr⟩
  | gaveUp hp => simp [Task.Due, hp] at ht
  | released hp => exact ⟨by simpa [Task.Due, hp] using ht, hr⟩

theorem FanOut.OnCourse.step (h : Steady sources answer) {workers : Nat} {m m' : FanOut σ}
    {e : Event σ} (hm : m.OnCourse sources answer) (he : e ≠ .cancel)
    (hs : m.step workers e = some m') : m'.OnCourse sources answer := by
  cases e with
  | move i mv =>
    obtain ⟨pre, t, post, p, r, ht, -, hmove, rfl⟩ := FanOut.step_move hs
    have hall := hm.due
    rw [ht] at hall
    obtain ⟨hsource, hdue⟩ := hall t (by simp)
    rw [hm.goesOn] at hmove
    obtain ⟨hdue', hdis⟩ := hmove.due h hsource hm.allInUse hdue
    exact ⟨hm.goesOn, hdis, SideBySide.forall_mem_replace hall ⟨hsource, hdue'⟩⟩
  | cancel => exact absurd rfl he
  | outside state =>
    cases hs
    exact ⟨hm.goesOn, hm.allInUse, hm.due⟩

theorem FanOut.onCourse_start (sources : List (Source σ)) (prepared : List Finding) (state : σ) :
    (FanOut.start sources prepared state).OnCourse sources answer := by
  refine ⟨rfl, rfl, fun t ht => ?_⟩
  obtain ⟨hsource, hwaiting⟩ := mem_tasksOf ht
  exact ⟨hsource, by simp [Task.Due, hwaiting]⟩

/-- **As long as the run is not called off**, the tasks stay on course in every order of their moves. -/
theorem FanOut.onCourse_exec (h : Steady sources answer) {workers : Nat} {prepared : List Finding}
    {state : σ} {es : List (Event σ)} {m : FanOut σ}
    (he : (FanOut.start sources prepared state).exec workers es = some m) (hc : .cancel ∉ es) :
    m.OnCourse sources answer := by
  refine FanOut.exec_invariant (fun es m => .cancel ∉ es → m.OnCourse sources answer)
    (fun _ => FanOut.onCourse_start _ _ _) ?_ he hc
  intro es e m₁ m₂ _ ih hs hc
  simp only [List.mem_append, List.mem_singleton, not_or] at hc
  exact (ih hc.1).step h (Ne.symm hc.2) hs

def dueOutcomes (sources : List (Source σ)) (answer : Source σ → Finding → Except Failure Contribution)
    (f : Finding) : List (String × Outcome) :=
  (tasksFor sources f).map fun t => (t.source.name, outcomeOf t.source.name (answer t.source t.finding))

/-- If all lookups came out as is due to them, each finding gets the outcomes back that are due. -/
theorem FanOut.rows_outcomes {workers : Nat} {prepared : List Finding} {state : σ} {es : List (Event σ)}
    {m : FanOut σ} (he : (FanOut.start sources prepared state).exec workers es = some m) (hfin : m.Finished)
    (hdue : ∀ t ∈ m.tasks, ∀ o, t.phase = .done o →
      o = outcomeOf t.source.name (answer t.source t.finding)) :
    rows sources.length prepared m.outcomes = prepared.map (dueOutcomes sources answer) := by
  let due : Source σ × Finding → String × Outcome := fun (s, f) =>
    (s.name, outcomeOf s.name (answer s f))
  have hout : m.outcomes = (tasksOf sources prepared).map (due ∘ Task.job) := by
    calc m.outcomes = m.tasks.map (due ∘ Task.job) := by
          rw [FanOut.outcomes, ← List.filterMap_eq_map]
          refine List.filterMap_congr fun t ht => ?_
          obtain ⟨o, ho⟩ := hfin t ht
          rw [Task.result?_of_done ho, hdue t ht o ho]
          rfl
      _ = (tasksOf sources prepared).map (due ∘ Task.job) := by
          rw [← List.map_map, FanOut.exec_jobs he, List.map_map]
          rfl
  rw [hout, rows_tasksOf]
  rfl

/-- **The report of a run that was not called off** is that of the outcomes that are due. -/
theorem FanOut.report_eq (h : Steady sources answer) {workers : Nat} {prepared : List Finding}
    {state : σ} {es : List (Event σ)} {m : FanOut σ}
    (he : (FanOut.start sources prepared state).exec workers es = some m) (hc : .cancel ∉ es)
    (hfin : m.Finished) :
    m.report sources prepared = Report.ofOutcomes (sources.map (·.name)) prepared
      (prepared.map (dueOutcomes sources answer)) [] := by
  have hcourse := FanOut.onCourse_exec h he hc
  have hdue : ∀ t ∈ m.tasks, ∀ o, t.phase = .done o →
      o = outcomeOf t.source.name (answer t.source t.finding) := by
    intro t ht o ho
    simpa only [Task.Due, ho] using (hcourse.due t ht).2
  rw [FanOut.report, FanOut.rows_outcomes he hfin hdue, hcourse.allInUse]

/-! ## Every finding by itself -/

theorem dueOutcomes_of_resolved {f : Finding} (h : f.resolveCve?.isSome = true) :
    dueOutcomes sources answer f = sources.map fun s => (s.name, outcomeOf s.name (answer s f)) := by
  simp [dueOutcomes, tasksFor, h]

theorem dueOutcomes_of_unresolved {f : Finding} (h : ¬ f.resolveCve?.isSome = true) :
    dueOutcomes sources answer f = [] := by
  simp [dueOutcomes, tasksFor, h]

theorem merge_outcomeOf (name : String) (a : Except Failure Contribution) (g : Finding) :
    (outcomeOf name a).merge name g =
      match a with
      | .ok change => change g
      | .error e => recordFailure name e g := by
  cases a <;> rfl

/-- Merging the outcomes that are due applies the answers. -/
theorem mergeAll_dueOutcomes (f : Finding) :
    mergeAll f (dueOutcomes sources answer f) =
      if f.resolveCve?.isSome then applyAnswers sources answer f else f := by
  split
  · rename_i h
    simp only [dueOutcomes_of_resolved h, mergeAll, List.foldl_map, merge_outcomeOf, applyAnswers]
  · rename_i h
    rw [dueOutcomes_of_unresolved h]
    rfl

theorem findings_ofOutcomes (names : List String) (row : Finding → List (String × Outcome))
    (fs : List Finding) (disabled : List String) :
    (Report.ofOutcomes names fs (fs.map row) disabled).findings =
      rank (fs.map fun f => mergeAll f (row f)) := by
  have hzip : fs.zip (fs.map row) = fs.map fun f => (f, row f) := by
    rw [List.zip, List.zipWith_map_right, List.zipWith_self]
  simp only [Report.ofOutcomes, hzip, List.map_map]
  rfl

/-- What the sources that succeed for a finding contribute, in their order. -/
def contributions (sources : List (Source σ))
    (answer : Source σ → Finding → Except Failure Contribution) (f : Finding) : List Contribution :=
  if f.resolveCve?.isSome then sources.filterMap fun s => (answer s f).toOption else []

/-- The sources that fail for a finding, with the texts of their failures. -/
def failures (sources : List (Source σ))
    (answer : Source σ → Finding → Except Failure Contribution) (f : Finding) : List (String × String) :=
  if f.resolveCve?.isSome then
    sources.filterMap fun s =>
      match answer s f with
      | .ok _ => none
      | .error e => some (s.name, (e.classify s.name).message)
  else []

theorem contributionsOf_dueOutcomes (f : Finding) :
    contributionsOf (dueOutcomes sources answer f) = contributions sources answer f := by
  unfold contributions
  split
  · rename_i h
    rw [dueOutcomes_of_resolved h, contributionsOf, List.filterMap_map]
    refine List.filterMap_congr fun s _ => ?_
    cases ha : answer s f <;> simp [ha, outcomeOf, Except.toOption]
  · rename_i h
    rw [dueOutcomes_of_unresolved h]
    rfl

theorem failuresOf_dueOutcomes (f : Finding) :
    failuresOf (dueOutcomes sources answer f) = failures sources answer f := by
  unfold failures
  split
  · rename_i h
    rw [dueOutcomes_of_resolved h, failuresOf, List.filterMap_map]
    refine List.filterMap_congr fun s _ => ?_
    cases ha : answer s f <;> simp [ha, outcomeOf, Outcome.failure?]
  · rename_i h
    rw [dueOutcomes_of_unresolved h]
    rfl

theorem enriched_eq (f : Finding) :
    enriched sources answer f = (mergeAll (prepare f) (dueOutcomes sources answer (prepare f))).score := by
  rw [mergeAll_dueOutcomes]
  rfl

/-- With neutral contributions a finding by itself has what the sources that succeed contribute, and a
record of each source that fails. -/
theorem enriched_of_neutral (hnodup : (sources.map (·.name)).Nodup) (f : Finding)
    (h : ∀ change ∈ contributions sources answer (prepare f), Neutral change) :
    enriched sources answer f =
        { (applyAll (contributions sources answer (prepare f)) (prepare f)).score with
          enrichmentErrors := (enriched sources answer f).enrichmentErrors } ∧
      ∀ name, (enriched sources answer f).enrichmentErrors.lookup name =
        ((failures sources answer (prepare f)).lookup name).or (f.enrichmentErrors.lookup name) := by
  have hneutral := h
  rw [← contributionsOf_dueOutcomes] at hneutral
  have hnames : ((dueOutcomes sources answer (prepare f)).map (·.1)).Nodup := by
    by_cases hf : (prepare f).resolveCve?.isSome = true
    · simpa [dueOutcomes_of_resolved hf, List.map_map, Function.comp_def] using hnodup
    · simp [dueOutcomes_of_unresolved hf]
  constructor
  · rw [enriched_eq, mergeAll_of_neutral hneutral, contributionsOf_dueOutcomes, neutral_score]
  · intro name
    rw [enriched_eq, score_enrichmentErrors, ← failuresOf_dueOutcomes, ← prepare_enrichmentErrors f]
    exact lookup_mergeAll (prepare f) hneutral hnames name

/-! ## One report for all orders -/

/-- `ranked` are the findings `results`, ranked: by falling risk, each score being a number, and in the
order of `results` where the risk is the same. -/
structure RankingOf (results ranked : List Finding) : Prop where
  perm : ranked.Perm results
  falling : ranked.Pairwise fun a b => b.riskScore ≤ a.riskScore
  numbers : ∀ f ∈ ranked, f.riskScore.isNaN = false
  stable : ∀ risk, ranked.filter (·.riskScore == risk) = results.filter (·.riskScore == risk)

theorem rankingOf_rank (fs : List Finding) : RankingOf (fs.map Finding.score) (rank fs) where
  perm := perm_rank fs
  falling := pairwise_rank fs
  numbers _ hf := isNaN_of_mem_scored ((perm_rank fs).mem_iff.1 hf)
  stable := filter_rank fs

end Steady

/-- Two sources that count how often they are asked: one contributes to every finding, the other fails
for one vulnerability. -/
def countingSources : List (Source Nat) :=
  [ { name := "first"
      contribute := fun _ n => (.ok fun f => { f with exploit := some { weaponized := true } }, n + 1) },
    { name := "second"
      contribute := fun f n =>
        (if f.cve = "CVE-2024-0002" then .error .timeout else .ok (·.addWarning "seen"), n + 1) } ]

/-- Two findings with identifiers and one without. -/
def mixedFindings : List Finding :=
  [{ cve := " cve-2024-0001" }, { id := "none" }, { id := "CVE-2024-0002" }]

/-- Four lookups of two workers, crossing each other. -/
def crossingMoves : List (Event Nat) :=
  [ .move 3 .acquire, .move 0 .acquire, .move 0 .checkSource, .move 3 .checkSource, .move 3 .checkRun,
    .move 3 .ask, .outside 5, .move 0 .checkRun, .move 3 .release, .move 1 .acquire, .move 0 .ask,
    .move 1 .checkSource, .move 1 .checkRun, .move 0 .release, .move 2 .acquire, .move 2 .checkSource,
    .move 2 .checkRun, .move 2 .ask, .move 1 .ask, .move 2 .release, .move 1 .release ]

theorem steady_countingSources : Steady countingSources fun s f => (s.contribute f 0).1 where
  distinct := by decide
  answers := by
    simp only [countingSources, List.mem_cons, List.not_mem_nil, or_false]
    rintro s (rfl | rfl) f state <;> rfl
  accepts := by
    simp only [countingSources, List.mem_cons, List.not_mem_nil, or_false]
    rintro s (rfl | rfl) f e h
    · cases h
    · dsimp only at h
      split at h
      · cases h; decide
      · cases h

theorem neutral_countingSources (f : Finding) :
    ∀ change ∈ contributions countingSources (fun s f => (s.contribute f 0).1) f, Neutral change := by
  intro change h
  unfold contributions at h
  split at h
  · obtain ⟨s, hs, h⟩ := List.mem_filterMap.1 h
    simp only [countingSources, List.mem_cons, List.not_mem_nil, or_false] at hs
    rcases hs with rfl | rfl
    · cases h
      exact fun _ _ => rfl
    · dsimp only at h
      split at h
      · cases h
      · cases h
        exact neutral_addWarning _
  · cases h

end Triage.Engine
