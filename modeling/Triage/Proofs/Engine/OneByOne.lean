import Triage.Proofs.Activities
import Triage.Proofs.Engine.FanOut

/-!
# One lookup after the other

Making the lookups one after the other is one of the orders in which they can be made side by side:
with a worker to take, the moves of each task follow those of the task before. So what holds of every
order of the moves holds of `enrich`. Main statement: `enrich_eq_report`.
-/
namespace Triage.Engine

variable {σ : Type}

/-! ## Results row by row -/

theorem rows_map {α β : Type} (g : α → β) (width : Nat) (fs : List Finding) (l : List α) :
    rows width fs (l.map g) = (rows width fs l).map (List.map g) := by
  induction fs generalizing l with
  | nil => rfl
  | cons f fs ih =>
    simp only [rows]
    split
    · simp [← List.map_take, ← List.map_drop, ih]
    · simp [ih]

theorem length_rows {α : Type} (width : Nat) (fs : List Finding) (l : List α) :
    (rows width fs l).length = fs.length := by
  induction fs generalizing l with
  | nil => rfl
  | cons f fs ih => simp only [rows]; split <;> simp [ih]

/-- The tasks of a run are for its sources, and wait. -/
theorem mem_tasksOf {sources : List (Source σ)} {fs : List Finding} {t : Task σ}
    (h : t ∈ tasksOf sources fs) : t.source ∈ sources ∧ t.phase = .waiting := by
  obtain ⟨f, -, h⟩ := List.mem_flatMap.1 h
  unfold tasksFor at h
  split at h
  · obtain ⟨s, hs, rfl⟩ := List.mem_map.1 h
    exact ⟨hs, rfl⟩
  · cases h

/-- Every finding with an identifier has a task for each source. -/
theorem countP_tasksOf (P : Source σ → Bool) (sources : List (Source σ)) (fs : List Finding) :
    (tasksOf sources fs).countP (fun t => P t.source) =
      fs.countP (·.resolveCve?.isSome) * sources.countP P := by
  induction fs with
  | nil => simp [tasksOf]
  | cons f fs ih =>
    simp only [tasksOf, List.flatMap_cons, List.countP_append] at ih ⊢
    rw [ih, List.countP_cons, tasksFor]
    split <;> simp [Nat.add_mul, Nat.add_comm, List.countP_map, Function.comp_def]

theorem length_tasksOf (sources : List (Source σ)) (fs : List Finding) :
    (tasksOf sources fs).length = fs.countP (·.resolveCve?.isSome) * sources.length := by
  simpa using countP_tasksOf (fun _ => true) sources fs

/-- Each finding with an identifier gets the results of its own lookups back, in the order of the
sources. -/
theorem rows_tasksOf {α : Type} (g : Task σ → α) (sources : List (Source σ)) (fs : List Finding) :
    rows sources.length fs ((tasksOf sources fs).map g) =
      fs.map fun f => (tasksFor sources f).map g := by
  induction fs with
  | nil => rfl
  | cons f fs ih =>
    simp only [tasksOf, List.flatMap_cons, List.map_append] at ih ⊢
    by_cases h : f.resolveCve?.isSome = true
    · have hlen : ((tasksFor sources f).map g).length = sources.length := by simp [tasksFor, h]
      simp only [rows, h, if_true, List.map_cons]
      rw [List.take_left' hlen, List.drop_left' hlen, ih]
    · have hnil : (tasksFor sources f).map g = [] := by simp [tasksFor, h]
      simp only [rows, h, Bool.false_eq_true, if_false, List.map_cons]
      rw [hnil, List.nil_append, ih]

theorem flatten_rows {α : Type} (sources : List (Source σ)) (fs : List Finding) (l : List α)
    (h : l.length = (tasksOf sources fs).length) : (rows sources.length fs l).flatten = l := by
  induction fs generalizing l with
  | nil =>
    have : l = [] := by simpa [tasksOf] using h
    simp [rows, this]
  | cons f fs ih =>
    rw [length_tasksOf, List.countP_cons] at h
    by_cases hf : f.resolveCve?.isSome = true
    · simp only [hf, if_true, Nat.add_mul, Nat.one_mul] at h
      simp only [rows, hf, if_true, List.flatten_cons]
      rw [ih (l.drop sources.length) (by rw [length_tasksOf, List.length_drop]; omega),
        List.take_append_drop]
    · simp only [hf, Bool.false_eq_true, if_false, Nat.add_zero] at h
      simp only [rows, hf, Bool.false_eq_true, if_false, List.flatten_cons, List.nil_append]
      exact ih l (by rw [length_tasksOf, h])

/-! ## The moves of one lookup -/

def Task.lookup (canceled : Bool) (t : Task σ) : StateM (Run σ) (String × Outcome) :=
  return (t.source.name, ← Engine.lookup canceled t.source t.finding)

namespace FanOut

variable {workers : Nat} {m : FanOut σ}

theorem exec_move {pre post : List (Task σ)} {t : Task σ} {mv : Move} {p : Phase} {r : Run σ}
    (es : List (Event σ)) (ht : m.tasks = pre ++ t :: post)
    (hm : t.move (m.busy < workers) m.canceled m.run mv = some (p, r)) :
    m.exec workers (.move pre.length mv :: es) =
      ({ m with run := r, tasks := pre ++ { t with phase := p } :: post } : FanOut σ).exec workers es := by
  simp only [exec, step_of_move ht hm, Option.bind_some]

/-- With a worker to take, a task can go through all its moves at once; this makes the lookup. -/
theorem exists_exec_lookup {pre post : List (Task σ)} {t : Task σ} (hw : m.busy < workers)
    (ht : m.tasks = pre ++ t :: post) (hp : t.phase = .waiting) :
    ∃ es, (∀ s, .outside s ∉ es) ∧ m.exec workers es = some
      { m with
        run := (lookup m.canceled t.source t.finding m.run).2
        tasks := pre ++ { t with phase := .done (lookup m.canceled t.source t.finding m.run).1 } :: post } := by
  have hacquire : t.move (m.busy < workers) m.canceled m.run .acquire = some (.admitted, m.run) := by
    simp [Task.move, hp, hw]
  by_cases hd : t.source.name ∈ m.run.disabled
  · refine ⟨[.move pre.length .acquire, .move pre.length .checkSource, .move pre.length .release], by simp, ?_⟩
    rw [exec_move _ ht hacquire,
      exec_move (p := .settled (.skipped (disabledFailure t.source.name))) (r := m.run) _ rfl
        (by simp [Task.move, hd]),
      exec_move (p := .done (.skipped (disabledFailure t.source.name))) (r := m.run) _ rfl
        (by simp [Task.move])]
    simp [exec, lookup, hd]
  cases hc : m.canceled with
  | true =>
    refine ⟨[.move pre.length .acquire, .move pre.length .checkSource, .move pre.length .checkRun,
      .move pre.length .release], by simp, ?_⟩
    rw [exec_move _ ht hacquire,
      exec_move (p := .cleared) (r := m.run) _ rfl (by simp [Task.move, hd]),
      exec_move (p := .settled (.skipped (Failure.canceled.classify t.source.name))) (r := m.run) _ rfl
        (by simp [Task.move, hc]),
      exec_move (p := .done (.skipped (Failure.canceled.classify t.source.name))) (r := m.run) _ rfl
        (by simp [Task.move])]
    simp [exec, lookup, hd, hc]
  | false =>
    rcases ha : ask t.source t.finding m.run.state with ⟨o, state⟩
    cases ho : o.disables with
    | true =>
      refine ⟨[.move pre.length .acquire, .move pre.length .checkSource, .move pre.length .checkRun,
        .move pre.length .ask, .move pre.length .giveUp, .move pre.length .release], by simp, ?_⟩
      rw [exec_move _ ht hacquire,
        exec_move (p := .cleared) (r := m.run) _ rfl (by simp [Task.move, hd]),
        exec_move (p := .asking) (r := m.run) _ rfl (by simp [Task.move, hc]),
        exec_move (p := .rejected o) (r := { m.run with state }) _ rfl (by simp [Task.move, ha, ho]),
        exec_move (p := .settled o)
          (r := { state, disabled := t.source.name :: m.run.disabled }) _ rfl (by simp [Task.move]),
        exec_move (p := .done o)
          (r := { state, disabled := t.source.name :: m.run.disabled }) _ rfl (by simp [Task.move])]
      simp [exec, lookup, hd, hc, ha, ho]
    | false =>
      refine ⟨[.move pre.length .acquire, .move pre.length .checkSource, .move pre.length .checkRun,
        .move pre.length .ask, .move pre.length .release], by simp, ?_⟩
      rw [exec_move _ ht hacquire,
        exec_move (p := .cleared) (r := m.run) _ rfl (by simp [Task.move, hd]),
        exec_move (p := .asking) (r := m.run) _ rfl (by simp [Task.move, hc]),
        exec_move (p := .settled o) (r := { m.run with state }) _ rfl (by simp [Task.move, ha, ho]),
        exec_move (p := .done o) (r := { m.run with state }) _ rfl (by simp [Task.move])]
      simp [exec, lookup, hd, hc, ha, ho]

/-- The tasks of a run one after the other, each of them at once. -/
theorem exists_exec_all (hw : 0 < workers) (m : FanOut σ) (through todo : List (Task σ))
    (ht : m.tasks = through ++ todo) (hthrough : ∀ t ∈ through, ∃ o, t.phase = .done o)
    (htodo : ∀ t ∈ todo, t.phase = .waiting) :
    ∃ es m', (∀ s, .outside s ∉ es) ∧ m.exec workers es = some m' ∧ m'.Finished ∧
      m'.canceled = m.canceled ∧ m'.run = (todo.mapM (Task.lookup m.canceled) m.run).2 ∧
      m'.outcomes = m.outcomes ++ (todo.mapM (Task.lookup m.canceled) m.run).1 := by
  induction todo generalizing m through with
  | nil =>
    refine ⟨[], m, by simp, rfl, ?_, rfl, rfl, by simp; rfl⟩
    rw [List.append_nil] at ht
    exact fun t h => hthrough t (ht ▸ h)
  | cons t todo ih =>
    have hidle : m.busy = 0 := by
      refine List.countP_eq_zero.2 fun t' ht' hold => ?_
      rw [ht, List.mem_append] at ht'
      rcases ht' with h | h
      · obtain ⟨o, ho⟩ := hthrough t' h
        simp [ho, Phase.holdsWorker] at hold
      · simp [htodo t' h, Phase.holdsWorker] at hold
    obtain ⟨es, hinside, hes⟩ := exists_exec_lookup (by omega : m.busy < workers) ht (htodo t (by simp))
    -- The task is through now and joins those before it.
    have hnext := ih
      { m with
        run := (lookup m.canceled t.source t.finding m.run).2
        tasks := through ++ { t with phase := .done (lookup m.canceled t.source t.finding m.run).1 } :: todo }
      (through ++ [{ t with phase := .done (lookup m.canceled t.source t.finding m.run).1 }])
      (by simp) (by
        intro t' h
        rcases List.mem_append.1 h with h | h
        · exact hthrough t' h
        · rw [List.mem_singleton] at h; subst h; exact ⟨_, rfl⟩)
      (fun t' h => htodo t' (by simp [h]))
    obtain ⟨es', m', hinside', he, hfin, hcan, hrun, hout⟩ := hnext
    refine ⟨es ++ es', m', fun s => ?_, ?_, hfin, hcan, ?_, ?_⟩
    · exact fun hs => (List.mem_append.1 hs).elim (hinside s) (hinside' s)
    · rw [exec_append, hes]; exact he
    · rw [hrun, List.mapM_cons]; rfl
    · have hnone : todo.filterMap Task.result? = [] :=
        List.filterMap_eq_nil_iff.2 fun t' h => Task.result?_of_waiting (htodo t' (by simp [h]))
      rw [hout, List.mapM_cons]
      simp only [outcomes, ht, List.filterMap_append, List.filterMap_cons,
        Task.result?_of_waiting (htodo t (by simp)), hnone, List.append_nil, List.append_assoc]
      rfl

end FanOut

/-! ## The whole run -/

theorem lookups_eq_mapM (canceled : Bool) (sources : List (Source σ)) (f : Finding) :
    lookups canceled sources f = (tasksFor sources f).mapM (Task.lookup canceled) := by
  unfold lookups tasksFor
  split
  · rw [List.mapM_map]; rfl
  · rfl

/-- The lookups finding by finding are those of all tasks, row by row. -/
theorem mapM_lookups (canceled : Bool) (sources : List (Source σ)) (fs : List Finding) (r : Run σ) :
    fs.mapM (lookups canceled sources) r =
      (rows sources.length fs ((tasksOf sources fs).mapM (Task.lookup canceled) r).1,
        ((tasksOf sources fs).mapM (Task.lookup canceled) r).2) := by
  induction fs generalizing r with
  | nil => rfl
  | cons f fs ih =>
    have htasks : tasksOf sources (f :: fs) = tasksFor sources f ++ tasksOf sources fs := rfl
    rw [List.mapM_cons, htasks, List.mapM_append, lookups_eq_mapM]
    simp only [bind_apply, pure_apply, ih, rows]
    have hlen := length_mapM (Task.lookup canceled) (tasksFor sources f) r
    by_cases hf : f.resolveCve?.isSome = true
    · have hlen : ((tasksFor sources f).mapM (Task.lookup canceled) r).1.length = sources.length := by
        simpa [tasksFor, hf] using hlen
      rw [if_pos hf, List.take_left' hlen, List.drop_left' hlen]
    · have hnil : ((tasksFor sources f).mapM (Task.lookup canceled) r).1 = [] := by
        simpa [tasksFor, hf] using hlen
      rw [if_neg hf, hnil, List.nil_append]

/-- The run of the engine before the first lookup: the sources have forgotten what they knew and have
prepared for the vulnerabilities at hand. -/
def readyState (sources : List (Source σ)) (fs : List Finding) (st : σ) : σ :=
  (prefetchAll sources (vulnerabilities fs) (resetAll sources st).2).2

/-- The outcomes of the lookups made one after the other, finding by finding. -/
def outcomesOneByOne (sources : List (Source σ)) (canceled : Bool) (fs : List Finding) (st : σ) :
    List (List (String × Outcome)) :=
  ((fs.map prepare).mapM (lookups canceled sources) { state := readyState sources fs st }).1

def merged (fs : List Finding) (outcomes : List (List (String × Outcome))) : List Finding :=
  ((fs.map prepare).zip outcomes).map fun (f, row) => mergeAll f row

theorem merged_cons (f : Finding) (fs : List Finding) (row : List (String × Outcome))
    (outcomes : List (List (String × Outcome))) :
    merged (f :: fs) (row :: outcomes) = mergeAll (prepare f) row :: merged fs outcomes := rfl

theorem enrich_apply (sources : List (Source σ)) (canceled : Bool) (fs : List Finding) (st : σ) :
    (enrich sources canceled fs st).1 =
      let prepared := fs.map prepare
      let looked := prepared.mapM (lookups canceled sources) { state := readyState sources fs st }
      Report.ofOutcomes (sources.map (·.name)) prepared looked.1 looked.2.disabled := rfl

theorem findings_enrich (sources : List (Source σ)) (canceled : Bool) (fs : List Finding) (st : σ) :
    (enrich sources canceled fs st).1.findings = rank (merged fs (outcomesOneByOne sources canceled fs st)) :=
  rfl

/-- The moves of the lookups one after the other, with nothing happening in between: they lead to the
outcomes of the lookups, and leave the run as the last of them does. -/
theorem exists_exec_lookups {workers : Nat} (hw : 0 < workers) (sources : List (Source σ))
    (canceled : Bool) (fs : List Finding) (st : σ) :
    ∃ es m, (FanOut.start sources (fs.map prepare) (readyState sources fs st)).exec workers es = some m ∧
      m.Finished ∧ (.cancel ∈ es ↔ canceled = true) ∧ (∀ s, .outside s ∉ es) ∧
      (fs.map prepare).mapM (lookups canceled sources) { state := readyState sources fs st } =
        (rows sources.length (fs.map prepare) m.outcomes, m.run) := by
  -- A run that is called off is so from its beginning.
  let m₀ := FanOut.start sources (fs.map prepare) (readyState sources fs st)
  let before : List (Event σ) := if canceled then [.cancel] else []
  have hbefore : m₀.exec workers before = some { m₀ with canceled } := by
    cases canceled <;> rfl
  have hwaiting : ∀ t ∈ m₀.tasks, t.phase = .waiting := fun t ht => (mem_tasksOf ht).2
  obtain ⟨es, m, hinside, he, hfin, hcan, hrun, hout⟩ := FanOut.exists_exec_all hw { m₀ with canceled } []
    m₀.tasks rfl (by simp) hwaiting
  have hexec : m₀.exec workers (before ++ es) = some m := by
    rw [FanOut.exec_append, hbefore]; exact he
  refine ⟨before ++ es, m, hexec, hfin, ?_, fun s hs => ?_, ?_⟩
  · have := FanOut.exec_canceled hexec
    rw [hcan] at this
    simpa [m₀, FanOut.start] using this.symm
  · rcases List.mem_append.1 hs with hs | hs
    · cases canceled <;> simp [before] at hs
    · exact hinside s hs
  · have hempty : m₀.outcomes = [] :=
      List.filterMap_eq_nil_iff.2 fun t ht => Task.result?_of_waiting (hwaiting t ht)
    have hout' : m.outcomes = (m₀.tasks.mapM (Task.lookup canceled) m₀.run).1 := by
      rw [hout]; exact congrArg (· ++ _) hempty
    rw [mapM_lookups, hout', hrun]
    rfl

/-- The same for the report. -/
theorem exists_exec_enrich {workers : Nat} (hw : 0 < workers) (sources : List (Source σ))
    (canceled : Bool) (fs : List Finding) (st : σ) :
    ∃ es m, (FanOut.start sources (fs.map prepare) (readyState sources fs st)).exec workers es = some m ∧
      m.Finished ∧ (.cancel ∈ es ↔ canceled = true) ∧ (∀ s, .outside s ∉ es) ∧
      (enrich sources canceled fs st).1 = m.report sources (fs.map prepare) := by
  obtain ⟨es, m, hexec, hfin, hcancel, hinside, hlookups⟩ := exists_exec_lookups hw sources canceled fs st
  refine ⟨es, m, hexec, hfin, hcancel, hinside, ?_⟩
  rw [enrich_apply]
  simp only [hlookups, FanOut.report]

/-- **Making the lookups one after the other is one way to make them side by side.** -/
theorem enrich_eq_report {workers : Nat} (hw : 0 < workers) (sources : List (Source σ))
    (canceled : Bool) (fs : List Finding) (st : σ) :
    ∃ es m, (FanOut.start sources (fs.map prepare) (readyState sources fs st)).exec workers es = some m ∧
      m.Finished ∧ (.cancel ∈ es ↔ canceled = true) ∧
      (enrich sources canceled fs st).1 = m.report sources (fs.map prepare) := by
  obtain ⟨es, m, he, hfin, hcancel, -, hreport⟩ := exists_exec_enrich hw sources canceled fs st
  exact ⟨es, m, he, hfin, hcancel, hreport⟩

end Triage.Engine
