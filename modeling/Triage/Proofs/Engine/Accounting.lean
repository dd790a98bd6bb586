import Mathlib.Data.List.Count
import Triage.Proofs.Cve
import Triage.Proofs.Engine.GivingUp
import Triage.Proofs.Engine.Records
import Triage.Proofs.Ranking

/-!
# The account of a run

What the tallies of a run say about it, whatever the sources answer, whenever the run is called off and
in whatever order the tasks move. Every lookup is counted once; a source is marked as given up exactly
if it rejected the credentials; what was skipped was skipped for a reason; and the findings that
carry a record of a failure of the source are as many as its lookups that did not succeed.
-/
namespace Triage.Engine

variable {σ : Type}

/-! ## Tallies count outcomes -/

namespace Outcome

def succeeded : Outcome → Bool
  | .contributed _ => true
  | _ => false

/-- The source was asked and failed. -/
def fell : Outcome → Bool
  | .failed _ => true
  | _ => false

/-- The source was not asked. -/
def passedOver : Outcome → Bool
  | .skipped _ => true
  | _ => false

end Outcome

theorem foldl_add (t : Tally) (l : List Outcome) :
    l.foldl Tally.add t =
      { t with
        succeeded := t.succeeded + l.countP (·.succeeded)
        failed := t.failed + l.countP (·.fell)
        skipped := t.skipped + l.countP (·.passedOver) } := by
  induction l generalizing t with
  | nil => rfl
  | cons o l ih =>
    rw [List.foldl_cons, ih]
    cases o <;> simp [Tally.add, Outcome.succeeded, Outcome.fell, Outcome.passedOver, Nat.add_assoc,
      Nat.add_comm]

/-- **A tally counts the outcomes of its source** by their sort. -/
theorem ofOutcomes_eq (name : String) (outcomes : List (String × Outcome)) (disabled : Bool) :
    Tally.ofOutcomes name outcomes disabled =
      { succeeded := outcomes.countP fun (n, o) => n == name && o.succeeded
        failed := outcomes.countP fun (n, o) => n == name && o.fell
        skipped := outcomes.countP fun (n, o) => n == name && o.passedOver
        disabled } := by
  rw [Tally.ofOutcomes, foldl_add]
  simp [List.countP_map, List.countP_filter, Function.comp_def, Bool.and_comm]

theorem countP_add {α : Type} {p q r : α → Bool} (h : ∀ x, (p x).toNat + (q x).toNat = (r x).toNat)
    (l : List α) : l.countP p + l.countP q = l.countP r := by
  induction l with
  | nil => rfl
  | cons a l ih =>
    have ha := h a
    simp only [List.countP_cons]
    cases hp : p a <;> cases hq : q a <;> cases hr : r a <;> simp_all <;> omega

/-- The lookups that did not succeed are those with a failure. -/
theorem ofOutcomes_failures (name : String) (outcomes : List (String × Outcome)) (disabled : Bool) :
    let t := Tally.ofOutcomes name outcomes disabled
    t.failed + t.skipped = outcomes.countP fun (n, o) => n == name && o.failure?.isSome := by
  rw [ofOutcomes_eq]
  exact countP_add (fun (n, o) => by dsimp only; cases n == name <;> cases o <;> rfl) outcomes

/-- **Every lookup is counted once.** -/
theorem ofOutcomes_total (name : String) (outcomes : List (String × Outcome)) (disabled : Bool) :
    let t := Tally.ofOutcomes name outcomes disabled
    t.succeeded + t.failed + t.skipped = outcomes.countP (·.1 == name) := by
  intro t
  have hfailures : t.failed + t.skipped = _ := ofOutcomes_failures name outcomes disabled
  have hsucceeded : t.succeeded = outcomes.countP fun (n, o) => n == name && o.succeeded :=
    congrArg Tally.succeeded (ofOutcomes_eq name outcomes disabled)
  rw [Nat.add_assoc, hfailures, hsucceeded]
  exact countP_add (fun (n, o) => by dsimp only; cases n == name <;> cases o <;> rfl) outcomes

/-- The tally of a source among those of all. -/
theorem lookup_tallies {names : List String} (hnodup : names.Nodup) {name : String} (h : name ∈ names)
    (outcomes : List (String × Outcome)) (disabled : List String) :
    (tallies names outcomes disabled).lookup name =
      some (Tally.ofOutcomes name outcomes (disabled.contains name)) := by
  have hkeys : ((names.map fun n => (n, Tally.ofOutcomes n outcomes (disabled.contains n))).map
      (·.1)).Nodup := by
    simpa [List.map_map, Function.comp_def] using hnodup
  calc (tallies names outcomes disabled).lookup name
      = ((names.map fun n => (n, Tally.ofOutcomes n outcomes (disabled.contains n))).lookup name).or none :=
        Keyed.lookup_insertAll hkeys [] name
    _ = some (Tally.ofOutcomes name outcomes (disabled.contains name)) := by
        rw [Keyed.lookup_map_self _ h]; rfl

/-! ## Lookups of a source -/

namespace FanOut

variable {sources : List (Source σ)} {prepared : List Finding} {state : σ} {workers : Nat}
  {m : FanOut σ} {es : List (Event σ)}

/-- In a run that has ended the outcomes are those of all tasks. -/
theorem countP_outcomes (hfin : m.Finished) (name : String) (q : Outcome → Bool) :
    m.outcomes.countP (fun (n, o) => n == name && q o) =
      m.tasks.countP fun t => t.source.name == name && t.phase.ended?.any q := by
  rw [outcomes, List.countP_filterMap]
  refine List.countP_congr fun t ht => ?_
  obtain ⟨o, ho⟩ := hfin t ht
  simp [Task.result?_of_done ho, ho, Phase.ended?]

/-- The outcomes of a run belong to the lookups it began with. -/
theorem outcomes_names_eq (h : (start sources prepared state).exec workers es = some m)
    (hfin : m.Finished) :
    m.outcomes.map (·.1) = (tasksOf sources prepared).map (·.source.name) := by
  calc m.outcomes.map (·.1) = m.tasks.map (·.source.name) := by
        rw [outcomes, List.map_filterMap, ← List.filterMap_eq_map]
        refine List.filterMap_congr fun t ht => ?_
        obtain ⟨o, ho⟩ := hfin t ht
        simp [Task.result?_of_done ho]
    _ = (m.tasks.map Task.job).map (·.1.name) := by rw [List.map_map]; rfl
    _ = (tasksOf sources prepared).map (·.source.name) := by
        rw [exec_jobs h, List.map_map]; rfl

/-- A source has one lookup for each finding with an identifier. -/
theorem countP_lookups (hnodup : (sources.map (·.name)).Nodup) {s : Source σ} (hs : s ∈ sources)
    (h : (start sources prepared state).exec workers es = some m) (hfin : m.Finished) :
    m.outcomes.countP (·.1 == s.name) = prepared.countP (·.resolveCve?.isSome) := by
  have hone : sources.countP (·.name == s.name) = 1 := by
    have := List.count_eq_one_of_mem hnodup (List.mem_map_of_mem hs)
    rwa [List.count, List.countP_map] at this
  calc m.outcomes.countP (·.1 == s.name)
      = (m.outcomes.map (·.1)).countP (· == s.name) := by rw [List.countP_map]; rfl
    _ = (tasksOf sources prepared).countP (·.source.name == s.name) := by
        rw [outcomes_names_eq h hfin, List.countP_map]; rfl
    _ = prepared.countP (·.resolveCve?.isSome) := by
        rw [countP_tasksOf (fun s' => s'.name == s.name), hone, Nat.mul_one]

/-- The outcomes of a run row by row are all of them. -/
theorem flatten_rows_outcomes (h : (start sources prepared state).exec workers es = some m)
    (hfin : m.Finished) : (rows sources.length prepared m.outcomes).flatten = m.outcomes :=
  flatten_rows sources prepared m.outcomes
    (by simpa using congrArg List.length (outcomes_names_eq h hfin))

/-- In a row each source has one outcome at most. -/
theorem nodup_of_mem_rows (hnodup : (sources.map (·.name)).Nodup)
    (h : (start sources prepared state).exec workers es = some m) (hfin : m.Finished)
    {os : List (String × Outcome)} (hos : os ∈ rows sources.length prepared m.outcomes) :
    (os.map (·.1)).Nodup := by
  have hrow : os.map (·.1) ∈ (rows sources.length prepared m.outcomes).map (List.map (·.1)) :=
    List.mem_map_of_mem hos
  rw [← rows_map, outcomes_names_eq h hfin, rows_tasksOf] at hrow
  obtain ⟨f, -, hf⟩ := List.mem_map.1 hrow
  rw [← hf, tasksFor]
  split
  · simpa [List.map_map, Function.comp_def] using hnodup
  · simp

end FanOut

/-! ## Findings with a record -/

/-- The lookups of a finding leave a record of the failure of the source `name`. -/
def writes (name : String) (outcomes : List (String × Outcome)) : Bool :=
  ((failuresOf outcomes).lookup name).isSome

/-- A row leaves a record of a source exactly if it has an outcome of it that is a failure. -/
theorem toNat_writes {outcomes : List (String × Outcome)} (h : (outcomes.map (·.1)).Nodup)
    (name : String) :
    (writes name outcomes).toNat = outcomes.countP fun (n, o) => n == name && o.failure?.isSome := by
  induction outcomes with
  | nil => rfl
  | cons no outcomes ih =>
    obtain ⟨n, o⟩ := no
    obtain ⟨hn, hnodup⟩ := List.nodup_cons.1 h
    have ih := ih hnodup
    rw [List.countP_cons, ← ih]
    by_cases hname : n = name
    · -- The source has no other outcome in this row.
      have hnone : outcomes.countP (fun (n, o) => n == name && o.failure?.isSome) = 0 := by
        refine List.countP_eq_zero.2 fun (n', o') hmem hq => hn ?_
        have hn' : n' = n := (eq_of_beq (Bool.and_eq_true_iff.1 hq).1).trans hname.symm
        exact List.mem_map.2 ⟨(n', o'), hmem, hn'⟩
      rw [ih, hnone]
      have hrest : writes name outcomes = false := Bool.toNat_eq_zero.1 (ih.trans hnone)
      cases o with
      | contributed change =>
        have hskip : writes name ((n, .contributed change) :: outcomes) = writes name outcomes := rfl
        simp [hskip, hrest, Outcome.failure?]
      | failed e => simp [writes, failuresOf, Outcome.failure?, hname]
      | skipped e => simp [writes, failuresOf, Outcome.failure?, hname]
    · have hne : (name == n) = false := beq_false_of_ne (Ne.symm hname)
      have hother : writes name ((n, o) :: outcomes) = writes name outcomes := by
        cases o <;> simp [writes, failuresOf, Outcome.failure?, List.lookup_cons, hne]
      simp [hother, hname]

theorem countP_writes {rs : List (List (String × Outcome))}
    (h : ∀ os ∈ rs, (os.map (·.1)).Nodup) (name : String) :
    rs.countP (writes name) = rs.flatten.countP fun (n, o) => n == name && o.failure?.isSome := by
  induction rs with
  | nil => rfl
  | cons os rs ih =>
    have hrow := toNat_writes (h os (by simp)) name
    rw [List.countP_cons, List.flatten_cons, List.countP_append, ← hrow,
      ih fun os hos => h os (by simp [hos])]
    cases writes name os <;> simp [Nat.add_comm]

/-- The findings of a report with a record of a source, if none came with one. -/
theorem countP_records {names : List String} {prepared : List Finding}
    {rs : List (List (String × Outcome))} {disabled : List String} {name : String}
    (hlen : rs.length = prepared.length) (hnodup : ∀ os ∈ rs, (os.map (·.1)).Nodup)
    (hneutral : ∀ os ∈ rs, ∀ change ∈ contributionsOf os, Neutral change)
    (hnone : ∀ f ∈ prepared, f.enrichmentErrors.lookup name = none) :
    (Report.ofOutcomes names prepared rs disabled).findings.countP
      (fun f => (f.enrichmentErrors.lookup name).isSome) = rs.countP (writes name) := by
  have hrecord : ∀ p ∈ prepared.zip rs,
      (((mergeAll p.1 p.2).enrichmentErrors.lookup name).isSome = true ↔ writes name p.2 = true) := by
    rintro ⟨f, os⟩ hmem
    obtain ⟨hf, hos⟩ := List.of_mem_zip hmem
    rw [lookup_mergeAll f (hneutral os hos) (hnodup os hos) name, hnone f hf, Option.or_none]
    rfl
  calc (Report.ofOutcomes names prepared rs disabled).findings.countP
        (fun f => (f.enrichmentErrors.lookup name).isSome)
      = (((prepared.zip rs).map fun p => mergeAll p.1 p.2).map Finding.score).countP
          (fun f => (f.enrichmentErrors.lookup name).isSome) := (perm_rank _).countP_eq _
    _ = (prepared.zip rs).countP
          (fun p => ((mergeAll p.1 p.2).enrichmentErrors.lookup name).isSome) := by
        rw [List.countP_map, List.countP_map]; rfl
    _ = (prepared.zip rs).countP (fun p => writes name p.2) := List.countP_congr hrecord
    _ = ((prepared.zip rs).map (·.2)).countP (writes name) := by rw [List.countP_map]; rfl
    _ = rs.countP (writes name) := by rw [List.map_snd_zip (Nat.le_of_eq hlen)]

/-! ## The account -/

/-- What the tally `t` of the source `s` says about a run over the findings `fs` that has ended in
`m`. -/
structure Account (sources : List (Source σ)) (fs : List Finding) (workers : Nat)
    (events : List (Event σ)) (m : FanOut σ) (s : Source σ) (t : Tally) : Prop where
  /-- There is one lookup for each finding with an identifier, and it is counted once. -/
  total : t.succeeded + t.failed + t.skipped = fs.countP (·.resolveCve?.isSome)
  succeeded : t.succeeded =
    m.tasks.countP fun x => x.source.name == s.name && x.phase.ended?.any (·.succeeded)
  failed : t.failed = m.tasks.countP fun x => x.source.name == s.name && x.phase.ended?.any (·.fell)
  skipped : t.skipped =
    m.tasks.countP fun x => x.source.name == s.name && x.phase.ended?.any (·.passedOver)
  /-- The source was given up exactly if it rejected the credentials in some lookup. -/
  disabled : t.disabled = true ↔ ∃ x ∈ m.tasks, x.source.name = s.name ∧ ∃ state cause,
    (x.source.contribute x.finding state).1 = .error cause ∧
      x.phase = .done (.failed (cause.classify s.name)) ∧ (cause.classify s.name).kind = disablingKind
  /-- What was skipped did not reach the source, and there was a reason to skip it. -/
  reason : ∀ i x e, m.tasks[i]? = some x → x.source.name = s.name → x.phase = .done (.skipped e) →
    .move i .ask ∉ events ∧ FanOut.SkipReason m.tasks events i s.name
  /-- Who checks after the source was given up does not ask it. -/
  barred : ∀ pre i post x, events = pre ++ .move i .checkSource :: post → m.tasks[i]? = some x →
    x.source.name = s.name → FanOut.GaveUp m.tasks pre s.name → .move i .ask ∉ events
  /-- No more lookups find the credentials rejected than there are workers. -/
  rejected_le : m.tasks.countP (fun x => x.source.name == s.name && x.phase.ended?.any (·.disables))
    ≤ workers
  /-- As many findings get a record of a failure of the source as lookups did not succeed. -/
  written : (rows sources.length (fs.map prepare) m.outcomes).countP (writes s.name) =
    t.failed + t.skipped
  /-- The record is the one of the lookup of that finding, if there is a failure, and else untouched. -/
  record : ∀ f os, (f, os) ∈ (fs.map prepare).zip (rows sources.length (fs.map prepare) m.outcomes) →
    (∀ change ∈ contributionsOf os, Neutral change) →
      (mergeAll f os).enrichmentErrors.lookup s.name =
        ((failuresOf os).lookup s.name).or (f.enrichmentErrors.lookup s.name)
  /-- If the findings come without a record of the source, those with one can be counted in the end. -/
  visible : (∀ os ∈ rows sources.length (fs.map prepare) m.outcomes,
      ∀ change ∈ contributionsOf os, Neutral change) →
    (∀ f ∈ fs, f.enrichmentErrors.lookup s.name = none) →
      (m.report sources (fs.map prepare)).findings.countP
        (fun f => (f.enrichmentErrors.lookup s.name).isSome) = t.failed + t.skipped

/-- A source has been given up exactly if it rejected the credentials in some lookup. -/
theorem FanOut.mem_disabled_iff {sources : List (Source σ)} {prepared : List Finding} {state : σ}
    {workers : Nat} {es : List (Event σ)} {m : FanOut σ}
    (h : (FanOut.start sources prepared state).exec workers es = some m) (hfin : m.Finished)
    (name : String) :
    name ∈ m.run.disabled ↔ ∃ x ∈ m.tasks, x.source.name = name ∧ ∃ state cause,
      (x.source.contribute x.finding state).1 = .error cause ∧
        x.phase = .done (.failed (cause.classify name)) ∧ (cause.classify name).kind = disablingKind := by
  rw [(FanOut.consistent_exec h).disabled_iff name]
  constructor
  · rintro ⟨x, hx, rfl, o, ho, hd⟩
    obtain ⟨o', hdone⟩ := hfin x hx
    rw [hdone] at ho
    cases ho
    have hanswer := FanOut.exec_answersOf h x hx
    simp only [FanOut.AnswersOf, hdone] at hanswer
    cases o with
    | contributed change => cases hd
    | skipped e => cases hd
    | failed e =>
      obtain ⟨e', he'⟩ | ⟨st, hst⟩ := hanswer
      · cases he'
      · obtain ⟨cause, hcause, rfl⟩ := contribute_of_ask_failed hst
        exact ⟨x, hx, rfl, st, cause, hcause, hdone, eq_of_beq hd⟩
  · rintro ⟨x, hx, hname, -, cause, -, hdone, hkind⟩
    exact ⟨x, hx, hname, .failed (cause.classify name), by rw [hdone]; rfl, beq_iff_eq.2 hkind⟩

/-- Tasks that have ended with rejected credentials were in flight. -/
theorem FanOut.countP_rejected_le {m : FanOut σ} {workers : Nat} (h : m.Consistent workers)
    (name : String) :
    m.tasks.countP (fun x => x.source.name == name && x.phase.ended?.any (·.disables)) ≤ workers := by
  refine Nat.le_trans (List.countP_mono_left fun x _ hx => ?_) (h.inFlight_le name)
  obtain ⟨hname, hended⟩ := Bool.and_eq_true_iff.1 hx
  refine Bool.and_eq_true_iff.2 ⟨hname, ?_⟩
  cases hp : x.phase <;> rw [hp] at hended <;> simp_all [Phase.ended?, Phase.inFlight]

/-- **The account of a run.** Take a run in which the sources answer as they like, which may be called
off at any moment, and in which the tasks move in any order. It can be ended, and once it has ended
the report has a tally for each source that accounts for the lookups in it. -/
theorem account_of_run {sources : List (Source σ)} (hnodup : (sources.map (·.name)).Nodup)
    {workers : Nat} (hw : 0 < workers) (fs : List Finding) (state : σ) {events : List (Event σ)}
    {m : FanOut σ}
    (hexec : (FanOut.start sources (fs.map prepare) state).exec workers events = some m) :
    (∃ more m', m.exec workers more = some m' ∧ m'.Finished) ∧
      (m.Finished → ∀ s ∈ sources, ∃ t,
        (m.report sources (fs.map prepare)).stats.lookup s.name = some t ∧
          Account sources fs workers events m s t) := by
  constructor
  · obtain ⟨more, m', -, hmore, hfin⟩ := FanOut.exists_finish hw m
    exact ⟨more, m', hmore, hfin⟩
  intro hfin s hs
  have hflat := FanOut.flatten_rows_outcomes hexec hfin
  have hjobs := FanOut.exec_jobs hexec
  have hnames : ∀ os ∈ rows sources.length (fs.map prepare) m.outcomes, (os.map (·.1)).Nodup :=
    fun _ hos => FanOut.nodup_of_mem_rows hnodup hexec hfin hos
  refine ⟨Tally.ofOutcomes s.name m.outcomes (m.run.disabled.contains s.name), ?_, ?_⟩
  · rw [← hflat]
    exact lookup_tallies hnodup (List.mem_map_of_mem hs) _ _
  have hwritten : (rows sources.length (fs.map prepare) m.outcomes).countP (writes s.name) = _ :=
    (countP_writes hnames s.name).trans ((congrArg (List.countP _) hflat).trans
      (ofOutcomes_failures s.name m.outcomes (m.run.disabled.contains s.name)).symm)
  constructor
  case total =>
    rw [ofOutcomes_total, FanOut.countP_lookups hnodup hs hexec hfin, List.countP_map]
    exact List.countP_congr fun f _ => by simp [resolveCve?_prepare]
  case succeeded => rw [ofOutcomes_eq]; exact FanOut.countP_outcomes hfin s.name _
  case failed => rw [ofOutcomes_eq]; exact FanOut.countP_outcomes hfin s.name _
  case skipped => rw [ofOutcomes_eq]; exact FanOut.countP_outcomes hfin s.name _
  case disabled =>
    rw [ofOutcomes_eq]
    exact List.contains_iff_mem.trans (FanOut.mem_disabled_iff hexec hfin s.name)
  case reason =>
    intro i x e hx hname hdone
    have hended : x.phase.ended? = some (.skipped e) := by rw [hdone]; rfl
    refine ⟨?_, ?_⟩
    · rw [FanOut.exec_asked hexec hx, Phase.asked_of_skipped hended]
      exact Bool.false_ne_true
    · rw [← hname]
      exact FanOut.skipReason_congr hjobs.symm (FanOut.exec_skipped hexec hx hended)
  case barred =>
    rintro pre i post x rfl hx hname hg
    rw [← hname] at hg
    exact FanOut.exec_barred hexec hx (FanOut.gaveUp_congr hjobs hg)
  case rejected_le => exact FanOut.countP_rejected_le (FanOut.consistent_exec hexec) s.name
  case written => exact hwritten
  case record =>
    intro f os hmem hneutral
    exact lookup_mergeAll f hneutral (hnames os (List.of_mem_zip hmem).2) s.name
  case visible =>
    intro hneutral hnone
    refine (countP_records (length_rows _ _ _) hnames hneutral fun f hf => ?_).trans hwritten
    obtain ⟨g, hg, rfl⟩ := List.mem_map.1 hf
    rw [prepare_enrichmentErrors]
    exact hnone g hg

/-- A source that rejects the credentials, and one that accepts them. -/
def lockedAndOpen : List (Source Unit) :=
  [ { name := "locked", contribute := fun _ u => (.error (.auth "locked" 401), u) },
    { name := "open", contribute := fun _ u => (.ok (·.addWarning "seen"), u) } ]

def threeFindings : List Finding :=
  [{ cve := "CVE-2024-0001" }, { cve := "CVE-2024-0002" }, { id := "cve-2024-0003" }]

/-- Two workers ask the locked source before either of them gives it up. A third lookup in it comes too
late, and one in the open source comes after the run was called off. -/
def lateMoves : List (Event Unit) :=
  [ .move 0 .acquire, .move 2 .acquire, .move 0 .checkSource, .move 2 .checkSource,
    .move 2 .checkRun, .move 0 .checkRun, .move 2 .ask, .move 0 .ask, .move 0 .giveUp, .move 0 .release,
    .move 4 .acquire, .move 4 .checkSource, .move 4 .release, .move 1 .acquire, .move 1 .checkSource,
    .move 1 .checkRun, .move 2 .giveUp, .move 2 .release, .move 5 .acquire, .move 5 .checkSource,
    .cancel, .move 5 .checkRun, .move 1 .ask, .move 1 .release, .move 5 .release, .move 3 .acquire,
    .move 3 .checkSource, .move 3 .checkRun, .move 3 .release ]

theorem account_of_late_run : ∃ m,
    (FanOut.start lockedAndOpen (threeFindings.map prepare) ()).exec 2 lateMoves = some m ∧
      m.Finished ∧
      (m.report lockedAndOpen (threeFindings.map prepare)).stats =
        [("locked", ⟨0, 2, 1, true⟩), ("open", ⟨1, 0, 2, false⟩)] ∧
      ∀ s ∈ lockedAndOpen, ∃ t,
        (m.report lockedAndOpen (threeFindings.map prepare)).stats.lookup s.name = some t ∧
          Account lockedAndOpen threeFindings 2 lateMoves m s t := by
  have hrun : (((FanOut.start lockedAndOpen (threeFindings.map prepare) ()).exec 2 lateMoves).any
      fun m => decide (m.Finished ∧ (m.report lockedAndOpen (threeFindings.map prepare)).stats =
        [("locked", ⟨0, 2, 1, true⟩), ("open", ⟨1, 0, 2, false⟩)])) = true := by decide +kernel
  obtain ⟨m, hexec, hm⟩ := (Option.any_eq_true _ _).1 hrun
  obtain ⟨hfin, hstats⟩ := of_decide_eq_true hm
  exact ⟨m, hexec, hfin, hstats, (account_of_run (by decide) (by decide) threeFindings () hexec).2 hfin⟩

end Triage.Engine
