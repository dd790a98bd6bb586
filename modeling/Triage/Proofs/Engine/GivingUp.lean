import Triage.Proofs.Engine.OneByOne
import Triage.Proofs.SideBySide

/-!
# Sources that are given up

A task checks whether its source has been given up long before it gives it up itself, and other tasks
move in between. So several tasks may find the credentials rejected. What bounds them are the workers:
at the moment a source is given up first, everyone who can still find its credentials rejected has a
worker, and nobody joins them later (`countP_inFlight_le`).

The module also tells from the events of a run what its tasks did: a task has asked its source exactly
if it ended in an answer (`exec_asked`), and one that was skipped met a source that was given up, or a
run that was called off, before its check (`exec_skipped`).
-/
namespace Triage.Engine

open SideBySide (forall_mem_replace exists_mem_replace countP_replace)

variable {σ : Type}

namespace Phase

def ended? : Phase → Option Outcome
  | .settled o | .done o => some o
  | _ => none

/-- The task has asked its source. -/
def asked : Phase → Bool
  | .rejected _ => true
  | .settled (.skipped _) | .done (.skipped _) => false
  | .settled _ | .done _ => true
  | _ => false

/-- The credentials of the source may turn out rejected in this task, or have done so. -/
def inFlight : Phase → Bool
  | .cleared | .asking | .rejected _ => true
  | .settled o | .done o => o.disables
  | _ => false

theorem asked_of_skipped {p : Phase} {e : SourceFailure} (h : p.ended? = some (.skipped e)) :
    p.asked = false := by
  cases p <;> cases h <;> rfl

end Phase

/-- The task has ended with rejected credentials of the source `name`. -/
def Task.EndedRejected (t : Task σ) (name : String) : Prop :=
  t.source.name = name ∧ ∃ o, t.phase.ended? = some o ∧ o.disables = true

theorem Task.holdsWorker_of_inFlight {t : Task σ} {name : String} (hname : t.source.name = name)
    (h : t.phase.inFlight = true) (hnot : ¬ t.EndedRejected name) : t.phase.holdsWorker = true := by
  cases hp : t.phase with
  | waiting => rw [hp] at h; cases h
  | done o => rw [hp] at h; exact absurd ⟨hname, o, by rw [hp]; rfl, h⟩ hnot
  | _ => rfl

/-! ## What a move means for its source -/

section Moves

variable {t : Task σ} {free canceled : Bool} {r r' : Run σ} {mv : Move} {p : Phase} {name : String}

/-- Whoever has a worker after a move had one before, or took a free one. -/
theorem Task.Moves.holdsWorker (h : t.Moves free canceled r mv p r') (hp : p.holdsWorker = true) :
    t.phase.holdsWorker = true ∨ free = true := by
  cases h with
  | admitted _ hf => exact .inr hf
  | released _ => cases hp
  | _ => simp [*, Phase.holdsWorker]

/-- A task that may find the credentials rejected after a move could do so before, unless it has just
seen that its source was not given up. -/
theorem Task.Moves.inFlight (h : t.Moves free canceled r mv p r') (hp : p.inFlight = true) :
    t.phase.inFlight = true ∨ t.source.name ∉ r'.disabled := by
  cases h with
  | cleared _ hd => exact .inr hd
  | answered _ _ hd => simp [Phase.inFlight, hd] at hp
  | _ => simp_all [Phase.inFlight, Outcome.disables]

/-- Only rejected credentials make a task give its source up. -/
theorem Task.Moves.disables {o : Outcome} (h : t.Moves free canceled r mv (.rejected o) r') :
    o.disables = true := by
  cases h with
  | rejected _ _ hd => exact hd

/-- A source that was asked and failed has failed, and its failure is classified. -/
theorem contribute_of_ask_failed {source : Source σ} {f : Finding} {state : σ} {e : SourceFailure}
    (h : (ask source f state).1 = .failed e) :
    ∃ cause, (source.contribute f state).1 = .error cause ∧ e = cause.classify source.name := by
  unfold ask at h
  rw [bind_apply] at h
  cases hc : (source.contribute f state).1 with
  | ok change => rw [hc] at h; cases h
  | error cause =>
    rw [hc] at h
    exact ⟨cause, rfl, (Outcome.failed.inj h).symm⟩

theorem ask_ne_skipped (source : Source σ) (f : Finding) (state : σ) (e : SourceFailure) :
    (ask source f state).1 ≠ .skipped e := by
  unfold ask
  rw [bind_apply]
  cases (source.contribute f state).1 <;> exact Outcome.noConfusion

/-- A task counts as having asked from the move on in which it does. -/
theorem Task.Moves.asked (h : t.Moves free canceled r mv p r')
    (hrej : ∀ o, t.phase = .rejected o → o.disables = true) :
    p.asked = true ↔ t.phase.asked = true ∨ mv = .ask := by
  cases h with
  | answered hp ha hd =>
    rename_i o state
    have hskip := ask_ne_skipped t.source t.finding r.state
    rw [ha] at hskip
    cases o with
    | skipped e => exact absurd rfl (hskip e)
    | _ => simp [Phase.asked]
  | gaveUp hp =>
    rename_i o
    cases o with
    | skipped e => cases hrej _ hp
    | _ => simp [hp, Phase.asked]
  | released hp =>
    rename_i o
    cases o <;> simp [hp, Phase.asked]
  | _ => simp [*, Phase.asked]

theorem Task.Moves.disabled_mono (h : t.Moves free canceled r mv p r') (hn : name ∈ r.disabled) :
    name ∈ r'.disabled := by
  cases h with
  | gaveUp _ => exact List.mem_cons_of_mem _ hn
  | _ => exact hn

/-- A source that a move gives up is that of its task, which has ended with rejected credentials. -/
theorem Task.Moves.mem_disabled (h : t.Moves free canceled r mv p r')
    (hrej : ∀ o, t.phase = .rejected o → o.disables = true) (hn : name ∈ r'.disabled) :
    name ∈ r.disabled ∨ ({ t with phase := p } : Task σ).EndedRejected name := by
  cases h with
  | gaveUp hp =>
    rcases List.mem_cons.1 hn with rfl | hn
    · exact .inr ⟨rfl, _, rfl, hrej _ hp⟩
    · exact .inl hn
  | _ => exact .inl hn

/-- A task that ends with rejected credentials gives its source up. -/
theorem Task.Moves.endedRejected (h : t.Moves free canceled r mv p r')
    (hp : ({ t with phase := p } : Task σ).EndedRejected name) :
    t.EndedRejected name ∨ name ∈ r'.disabled := by
  obtain ⟨hname, o, ho, hd⟩ := hp
  cases h with
  | gaveUp _ => exact .inr (hname ▸ List.mem_cons_self)
  | released hs => exact .inl ⟨hname, o, by rw [hs]; exact ho, hd⟩
  | answered _ _ hnot => cases ho; rw [hnot] at hd; cases hd
  | barred => cases ho; cases hd
  | calledOff => cases ho; cases hd
  | _ => cases ho

/-- An outcome that stands is not touched again. -/
theorem Task.Moves.ended?_mono (h : t.Moves free canceled r mv p r') {o : Outcome}
    (ht : t.phase.ended? = some o) : p.ended? = some o := by
  cases h with
  | released hs => rw [hs] at ht; exact ht
  | _ => simp_all [Phase.ended?]

theorem Task.Moves.endedRejected_mono (h : t.Moves free canceled r mv p r')
    (ht : t.EndedRejected name) : ({ t with phase := p } : Task σ).EndedRejected name := by
  obtain ⟨hname, o, ho, hd⟩ := ht
  exact ⟨hname, o, h.ended?_mono ho, hd⟩

end Moves

namespace FanOut

variable {workers : Nat} {m₀ m m' : FanOut σ}

/-! ## The bound of the workers -/

theorem step_busy_le {e : Event σ} (hm : m.busy ≤ workers) (h : m.step workers e = some m') :
    m'.busy ≤ workers := by
  cases e with
  | move i mv =>
    obtain ⟨pre, t, post, p, r, ht, -, hmove, rfl⟩ := step_move h
    have hcount := countP_replace (·.phase.holdsWorker) pre post t { t with phase := p }
    have hholds := hmove.holdsWorker
    simp only [busy, ht] at hm hholds ⊢
    cases hp : p.holdsWorker with
    | false =>
      simp only [hp, Bool.toNat_false] at hcount
      omega
    | true =>
      simp only [hp, Bool.toNat_true] at hcount
      rcases hholds hp with hb | hf
      · simp only [hb, Bool.toNat_true] at hcount
        omega
      · have hfree := of_decide_eq_true hf
        omega
  | cancel => cases h; exact hm
  | outside s => cases h; exact hm

/-! ## Who finds the credentials rejected -/

/-- Where tasks stand with respect to the sources that have been given up. -/
structure Consistent (workers : Nat) (m : FanOut σ) : Prop where
  busy_le : m.busy ≤ workers
  /-- Only rejected credentials lead to giving a source up. -/
  rejected : ∀ t ∈ m.tasks, ∀ o, t.phase = .rejected o → o.disables = true
  /-- A source has been given up exactly if one of its tasks has ended with rejected credentials. -/
  disabled_iff : ∀ name, name ∈ m.run.disabled ↔ ∃ t ∈ m.tasks, t.EndedRejected name
  /-- There is a worker for everyone who may find, or has found, the credentials rejected. -/
  inFlight_le : ∀ name,
    m.tasks.countP (fun t => t.source.name == name && t.phase.inFlight) ≤ workers

theorem consistent_start (sources : List (Source σ)) (prepared : List Finding) (state : σ) :
    (start sources prepared state).Consistent workers := by
  have hwaiting : ∀ t ∈ (start sources prepared state).tasks, t.phase = .waiting :=
    fun t ht => (mem_tasksOf ht).2
  constructor
  · have : (start sources prepared state).busy = 0 :=
      List.countP_eq_zero.2 fun t ht => by simp [hwaiting t ht, Phase.holdsWorker]
    omega
  · intro t ht o ho
    rw [hwaiting t ht] at ho
    cases ho
  · intro name
    constructor
    · intro h
      cases h
    · rintro ⟨t, ht, -, o, ho, -⟩
      rw [hwaiting t ht] at ho
      cases ho
  · intro name
    have : (start sources prepared state).tasks.countP
        (fun t => t.source.name == name && t.phase.inFlight) = 0 :=
      List.countP_eq_zero.2 fun t ht => by simp [hwaiting t ht, Phase.inFlight]
    omega

theorem Consistent.step {e : Event σ} (hm : m.Consistent workers) (h : m.step workers e = some m') :
    m'.Consistent workers := by
  cases e with
  | cancel => cases h; exact ⟨hm.busy_le, hm.rejected, hm.disabled_iff, hm.inFlight_le⟩
  | outside s => cases h; exact ⟨hm.busy_le, hm.rejected, hm.disabled_iff, hm.inFlight_le⟩
  | move i mv =>
    have hbusy := step_busy_le hm.busy_le h
    obtain ⟨pre, t, post, p, r, ht, -, hmove, rfl⟩ := step_move h
    have hrejected := hm.rejected
    rw [ht] at hrejected
    have hrej := hrejected t (by simp)
    have hdisabled : ∀ name, name ∈ r.disabled ↔
        ∃ x ∈ pre ++ { t with phase := p } :: post, x.EndedRejected name := by
      intro name
      have hbefore := hm.disabled_iff name
      rw [ht, exists_mem_replace] at hbefore
      rw [exists_mem_replace]
      constructor
      · intro hn
        rcases hmove.mem_disabled hrej hn with hn | hended
        · exact (hbefore.1 hn).imp_left hmove.endedRejected_mono
        · exact .inl hended
      · rintro (hended | hothers)
        · rcases hmove.endedRejected hended with hended | hn
          · exact hmove.disabled_mono (hbefore.2 (.inl hended))
          · exact hn
        · exact hmove.disabled_mono (hbefore.2 (.inr hothers))
    refine ⟨hbusy, forall_mem_replace hrejected ?_, hdisabled, fun name => ?_⟩
    · rintro o rfl
      exact hmove.disables
    · have hcount := countP_replace (fun x => x.source.name == name && x.phase.inFlight) pre post t
        { t with phase := p }
      have hbefore := hm.inFlight_le name
      rw [ht] at hbefore
      dsimp only at hcount ⊢
      by_cases hp : (t.source.name == name && p.inFlight) = true
      · obtain ⟨hname, hp'⟩ := Bool.and_eq_true_iff.1 hp
        rcases hmove.inFlight hp' with hflight | hfree
        · rw [hp, hname, hflight] at hcount
          simp only [Bool.and_self] at hcount
          omega
        · -- Nobody has ended with rejected credentials yet, so whoever may still do so has a worker.
          rw [eq_of_beq hname] at hfree
          refine Nat.le_trans (List.countP_mono_left fun x hx hflight => ?_) hbusy
          obtain ⟨hxname, hxflight⟩ := Bool.and_eq_true_iff.1 hflight
          have hnot : ¬ x.EndedRejected name := fun he => hfree ((hdisabled name).2 ⟨x, hx, he⟩)
          exact Task.holdsWorker_of_inFlight (eq_of_beq hxname) hxflight hnot
      · rw [Bool.not_eq_true] at hp
        rw [hp, Bool.toNat_false] at hcount
        omega

theorem consistent_exec {sources : List (Source σ)} {prepared : List Finding} {state : σ}
    {es : List (Event σ)} (h : (start sources prepared state).exec workers es = some m) :
    m.Consistent workers :=
  exec_invariant (fun _ m => m.Consistent workers) (consistent_start _ _ _)
    (fun _ _ _ _ _ ih hs => ih.step hs) h

/-! ## Where outcomes come from -/

/-- What a task has come to is an answer of its source, unless it was skipped. -/
def AnswersOf (t : Task σ) : Prop :=
  match t.phase with
  | .rejected o | .settled o | .done o =>
    (∃ e, o = .skipped e) ∨ ∃ state, (ask t.source t.finding state).1 = o
  | _ => True

theorem exec_answersOf {sources : List (Source σ)} {prepared : List Finding} {state : σ}
    {es : List (Event σ)} (h : (start sources prepared state).exec workers es = some m) :
    ∀ t ∈ m.tasks, AnswersOf t := by
  refine exec_invariant (fun _ m => ∀ t ∈ m.tasks, AnswersOf t) ?_ ?_ h
  · intro t ht
    simp [AnswersOf, (mem_tasksOf ht).2]
  · intro es e m₁ m₂ _ ih hs
    cases e with
    | cancel => cases hs; exact ih
    | outside s => cases hs; exact ih
    | move i mv =>
      obtain ⟨pre, t, post, p, r, ht, -, hmove, rfl⟩ := step_move hs
      rw [ht] at ih
      refine forall_mem_replace ih ?_
      have hbefore := ih t (by simp)
      cases hmove with
      | barred => exact .inl ⟨_, rfl⟩
      | calledOff => exact .inl ⟨_, rfl⟩
      | rejected _ ha _ => exact .inr ⟨m₁.run.state, by rw [ha]⟩
      | answered _ ha _ => exact .inr ⟨m₁.run.state, by rw [ha]⟩
      | gaveUp hp => simpa [AnswersOf, hp] using hbefore
      | released hp => simpa [AnswersOf, hp] using hbefore
      | _ => exact trivial

/-! ## What the events tell -/

/-- The source `name` of one of the tasks was given up in the course of some events. -/
def GaveUp (tasks : List (Task σ)) (es : List (Event σ)) (name : String) : Prop :=
  ∃ i t, .move i .giveUp ∈ es ∧ tasks[i]? = some t ∧ t.source.name = name

theorem GaveUp.append {tasks : List (Task σ)} {es : List (Event σ)} {name : String}
    (h : GaveUp tasks es name) (more : List (Event σ)) : GaveUp tasks (es ++ more) name := by
  obtain ⟨i, t, hi, ht, hname⟩ := h
  exact ⟨i, t, List.mem_append_left more hi, ht, hname⟩

theorem gaveUp_congr {tasks tasks' : List (Task σ)} (h : tasks.map Task.job = tasks'.map Task.job)
    {es : List (Event σ)} {name : String} (hg : GaveUp tasks es name) : GaveUp tasks' es name := by
  obtain ⟨i, t, hi, ht, rfl⟩ := hg
  have hjobs := congrArg (·[i]?) h
  simp only [List.getElem?_map, ht, Option.map_some] at hjobs
  obtain ⟨t', ht', hjob⟩ := Option.map_eq_some_iff.1 hjobs.symm
  exact ⟨i, t', hi, ht', congrArg (·.1.name) hjob⟩

theorem exec_getElem? {es : List (Event σ)} (h : m.exec workers es = some m') {i : Nat} {t' : Task σ}
    (ht' : m'.tasks[i]? = some t') : ∃ t, m.tasks[i]? = some t ∧ t.job = t'.job := by
  have hjobs := congrArg (·[i]?) (exec_jobs h)
  simp only [List.getElem?_map, ht', Option.map_some] at hjobs
  exact Option.map_eq_some_iff.1 hjobs.symm

/-- The sources that have been given up are those that some move gave up. -/
theorem exec_disabled {es : List (Event σ)} (h₀ : m₀.run.disabled = [])
    (h : m₀.exec workers es = some m) (name : String) :
    name ∈ m.run.disabled ↔ GaveUp m₀.tasks es name := by
  refine exec_invariant (fun es m => name ∈ m.run.disabled ↔ GaveUp m₀.tasks es name) ?_ ?_ h
  · simp [h₀, GaveUp]
  · intro es e m₁ m₂ hexec ih hs
    cases e with
    | cancel => cases hs; simpa [GaveUp] using ih
    | outside s => cases hs; simpa [GaveUp] using ih
    | move j mv =>
      obtain ⟨pre, u, post, p, r, hu, hj, hmove, rfl⟩ := step_move hs
      have hu' : m₁.tasks[j]? = some u := by rw [hu, ← hj]; simp
      obtain ⟨t, ht, hjob⟩ := exec_getElem? hexec hu'
      have hname : t.source.name = u.source.name := congrArg (·.1.name) hjob
      constructor
      · intro hn
        cases hmove with
        | gaveUp _ =>
          rcases List.mem_cons.1 hn with rfl | hn
          · exact ⟨j, t, by simp, ht, hname⟩
          · exact (ih.1 hn).append _
        | _ => exact (ih.1 hn).append _
      · rintro ⟨i, t', hi, ht', rfl⟩
        rcases List.mem_append.1 hi with hi | hi
        · exact hmove.disabled_mono (ih.2 ⟨i, t', hi, ht', rfl⟩)
        · cases List.mem_singleton.1 hi
          rw [ht] at ht'
          cases ht'
          cases hmove with
          | gaveUp _ => exact hname ▸ List.mem_cons_self

/-- **A task has asked its source exactly if it made that move.** -/
theorem exec_asked {sources : List (Source σ)} {prepared : List Finding} {state : σ}
    {es : List (Event σ)} (h : (start sources prepared state).exec workers es = some m)
    {i : Nat} {t : Task σ} (ht : m.tasks[i]? = some t) : .move i .ask ∈ es ↔ t.phase.asked = true := by
  refine exec_invariant (fun es m => ∀ i t, m.tasks[i]? = some t →
    (.move i .ask ∈ es ↔ t.phase.asked = true)) ?_ ?_ h i t ht
  · intro i t ht
    simp [(mem_tasksOf (List.mem_of_getElem? ht)).2, Phase.asked]
  · intro es e m₁ m₂ hexec ih hs i t ht
    cases e with
    | cancel => cases hs; simpa using ih i t ht
    | outside s => cases hs; simpa using ih i t ht
    | move j mv =>
      obtain ⟨pre, u, post, p, r, hu, hj, hmove, rfl⟩ := step_move hs
      have hmem : u ∈ m₁.tasks := by rw [hu]; simp
      rw [getElem?_replace pre post u, ← hu, hj] at ht
      split at ht
      · rename_i hij
        subst hij
        cases ht
        have hbefore := ih i u (by rw [hu, ← hj]; simp)
        rw [hmove.asked ((consistent_exec hexec).rejected u hmem), ← hbefore]
        simp [eq_comm]
      · rename_i hij
        simpa [show ¬ i = j from hij] using ih i t ht

/-- There was a reason to skip the task `i` of the source `name`: its source had been given up, or the
run had been called off, before it checked. -/
def SkipReason (tasks : List (Task σ)) (es : List (Event σ)) (i : Nat) (name : String) : Prop :=
  (∃ pre post, es = pre ++ .move i .checkSource :: post ∧ GaveUp tasks pre name) ∨
    ∃ pre post, es = pre ++ .move i .checkRun :: post ∧ .cancel ∈ pre

theorem SkipReason.append {tasks : List (Task σ)} {es : List (Event σ)} {i : Nat} {name : String}
    (h : SkipReason tasks es i name) (more : List (Event σ)) :
    SkipReason tasks (es ++ more) i name := by
  rcases h with ⟨pre, post, rfl, hg⟩ | ⟨pre, post, rfl, hc⟩
  · exact .inl ⟨pre, post ++ more, by simp, hg⟩
  · exact .inr ⟨pre, post ++ more, by simp, hc⟩

theorem skipReason_congr {tasks tasks' : List (Task σ)} (h : tasks.map Task.job = tasks'.map Task.job)
    {es : List (Event σ)} {i : Nat} {name : String} (hr : SkipReason tasks es i name) :
    SkipReason tasks' es i name := by
  rcases hr with ⟨pre, post, hes, hg⟩ | hc
  · exact .inl ⟨pre, post, hes, gaveUp_congr h hg⟩
  · exact .inr hc

/-- **No task is skipped without a reason.** -/
theorem exec_skipped {sources : List (Source σ)} {prepared : List Finding} {state : σ}
    {es : List (Event σ)} (h : (start sources prepared state).exec workers es = some m) {i : Nat}
    {t : Task σ} (ht : m.tasks[i]? = some t) {e : SourceFailure}
    (hp : t.phase.ended? = some (.skipped e)) :
    SkipReason (start sources prepared state).tasks es i t.source.name := by
  refine exec_invariant (fun es m => ∀ i t, m.tasks[i]? = some t →
    t.phase.ended? = some (.skipped e) →
      SkipReason (start sources prepared state).tasks es i t.source.name) ?_ ?_ h i t ht hp
  · intro i t ht hp
    rw [(mem_tasksOf (List.mem_of_getElem? ht)).2] at hp
    cases hp
  · intro es ev m₁ m₂ hexec ih hs i t ht hp
    cases ev with
    | cancel => cases hs; exact (ih i t ht hp).append _
    | outside s => cases hs; exact (ih i t ht hp).append _
    | move j mv =>
      obtain ⟨pre, u, post, p, r, hu, hj, hmove, rfl⟩ := step_move hs
      have hmem : u ∈ m₁.tasks := by rw [hu]; simp
      rw [getElem?_replace pre post u, ← hu, hj] at ht
      split at ht
      · rename_i hij
        subst hij
        cases ht
        cases hmove with
        | barred _ hd => exact .inl ⟨es, [], rfl, (exec_disabled rfl hexec _).1 hd⟩
        | calledOff _ hc =>
          have hcancel := (exec_canceled hexec).1 hc
          exact .inr ⟨es, [], rfl, hcancel.resolve_left (by simp [start])⟩
        | answered _ ha _ =>
          have hskip := ask_ne_skipped u.source u.finding m₁.run.state e
          rw [ha] at hskip
          exact absurd (Option.some.inj hp) hskip
        | gaveUp hrej =>
          have hd := (consistent_exec hexec).rejected u hmem _ hrej
          rw [Option.some.inj hp] at hd
          cases hd
        | released hsettled =>
          exact (ih i u (by rw [hu, ← hj]; simp) (by rw [hsettled]; exact hp)).append _
        | _ => cases hp
      · exact (ih i t ht hp).append _

/-- A task that is skipped in a run that is not called off has met a source that was given up. -/
theorem exec_skipped_failure {sources : List (Source σ)} {prepared : List Finding} {state : σ}
    {es : List (Event σ)} (h : (start sources prepared state).exec workers es = some m)
    (hgoes : .cancel ∉ es) {t : Task σ} (ht : t ∈ m.tasks) {e : SourceFailure}
    (hp : t.phase.ended? = some (.skipped e)) : e = disabledFailure t.source.name := by
  refine exec_invariant (fun es m => .cancel ∉ es → ∀ t ∈ m.tasks,
    t.phase.ended? = some (.skipped e) → e = disabledFailure t.source.name) ?_ ?_ h hgoes t ht hp
  · intro _ t ht hp
    rw [(mem_tasksOf ht).2] at hp
    cases hp
  · intro es ev m₁ m₂ hexec ih hs hgoes
    rw [List.mem_append, not_or] at hgoes
    have ih := ih hgoes.1
    cases ev with
    | cancel => exact absurd (List.mem_singleton_self _) hgoes.2
    | outside s => cases hs; exact ih
    | move i mv =>
      obtain ⟨pre, u, post, p, r, hu, -, hmove, rfl⟩ := step_move hs
      rw [hu] at ih
      refine forall_mem_replace ih fun hp => ?_
      have hbefore := ih u (by simp)
      cases hmove with
      | barred => exact (Outcome.skipped.inj (Option.some.inj hp)).symm
      | calledOff _ hc =>
        have hcancel := (exec_canceled hexec).1 hc
        exact absurd (hcancel.resolve_left (by simp [start])) hgoes.1
      | answered _ ha _ =>
        have hskip := ask_ne_skipped u.source u.finding m₁.run.state e
        rw [ha] at hskip
        exact absurd (Option.some.inj hp) hskip
      | gaveUp hrej =>
        have hd := (consistent_exec hexec).rejected u (by rw [hu]; simp) _ hrej
        rw [Option.some.inj hp] at hd
        cases hd
      | released hsettled => exact hbefore (by rw [hsettled]; exact hp)
      | _ => cases hp

/-- An outcome that stands does so to the end. -/
theorem exec_ended {es : List (Event σ)} (h : m.exec workers es = some m') {i : Nat} {o : Outcome}
    (ht : ∃ t, m.tasks[i]? = some t ∧ t.phase.ended? = some o) :
    ∃ t, m'.tasks[i]? = some t ∧ t.phase.ended? = some o := by
  refine exec_invariant (fun _ m => ∃ t, m.tasks[i]? = some t ∧ t.phase.ended? = some o) ht ?_ h
  rintro es e m₁ m₂ - ⟨t, ht, ho⟩ hs
  cases e with
  | cancel => cases hs; exact ⟨t, ht, ho⟩
  | outside s => cases hs; exact ⟨t, ht, ho⟩
  | move j mv =>
    obtain ⟨pre, u, post, p, r, hu, hj, hmove, rfl⟩ := step_move hs
    simp only [getElem?_replace pre post u, ← hu, hj]
    split
    · rename_i hij
      have hut : u = t := by
        rw [hij, hu, ← hj] at ht
        simpa using ht
      subst hut
      exact ⟨_, rfl, hmove.ended?_mono ho⟩
    · exact ⟨t, ht, ho⟩

/-- **Once a source has been given up, no task asks it** that has not checked before. -/
theorem exec_barred {sources : List (Source σ)} {prepared : List Finding} {state : σ}
    {pre post : List (Event σ)} {i : Nat} {t : Task σ}
    (h : (start sources prepared state).exec workers (pre ++ .move i .checkSource :: post) = some m)
    (ht : m.tasks[i]? = some t)
    (hg : GaveUp (start sources prepared state).tasks pre t.source.name) :
    .move i .ask ∉ pre ++ .move i .checkSource :: post := by
  obtain ⟨m₁, hpre, hrest⟩ := exec_split h
  rw [exec, Option.bind_eq_some_iff] at hrest
  obtain ⟨m₂, hs, hpost⟩ := hrest
  obtain ⟨before, u, after, p, r, hu, rfl, hmove, rfl⟩ := step_move hs
  have hat : (before ++ { u with phase := p } :: after)[before.length]? = some { u with phase := p } := by
    simp
  have hname : u.source.name = t.source.name := by
    obtain ⟨t₀, ht₀, hjob⟩ := exec_getElem? hpost ht
    rw [hat] at ht₀
    cases ht₀
    exact congrArg (·.1.name) hjob
  cases hmove with
  | cleared _ hd => exact absurd ((exec_disabled rfl hpre _).2 (hname ▸ hg)) hd
  | barred _ _ =>
    obtain ⟨t', ht', hended⟩ := exec_ended hpost ⟨_, hat, rfl⟩
    rw [ht] at ht'
    cases ht'
    rw [exec_asked h ht, Phase.asked_of_skipped hended]
    exact Bool.false_ne_true

end FanOut

end Triage.Engine
