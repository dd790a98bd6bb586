import Mathlib
import Triage.Engine.Enrich

/-!
# Lookups side by side

The lookups of a run need not be made one after the other. Each of them is a task of its own, and a
task makes up to six moves: it takes a worker, checks whether its source has been given up, checks
whether the run has been called off, asks the source, gives the source up if that rejected the
credentials, and hands the worker back. No two moves happen at once, but those of different tasks come
in any order, and a call-off or a change of the world that the sources act on may come between any two
of them. `exec` follows one such order.

Everything a task does is said once, in `Task.move`; `step_move` turns it into the one case
analysis that the invariants are proved by. Main statements: as long as a task is not through, some
task can move (`exists_step`), so that every run that is begun can be ended (`exists_finish`); and it
has at most six moves a task (`moveCount_le`).
-/
namespace Triage.Engine

variable {σ : Type}

/-- Where a task stands. -/
inductive Phase where
  | waiting
  /-- It has a worker. -/
  | admitted
  /-- Its source had not been given up. -/
  | cleared
  /-- The run had not been called off either. -/
  | asking
  /-- The source rejected the credentials. -/
  | rejected (outcome : Outcome)
  /-- The outcome stands, the worker is still taken. -/
  | settled (outcome : Outcome)
  | done (outcome : Outcome)

namespace Phase

def holdsWorker : Phase → Bool
  | .waiting | .done _ => false
  | _ => true

/-- The outcome of a task that is through. -/
def outcome? : Phase → Option Outcome
  | .done o => some o
  | _ => none

/-- How many moves lie behind, those that were left out included. -/
def rank : Phase → Nat
  | .waiting => 0
  | .admitted => 1
  | .cleared => 2
  | .asking => 3
  | .rejected _ => 4
  | .settled _ => 5
  | .done _ => 6

end Phase

/-- One lookup of a run. -/
structure Task (σ : Type) where
  source : Source σ
  finding : Finding
  phase : Phase := .waiting

/-- The lookup that a task makes. -/
def Task.job (t : Task σ) : Source σ × Finding := (t.source, t.finding)

/-- What a task does in one go. -/
inductive Move where
  | acquire
  | checkSource
  | checkRun
  | ask
  | giveUp
  | release
  deriving Repr, DecidableEq

/-- What happens next in a run. -/
inductive Event (σ : Type) where
  | move (task : Nat) (m : Move)
  /-- The run is called off. -/
  | cancel
  /-- The world that the sources act on changes without them. -/
  | outside (state : σ)

/-- All lookups of a run, under way. -/
structure FanOut (σ : Type) where
  run : Run σ
  canceled : Bool := false
  tasks : List (Task σ)

/-- What a move leads to, if the task can make it: the phase it is in then, and the state of the run.
`free` says whether there is a worker to take. -/
def Task.move (t : Task σ) (free canceled : Bool) (r : Run σ) : Move → Option (Phase × Run σ)
  | .acquire =>
    match t.phase with
    | .waiting => if free then some (.admitted, r) else none
    | _ => none
  | .checkSource =>
    match t.phase with
    | .admitted =>
      if r.disabled.contains t.source.name then
        some (.settled (.skipped (disabledFailure t.source.name)), r)
      else some (.cleared, r)
    | _ => none
  | .checkRun =>
    match t.phase with
    | .cleared =>
      if canceled then some (.settled (.skipped (Failure.canceled.classify t.source.name)), r)
      else some (.asking, r)
    | _ => none
  | .ask =>
    match t.phase with
    | .asking =>
      let (o, state) := Engine.ask t.source t.finding r.state
      some (if o.disables then .rejected o else .settled o, { r with state })
    | _ => none
  | .giveUp =>
    match t.phase with
    | .rejected o => some (.settled o, { r with disabled := t.source.name :: r.disabled })
    | _ => none
  | .release =>
    match t.phase with
    | .settled o => some (.done o, r)
    | _ => none

namespace FanOut

/-- How many workers are taken. -/
def busy (m : FanOut σ) : Nat := m.tasks.countP (·.phase.holdsWorker)

def Finished (m : FanOut σ) : Prop := ∀ t ∈ m.tasks, ∃ o, t.phase = .done o

theorem finished_iff (m : FanOut σ) :
    (m.tasks.all fun t => t.phase.outcome?.isSome) = true ↔ m.Finished := by
  rw [List.all_eq_true]
  refine forall₂_congr fun t _ => ?_
  cases t.phase <;> simp [Phase.outcome?]

instance (m : FanOut σ) : Decidable m.Finished := decidable_of_iff _ m.finished_iff

/-- What the next event leads to, if it can happen. -/
def step (workers : Nat) (m : FanOut σ) : Event σ → Option (FanOut σ)
  | .move i mv => do
    let t ← m.tasks[i]?
    let (phase, run) ← t.move (m.busy < workers) m.canceled m.run mv
    return { m with run, tasks := m.tasks.set i { t with phase } }
  | .cancel => some { m with canceled := true }
  | .outside state => some { m with run := { m.run with state } }

/-- What a sequence of events leads to, if they can happen in this order. -/
def exec (workers : Nat) : FanOut σ → List (Event σ) → Option (FanOut σ)
  | m, [] => some m
  | m, e :: es => (m.step workers e).bind fun m => exec workers m es

end FanOut

/-- The lookups of a finding in all sources; there are none for a finding without an identifier. -/
def tasksFor (sources : List (Source σ)) (f : Finding) : List (Task σ) :=
  if f.resolveCve?.isSome then sources.map ({ source := ·, finding := f }) else []

def tasksOf (sources : List (Source σ)) (prepared : List Finding) : List (Task σ) :=
  prepared.flatMap (tasksFor sources)

/-- The lookups of a run before any of them has moved. -/
def FanOut.start (sources : List (Source σ)) (prepared : List Finding) (state : σ) : FanOut σ where
  run := { state }
  tasks := tasksOf sources prepared

/-- The results of lookups given back to the findings they belong to: `width` of them to each finding
with an identifier. -/
def rows {α : Type} (width : Nat) : List Finding → List α → List (List α)
  | [], _ => []
  | f :: fs, results =>
    if f.resolveCve?.isSome then results.take width :: rows width fs (results.drop width)
    else [] :: rows width fs results

/-- The outcome of a task that is through, with the name of its source. -/
def Task.result? (t : Task σ) : Option (String × Outcome) :=
  t.phase.outcome?.map fun o => (t.source.name, o)

def FanOut.outcomes (m : FanOut σ) : List (String × Outcome) := m.tasks.filterMap Task.result?

/-- What the lookups lead to. -/
def FanOut.report (sources : List (Source σ)) (prepared : List Finding) (m : FanOut σ) : Report :=
  Report.ofOutcomes (sources.map (·.name)) prepared (rows sources.length prepared m.outcomes)
    m.run.disabled

theorem Task.result?_of_waiting {t : Task σ} (h : t.phase = .waiting) : t.result? = none := by
  simp [Task.result?, h, Phase.outcome?]

theorem Task.result?_of_done {t : Task σ} {o : Outcome} (h : t.phase = .done o) :
    t.result? = some (t.source.name, o) := by
  simp [Task.result?, h, Phase.outcome?]

/-! ## One move -/

/-- `t` makes the move `mv` to the phase `p` and leaves the run as `r'`. -/
inductive Task.Moves (t : Task σ) (free canceled : Bool) (r : Run σ) : Move → Phase → Run σ → Prop
  | admitted : t.phase = .waiting → free = true → Moves t free canceled r .acquire .admitted r
  | barred : t.phase = .admitted → t.source.name ∈ r.disabled →
      Moves t free canceled r .checkSource (.settled (.skipped (disabledFailure t.source.name))) r
  | cleared : t.phase = .admitted → t.source.name ∉ r.disabled →
      Moves t free canceled r .checkSource .cleared r
  | calledOff : t.phase = .cleared → canceled = true →
      Moves t free canceled r .checkRun
        (.settled (.skipped (Failure.canceled.classify t.source.name))) r
  | resumed : t.phase = .cleared → canceled = false → Moves t free canceled r .checkRun .asking r
  | rejected {o : Outcome} {state : σ} : t.phase = .asking →
      Engine.ask t.source t.finding r.state = (o, state) → o.disables = true →
      Moves t free canceled r .ask (.rejected o) { r with state }
  | answered {o : Outcome} {state : σ} : t.phase = .asking →
      Engine.ask t.source t.finding r.state = (o, state) → o.disables = false →
      Moves t free canceled r .ask (.settled o) { r with state }
  | gaveUp {o : Outcome} : t.phase = .rejected o →
      Moves t free canceled r .giveUp (.settled o)
        { r with disabled := t.source.name :: r.disabled }
  | released {o : Outcome} : t.phase = .settled o → Moves t free canceled r .release (.done o) r

theorem Task.moves_of_move {t : Task σ} {free canceled : Bool} {r r' : Run σ} {mv : Move} {p : Phase}
    (h : t.move free canceled r mv = some (p, r')) : t.Moves free canceled r mv p r' := by
  cases mv with
  | acquire =>
    simp only [Task.move] at h
    split at h
    · rename_i hp
      split at h
      · rename_i hf; cases h; exact .admitted hp hf
      · cases h
    · cases h
  | checkSource =>
    simp only [Task.move] at h
    split at h
    · rename_i hp
      split at h
      · rename_i hd; cases h; exact .barred hp (List.contains_iff_mem.1 hd)
      · rename_i hd; cases h; exact .cleared hp fun hm => hd (List.contains_iff_mem.2 hm)
    · cases h
  | checkRun =>
    simp only [Task.move] at h
    split at h
    · rename_i hp
      split at h
      · rename_i hc; cases h; exact .calledOff hp hc
      · rename_i hc; cases h; exact .resumed hp (Bool.not_eq_true _ ▸ hc)
    · cases h
  | ask =>
    simp only [Task.move] at h
    split at h
    · rename_i hp
      rcases ha : Engine.ask t.source t.finding r.state with ⟨o, state⟩
      simp only [ha] at h
      split at h
      · rename_i hd; cases h; exact .rejected hp ha hd
      · rename_i hd; cases h; exact .answered hp ha (Bool.not_eq_true _ ▸ hd)
    · cases h
  | giveUp =>
    simp only [Task.move] at h
    split at h
    · rename_i o hp; cases h; exact .gaveUp hp
    · cases h
  | release =>
    simp only [Task.move] at h
    split at h
    · rename_i o hp; cases h; exact .released hp
    · cases h

/-- A task moves on, never back. -/
theorem Task.Moves.rank_lt {t : Task σ} {free canceled : Bool} {r r' : Run σ} {mv : Move} {p : Phase}
    (h : t.Moves free canceled r mv p r') : t.phase.rank < p.rank := by
  cases h <;> rename_i hp _ <;> simp_all [Phase.rank]

/-- A task with a worker can move, and so can a waiting one if there is a worker to take. -/
theorem Task.exists_move (t : Task σ) (free canceled : Bool) (r : Run σ)
    (h : t.phase.holdsWorker = true ∨ t.phase = .waiting ∧ free = true) :
    ∃ mv p r', t.move free canceled r mv = some (p, r') := by
  cases hp : t.phase with
  | waiting =>
    have hf : free = true := by simpa [hp, Phase.holdsWorker] using h
    exact ⟨.acquire, .admitted, r, by simp [Task.move, hp, hf]⟩
  | admitted =>
    by_cases hd : r.disabled.contains t.source.name
    · exact ⟨.checkSource, _, r, by simp only [Task.move, hp, hd, if_true]; rfl⟩
    · exact ⟨.checkSource, _, r, by simp only [Task.move, hp, hd]; rfl⟩
  | cleared =>
    cases canceled with
    | true => exact ⟨.checkRun, _, r, by simp only [Task.move, hp]; rfl⟩
    | false => exact ⟨.checkRun, _, r, by simp only [Task.move, hp]; rfl⟩
  | asking => exact ⟨.ask, _, _, by simp only [Task.move, hp]; rfl⟩
  | rejected o => exact ⟨.giveUp, _, _, by simp only [Task.move, hp]; rfl⟩
  | settled o => exact ⟨.release, _, r, by simp only [Task.move, hp]; rfl⟩
  | done o => simp [hp, Phase.holdsWorker] at h

namespace FanOut

variable {workers : Nat} {m m' : FanOut σ}

/-- **What a move does.** The task at its index makes it, and nothing else changes. -/
theorem step_move {i : Nat} {mv : Move} (h : m.step workers (.move i mv) = some m') :
    ∃ pre t post p r, m.tasks = pre ++ t :: post ∧ pre.length = i ∧
      t.Moves (m.busy < workers) m.canceled m.run mv p r ∧
      m' = { m with run := r, tasks := pre ++ { t with phase := p } :: post } := by
  simp only [step, Option.bind_eq_bind, Option.bind_eq_some_iff] at h
  obtain ⟨t, ht, ⟨p, r⟩, hm, hm'⟩ := h
  obtain ⟨hi, rfl⟩ := List.getElem?_eq_some_iff.1 ht
  cases hm'
  refine ⟨m.tasks.take i, _, m.tasks.drop (i + 1), p, r, ?_, ?_, Task.moves_of_move hm, ?_⟩
  · rw [List.getElem_cons_drop, List.take_append_drop]
  · rw [List.length_take]; omega
  · rw [List.set_eq_take_append_cons_drop, if_pos hi]

/-- A task that can move does so. -/
theorem step_of_move {pre post : List (Task σ)} {t : Task σ} {mv : Move} {p : Phase} {r : Run σ}
    (ht : m.tasks = pre ++ t :: post)
    (hm : t.move (m.busy < workers) m.canceled m.run mv = some (p, r)) :
    m.step workers (.move pre.length mv) =
      some { m with run := r, tasks := pre ++ { t with phase := p } :: post } := by
  simp [step, ht, hm]

/-- Only the task that moves is another one afterwards. -/
theorem getElem?_replace (pre post : List (Task σ)) (t t' : Task σ) (j : Nat) :
    (pre ++ t' :: post)[j]? = if j = pre.length then some t' else (pre ++ t :: post)[j]? := by
  split
  · rename_i h; subst h; simp
  · rename_i h
    rcases Nat.lt_or_gt_of_ne h with hlt | hgt
    · rw [List.getElem?_append_left hlt, List.getElem?_append_left hlt]
    · obtain ⟨k, rfl⟩ : ∃ k, j = pre.length + (k + 1) := ⟨j - pre.length - 1, by omega⟩
      rw [List.getElem?_append_right (by omega), List.getElem?_append_right (by omega),
        Nat.add_sub_cancel_left, List.getElem?_cons_succ, List.getElem?_cons_succ]

/-! ## Sequences of events -/

theorem exec_append (m : FanOut σ) (es fs : List (Event σ)) :
    m.exec workers (es ++ fs) = (m.exec workers es).bind fun m => m.exec workers fs := by
  induction es generalizing m with
  | nil => rfl
  | cons e es ih =>
    simp only [List.cons_append, exec]
    cases m.step workers e with
    | none => rfl
    | some m₁ => exact ih m₁

theorem exec_singleton (m : FanOut σ) (e : Event σ) : m.exec workers [e] = m.step workers e := by
  simp only [exec]
  cases m.step workers e <;> rfl

/-- **Invariants.** What holds before the first event and is kept by each further one holds after
all of them. The invariant may speak of the events so far, which led to where the next one happens. -/
theorem exec_invariant {m₀ : FanOut σ} (P : List (Event σ) → FanOut σ → Prop) (h₀ : P [] m₀)
    (hstep : ∀ es e m m', m₀.exec workers es = some m → P es m → m.step workers e = some m' →
      P (es ++ [e]) m')
    {es : List (Event σ)} (h : m₀.exec workers es = some m) : P es m := by
  induction es using List.reverseRecOn generalizing m with
  | nil => cases h; exact h₀
  | append_singleton es e ih =>
    rw [exec_append, Option.bind_eq_some_iff] at h
    obtain ⟨m₁, h₁, h₂⟩ := h
    rw [exec_singleton] at h₂
    exact hstep es e m₁ m h₁ (ih h₁) h₂

/-- The events up to any point lead somewhere. -/
theorem exec_split {m₀ : FanOut σ} {es fs : List (Event σ)} (h : m₀.exec workers (es ++ fs) = some m) :
    ∃ m₁, m₀.exec workers es = some m₁ ∧ m₁.exec workers fs = some m := by
  rwa [exec_append, Option.bind_eq_some_iff] at h

/-! ## What no event changes -/

/-- Among tasks that are the same lookups there is one that is the same lookup. -/
theorem exists_mem_of_jobs {tasks tasks' : List (Task σ)} (h : tasks'.map Task.job = tasks.map Task.job)
    {t : Task σ} (ht : t ∈ tasks') : ∃ t₀ ∈ tasks, t₀.source = t.source ∧ t₀.finding = t.finding := by
  have hjob : t.job ∈ tasks'.map Task.job := List.mem_map_of_mem ht
  rw [h] at hjob
  obtain ⟨t₀, ht₀, hjob⟩ := List.mem_map.1 hjob
  exact ⟨t₀, ht₀, Prod.mk.inj hjob⟩

theorem step_jobs {e : Event σ} (h : m.step workers e = some m') :
    m'.tasks.map Task.job = m.tasks.map Task.job := by
  cases e with
  | move i mv =>
    obtain ⟨pre, t, post, p, r, ht, -, -, rfl⟩ := step_move h
    simp [ht, Task.job]
  | cancel => cases h; rfl
  | outside s => cases h; rfl

/-- The tasks stay the lookups that they are. -/
theorem exec_jobs {es : List (Event σ)} (h : m.exec workers es = some m') :
    m'.tasks.map Task.job = m.tasks.map Task.job :=
  exec_invariant (fun _ m' => m'.tasks.map Task.job = m.tasks.map Task.job) rfl
    (fun _ _ _ _ _ ih hs => (step_jobs hs).trans ih) h

theorem exec_tasks_length {es : List (Event σ)} (h : m.exec workers es = some m') :
    m'.tasks.length = m.tasks.length := by
  simpa using congrArg List.length (exec_jobs h)

/-- A run is called off exactly by an event that does so. -/
theorem exec_canceled {es : List (Event σ)} (h : m.exec workers es = some m') :
    m'.canceled = true ↔ m.canceled = true ∨ .cancel ∈ es := by
  refine exec_invariant (fun es m' => m'.canceled = true ↔ m.canceled = true ∨ .cancel ∈ es)
    (by simp) ?_ h
  intro es e m₁ m₂ _ ih hs
  cases e with
  | move i mv =>
    obtain ⟨pre, t, post, p, r, -, -, -, rfl⟩ := step_move hs
    simpa using ih
  | cancel => cases hs; simp
  | outside s => cases hs; simpa using ih

/-! ## Progress -/

/-- How many moves lie behind all tasks together. -/
def progress (m : FanOut σ) : Nat := (m.tasks.map (·.phase.rank)).sum

theorem progress_le (m : FanOut σ) : m.progress ≤ 6 * m.tasks.length := by
  unfold progress
  induction m.tasks with
  | nil => simp
  | cons t ts ih =>
    have : t.phase.rank ≤ 6 := by cases t.phase <;> simp [Phase.rank]
    simp only [List.map_cons, List.sum_cons, List.length_cons]
    omega

def moveCount (es : List (Event σ)) : Nat :=
  es.countP fun | .move _ _ => true | _ => false

theorem step_move_progress {i : Nat} {mv : Move} (h : m.step workers (.move i mv) = some m') :
    m.progress < m'.progress := by
  obtain ⟨pre, t, post, p, r, ht, -, hm, rfl⟩ := step_move h
  have := hm.rank_lt
  simp only [progress, ht, List.map_append, List.map_cons, List.sum_append, List.sum_cons]
  omega

theorem moveCount_le_progress {es : List (Event σ)} (h : m.exec workers es = some m') :
    moveCount es ≤ m'.progress := by
  refine exec_invariant (fun es m' => moveCount es ≤ m'.progress) (Nat.zero_le _) ?_ h
  intro es e m₁ m₂ _ ih hs
  cases e with
  | move i mv =>
    have := step_move_progress hs
    simp only [moveCount, List.countP_append, List.countP_singleton, if_true] at ih ⊢
    omega
  | cancel => cases hs; simpa [moveCount, progress] using ih
  | outside s => cases hs; simpa [moveCount, progress] using ih

/-- **A run is short**: it has at most six moves a task. -/
theorem moveCount_le {es : List (Event σ)} (h : m.exec workers es = some m') :
    moveCount es ≤ 6 * m.tasks.length :=
  calc moveCount es ≤ m'.progress := moveCount_le_progress h
    _ ≤ 6 * m'.tasks.length := progress_le m'
    _ = 6 * m.tasks.length := by rw [exec_tasks_length h]

/-- **No deadlock**: as long as a task is not through, some task can move. -/
theorem exists_step (hw : 0 < workers) (h : ¬ m.Finished) :
    ∃ i mv m', m.step workers (.move i mv) = some m' := by
  have hmove : ∀ t ∈ m.tasks, t.phase.holdsWorker = true ∨ t.phase = .waiting ∧ m.busy < workers →
      ∃ i mv m', m.step workers (.move i mv) = some m' := by
    intro t ht hcan
    obtain ⟨pre, post, hsplit⟩ := List.append_of_mem ht
    obtain ⟨mv, p, r, hm⟩ := t.exists_move (m.busy < workers) m.canceled m.run
      (hcan.imp_right fun ⟨hp, hb⟩ => ⟨hp, decide_eq_true hb⟩)
    exact ⟨pre.length, mv, _, step_of_move hsplit hm⟩
  -- Either some task has a worker, or all workers are free and a waiting task can take one.
  by_cases hb : ∃ t ∈ m.tasks, t.phase.holdsWorker = true
  · obtain ⟨t, ht, hold⟩ := hb
    exact hmove t ht (.inl hold)
  · have hbusy : m.busy = 0 := List.countP_eq_zero.2 fun t ht hold => hb ⟨t, ht, hold⟩
    obtain ⟨t, ht, hnot⟩ : ∃ t ∈ m.tasks, ¬ ∃ o, t.phase = .done o := by
      simpa [Finished] using h
    have hidle : ¬ t.phase.holdsWorker = true := fun hold => hb ⟨t, ht, hold⟩
    have hwait : t.phase = .waiting := by
      cases hp : t.phase with
      | waiting => rfl
      | done o => exact absurd ⟨o, hp⟩ hnot
      | _ => simp [hp, Phase.holdsWorker] at hidle
    exact hmove t ht (.inr ⟨hwait, by omega⟩)

/-- **Every run can be ended** by moves alone. -/
theorem exists_finish (hw : 0 < workers) (m : FanOut σ) :
    ∃ es m', (∀ e ∈ es, ∃ i mv, e = .move i mv) ∧ m.exec workers es = some m' ∧ m'.Finished := by
  -- What is left to do: each move takes something of it.
  induction hn : 6 * m.tasks.length - m.progress using Nat.strongRecOn generalizing m with
  | ind n ih =>
    by_cases hf : m.Finished
    · exact ⟨[], m, by simp, rfl, hf⟩
    · obtain ⟨i, mv, m₁, hs⟩ := exists_step hw hf
      have hlt := step_move_progress hs
      have hle := progress_le m₁
      have hlen : m₁.tasks.length = m.tasks.length := by simpa using congrArg List.length (step_jobs hs)
      obtain ⟨es, m', hes, he, hfin⟩ := ih _ (by omega) m₁ rfl
      refine ⟨.move i mv :: es, m', ?_, ?_, hfin⟩
      · rintro e (_ | ⟨_, he⟩)
        · exact ⟨i, mv, rfl⟩
        · exact hes e he
      · simp only [exec, hs, Option.bind_some, he]

end FanOut

end Triage.Engine
