import Mathlib.Algebra.GroupWithZero.Nat
import Mathlib.Data.List.Basic

/-!
# Activities side by side

Several activities act on one shared state, a move at a time. No two moves happen at once, but those of
different activities come in any order, and the shared state may change from outside between any two of them
(`Rules`, `Scene.exec`). What a move does is said once, in `Scene.step_move`; what every event keeps holds after
all of them (`Scene.exec_invariant`). If each move brings its activity on, and some activity can move as long as
not all of them are through, then every run that is begun can be ended (`Scene.exists_finish`).
-/
namespace Triage.SideBySide

/-- What the activities `α` can do with the shared state `σ`: the move `μ` of the activity at an index, if it can
make it, and what a change `ω` from outside does. -/
structure Rules (α σ μ ω : Type) where
  move : Nat → α → σ → μ → Option (α × σ)
  outside : ω → σ → σ

/-- All activities, under way. -/
structure Scene (α σ : Type) where
  shared : σ
  activities : List α

/-- What happens next. -/
inductive Event (μ ω : Type) where
  | move (index : Nat) (m : μ)
  | outside (change : ω)

variable {α σ μ ω : Type}

/-! ## One activity among the others -/

section

variable {P : α → Prop}

/-- What holds for all activities keeps doing so if it does for the one that moves. -/
theorem forall_mem_replace {pre post : List α} {a a' : α} (h : ∀ x ∈ pre ++ a :: post, P x) (ha' : P a') :
    ∀ x ∈ pre ++ a' :: post, P x := by
  intro x hx
  rcases List.mem_append.1 hx with hx | hx
  · exact h x (by simp [hx])
  · rcases List.mem_cons.1 hx with rfl | hx
    · exact ha'
    · exact h x (by simp [hx])

/-- What holds for some activity does so for the one at hand or for one of the others. -/
theorem exists_mem_replace (pre post : List α) (a : α) :
    (∃ x ∈ pre ++ a :: post, P x) ↔ P a ∨ ∃ x ∈ pre ++ post, P x := by
  constructor
  · rintro ⟨x, hx, hP⟩
    rcases List.mem_append.1 hx with hx | hx
    · exact .inr ⟨x, by simp [hx], hP⟩
    · rcases List.mem_cons.1 hx with rfl | hx
      · exact .inl hP
      · exact .inr ⟨x, by simp [hx], hP⟩
  · rintro (hP | ⟨x, hx, hP⟩)
    · exact ⟨a, by simp, hP⟩
    · exact ⟨x, by simpa using Or.imp_right .inr (List.mem_append.1 hx), hP⟩

/-- How a count over all activities changes is a matter of the one that moves. -/
theorem countP_replace (p : α → Bool) (pre post : List α) (a a' : α) :
    (pre ++ a' :: post).countP p + (p a).toNat = (pre ++ a :: post).countP p + (p a').toNat := by
  simp only [List.countP_append, List.countP_cons]
  cases p a <;> cases p a' <;> simp <;> omega

end

namespace Scene

/-- What the next event leads to, if it can happen. -/
def step (r : Rules α σ μ ω) (s : Scene α σ) : Event μ ω → Option (Scene α σ)
  | .move i m => do
    let a ← s.activities[i]?
    let (a, shared) ← r.move i a s.shared m
    return { shared, activities := s.activities.set i a }
  | .outside change => some { s with shared := r.outside change s.shared }

/-- What a sequence of events leads to, if they can happen in this order. -/
def exec (r : Rules α σ μ ω) : Scene α σ → List (Event μ ω) → Option (Scene α σ)
  | s, [] => some s
  | s, e :: es => (s.step r e).bind fun s => exec r s es

variable {r : Rules α σ μ ω} {s s' : Scene α σ}

/-- **What a move does.** The activity at its index makes it, and the others stay as they are. -/
theorem step_move {i : Nat} {m : μ} (h : s.step r (.move i m) = some s') :
    ∃ pre a post a' shared, s.activities = pre ++ a :: post ∧ pre.length = i ∧
      r.move i a s.shared m = some (a', shared) ∧ s' = { shared, activities := pre ++ a' :: post } := by
  simp only [step, Option.bind_eq_bind, Option.bind_eq_some_iff] at h
  obtain ⟨a, ha, ⟨a', shared⟩, hmove, hs'⟩ := h
  obtain ⟨hi, rfl⟩ := List.getElem?_eq_some_iff.1 ha
  cases hs'
  refine ⟨s.activities.take i, _, s.activities.drop (i + 1), a', shared, ?_, ?_, hmove, ?_⟩
  · rw [List.getElem_cons_drop, List.take_append_drop]
  · rw [List.length_take]
    omega
  · rw [List.set_eq_take_append_cons_drop, if_pos hi]

/-- An activity that can move does so. -/
theorem step_of_move {pre post : List α} {a a' : α} {m : μ} {shared : σ}
    (ha : s.activities = pre ++ a :: post) (hm : r.move pre.length a s.shared m = some (a', shared)) :
    s.step r (.move pre.length m) = some { shared, activities := pre ++ a' :: post } := by
  simp [step, ha, hm]

/-- A move that can be made is the first event of a sequence. -/
theorem exec_of_move {pre post : List α} {a a' : α} {m : μ} {shared shared' : σ} (es : List (Event μ ω))
    (hm : r.move pre.length a shared m = some (a', shared')) :
    exec r ⟨shared, pre ++ a :: post⟩ (.move pre.length m :: es) = exec r ⟨shared', pre ++ a' :: post⟩ es := by
  rw [exec, step_of_move rfl hm, Option.bind_some]

/-! ## Sequences of events -/

/-- **Invariants.** What holds before the first event and is kept by every event holds after all of them. -/
theorem exec_invariant {P : Scene α σ → Prop} (hkept : ∀ s e s', P s → s.step r e = some s' → P s')
    {es : List (Event μ ω)} (hs : P s) (h : s.exec r es = some s') : P s' := by
  induction es generalizing s with
  | nil =>
    cases h
    exact hs
  | cons e es ih =>
    obtain ⟨s₁, hstep, hrest⟩ := Option.bind_eq_some_iff.1 h
    exact ih (hkept s e s₁ hs hstep) hrest

/-- How many moves are left at most, if the activities are through at the rank `last`. -/
def remaining (rank : α → Nat) (last : Nat) (s : Scene α σ) : Nat :=
  (s.activities.map fun a => last - rank a).sum

/-- **Every run can be ended**, if each move brings its activity on and some activity can move as long as not
all of them are through. -/
theorem exists_finish (rank : α → Nat) (last : Nat) (hlast : ∀ a, rank a ≤ last)
    (hrank : ∀ {i a shared m a' shared'}, r.move i a shared m = some (a', shared') → rank a < rank a')
    {P : Scene α σ → Prop} (hkept : ∀ s e s', P s → s.step r e = some s' → P s')
    (hmove : ∀ s, P s → (∃ a ∈ s.activities, rank a ≠ last) → ∃ i m s', s.step r (.move i m) = some s')
    (hs : P s) : ∃ es s', s.exec r es = some s' ∧ ∀ a ∈ s'.activities, rank a = last := by
  induction hn : s.remaining rank last using Nat.strongRecOn generalizing s with
  | ind n ih =>
    by_cases hdone : ∃ a ∈ s.activities, rank a ≠ last
    · obtain ⟨i, m, s₁, hstep⟩ := hmove s hs hdone
      have hless : s₁.remaining rank last < n := by
        obtain ⟨pre, a, post, a', shared, hsplit, -, hm, rfl⟩ := step_move hstep
        have hlt := hrank hm
        have hle := hlast a'
        simp only [remaining, hsplit, List.map_append, List.map_cons, List.sum_append, List.sum_cons] at hn ⊢
        omega
      obtain ⟨es, s', hexec, hend⟩ := ih _ hless (hkept s _ s₁ hs hstep) rfl
      exact ⟨.move i m :: es, s', by rw [exec, hstep, Option.bind_some, hexec], hend⟩
    · refine ⟨[], s, rfl, fun a ha => ?_⟩
      by_contra hne
      exact hdone ⟨a, ha, hne⟩

end Scene

end Triage.SideBySide
