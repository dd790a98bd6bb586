import Mathlib.Data.List.Nodup
import Triage.Proofs.Engine.FreshRuns

/-!
# Tiers and their counts

Each scored finding is in exactly one tier. Findings that are in one of several tiers are those of the
first, those of the second and so on, each of them once (`perm_flatMap_tiers`); the counts of the tiers
therefore add up (`sum_countP_tiers`). What a run reports has been scored and ranked, whatever the order
of its lookups (`ranked_enrich`), and so has what is published after any number of runs (`Ranked.runAll`).
-/
namespace Triage

namespace Priority

theorem name_inj {p q : Priority} : p.name = q.name ↔ p = q := by
  cases p <;> cases q <;> decide

theorem ofName?_eq_some_iff {s : String} {p : Priority} : ofName? s = some p ↔ s = p.name := by
  constructor
  · intro h
    have hname := List.find?_some h
    exact (eq_of_beq hname).symm
  · rintro rfl
    exact ofName?_name p

theorem nodup_all : all.Nodup := by decide

theorem mem_all (p : Priority) : p ∈ all := by cases p <;> decide

instance {P : Priority → Prop} [DecidablePred P] : Decidable (∃ p, P p) :=
  decidable_of_iff (∃ p ∈ all, P p) ⟨fun ⟨p, _, h⟩ => ⟨p, h⟩, fun ⟨p, h⟩ => ⟨p, mem_all p, h⟩⟩

end Priority

def Finding.Tiered (f : Finding) : Prop := ∃ p : Priority, f.priority = p.name

/-- Scored findings are in a tier. -/
theorem tiered_of_mem_rank {fs : List Finding} {f : Finding} (h : f ∈ Engine.rank fs) : f.Tiered := by
  obtain ⟨g, -, rfl⟩ := List.mem_map.1 (List.mem_mergeSort.1 h)
  exact ⟨g.signals.tier, rfl⟩

/-- **Findings by tier**: those in one of some tiers are those of each of them. -/
theorem perm_flatMap_tiers {ps : List Priority} (hps : ps.Nodup) (fs : List Finding) :
    (fs.filter fun f => ps.any (·.name == f.priority)).Perm
      (ps.flatMap fun p => fs.filter (·.priority == p.name)) := by
  induction ps with
  | nil => simp
  | cons p ps ih =>
    obtain ⟨hp, hps⟩ := List.nodup_cons.1 hps
    -- No finding of the first tier is in one of the others.
    have hother : ∀ f : Finding, f.priority = p.name → ps.any (·.name == f.priority) = false := by
      intro f hf
      simp only [List.any_eq_false, beq_iff_eq, hf, Priority.name_inj]
      rintro q hq rfl
      exact hp hq
    have hsplit := List.filter_append_perm (fun f : Finding => f.priority == p.name)
      (fs.filter fun f => (p :: ps).any (·.name == f.priority))
    rw [List.filter_filter, List.filter_filter] at hsplit
    refine hsplit.symm.trans ?_
    rw [List.flatMap_cons]
    refine .append (.of_eq (List.filter_congr fun f _ => ?_))
      (.trans (.of_eq (List.filter_congr fun f _ => ?_)) (ih hps))
    · by_cases hf : f.priority = p.name <;> simp [hf]
    · by_cases hf : f.priority = p.name
      · simp [hf, ← hother f hf]
      · rw [List.any_cons, beq_false_of_ne hf, beq_false_of_ne (Ne.symm hf)]
        rfl

/-- **The counts of tiers add up.** -/
theorem sum_countP_tiers {ps : List Priority} (hps : ps.Nodup) (fs : List Finding) :
    (ps.map fun p => fs.countP (·.priority == p.name)).sum =
      fs.countP fun f => ps.any (·.name == f.priority) := by
  rw [List.countP_eq_length_filter, (perm_flatMap_tiers hps fs).length_eq, List.length_flatMap]
  simp only [List.countP_eq_length_filter]

/-- All findings are counted if they are in a tier. -/
theorem sum_prioritySummary {fs : List Finding} (h : ∀ f ∈ fs, f.Tiered) :
    ((prioritySummary fs).map (·.2)).sum = fs.length := by
  rw [prioritySummary, List.map_map]
  refine (sum_countP_tiers Priority.nodup_all fs).trans (List.countP_eq_length.2 fun f hf => ?_)
  obtain ⟨p, hp⟩ := h f hf
  rw [hp]
  cases p <;> decide

/-! ## What is published is ranked -/

namespace Engine

/-- The findings have been scored and ranked. -/
def Ranked (fs : List Finding) : Prop := ∃ gs, fs = rank gs

theorem ranked_nil : Ranked [] := ⟨[], by simp [rank]⟩

theorem Ranked.tiered {fs : List Finding} (h : Ranked fs) : ∀ f ∈ fs, f.Tiered := by
  obtain ⟨gs, rfl⟩ := h
  exact fun f hf => tiered_of_mem_rank hf

theorem Ranked.pairwise {fs : List Finding} (h : Ranked fs) :
    fs.Pairwise fun a b => b.riskScore ≤ a.riskScore := by
  obtain ⟨gs, rfl⟩ := h
  exact pairwise_rank gs

theorem ranked_enrich {sources : List (Source World)} {s : Schedule} {fs : List Finding} {w w' : World}
    {report : Report} (h : s.enrich sources fs w = some (report, w')) : Ranked report.findings := by
  cases s with
  | oneByOne canceled =>
    cases h
    exact ⟨_, rfl⟩
  | sideBySide workers events =>
    obtain ⟨m, -, hm⟩ := Option.bind_eq_some_iff.1 h
    split at hm
    · cases hm
      exact ⟨_, rfl⟩
    · cases hm

theorem Ranked.run {sources : List (Source World)} {a : Attempt} {w w' : World} {p p' : Publication}
    (hp : Ranked p.findings) (h : a.run sources w p = some (w', p')) : Ranked p'.findings := by
  unfold Attempt.run at h
  split at h
  · cases h
    exact hp
  · obtain ⟨⟨report, w₁⟩, hreport, hp'⟩ := Option.map_eq_some_iff.1 h
    cases hp'
    exact ranked_enrich hreport

/-- **What is published is ranked**, after any attempts to run the engine. -/
theorem Ranked.runAll {sources : List (Source World)} {attempts : List Attempt} {w w' : World}
    {p p' : Publication} (hp : Ranked p.findings)
    (h : Engine.runAll sources w p attempts = some (w', p')) : Ranked p'.findings := by
  induction attempts generalizing w p with
  | nil => cases h; exact hp
  | cons a attempts ih =>
    obtain ⟨⟨w₁, p₁⟩, hrun, hrest⟩ := Option.bind_eq_some_iff.1 h
    exact ih (hp.run hrun) hrest

end Engine

end Triage
