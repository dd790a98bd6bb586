import Triage.Proofs.CvssShare
import Triage.Proofs.Engine.Determinism
import Triage.Proofs.Engine.Tiers

/-!
# Findings without an identifier

No source is asked about a finding that names no vulnerability. A run adds a warning to it, that it was scored on its
CVSS score only, and scores it. But what the finding carried before is still there and counts: known exploitation, a
weaponized exploit, a forecast. So the warning is right exactly for findings that carry nothing of the kind.

Main statement: `unresolved_scored`. The warning is wrong in `known_exploitation_counts`.
-/
namespace Triage.Engine

open Scoring

/-! ## The runs -/

section Runs

variable {σ : Type} {sources : List (Source σ)} {fs : List Finding} {report : Report}

/-- What a run over findings reports: the lookups may be made one after the other, or side by side in any order that the
workers allow, and the run may be called off. -/
inductive Reports (sources : List (Source σ)) (fs : List Finding) : Report → Prop
  | oneByOne (canceled : Bool) (state : σ) : Reports sources fs (enrich sources canceled fs state).1
  | sideBySide {workers : Nat} {state : σ} {events : List (Event σ)} {m : FanOut σ}
      (hexec : (FanOut.start sources (fs.map prepare) state).exec workers events = some m) (hfin : m.Finished) :
    Reports sources fs (m.report sources (fs.map prepare))

/-- Every report is made of the results of lookups, given back to their findings. -/
theorem Reports.exists_rows (h : Reports sources fs report) :
    ∃ results, report.findings = rank (merged fs (rows sources.length (fs.map prepare) results)) := by
  cases h with
  | oneByOne canceled state =>
    obtain ⟨_, m, -, -, -, hreport⟩ := enrich_eq_report Nat.one_pos sources canceled fs state
    exact ⟨m.outcomes, by rw [hreport]; rfl⟩
  | sideBySide => exact ⟨_, rfl⟩

theorem mergeAll_nil (f : Finding) : mergeAll f [] = f := rfl

/-- There are no results for findings without an identifier, so they stay as they were prepared. -/
theorem forall₂_merged (width : Nat) (fs : List Finding) (results : List (String × Outcome)) :
    List.Forall₂ (fun f g => f.resolveCve? = none → g = prepare f) fs
      (merged fs (rows width (fs.map prepare) results)) := by
  induction fs generalizing results with
  | nil => exact .nil
  | cons f fs ih =>
    rw [List.map_cons, rows]
    split
    · rename_i hsome
      rw [merged_cons]
      refine .cons (fun hnone => ?_) (ih _)
      rw [resolveCve?_prepare, hnone] at hsome
      cases hsome
    · rw [merged_cons, mergeAll_nil]
      exact .cons (fun _ => rfl) (ih _)

end Runs

/-! ## One finding -/

/-- The finding is scored on its CVSS score only. -/
structure CvssOnly (g : Finding) : Prop where
  risk : (g.riskScore == 4 * g.effectiveCvss) = true
  tier : g.priority = (tierOfScore (4 * g.effectiveCvss)).name

instance (g : Finding) : Decidable (CvssOnly g) :=
  decidable_of_iff (_ ∧ _) ⟨fun h => ⟨h.1, h.2⟩, fun h => ⟨h.1, h.2⟩⟩

/-- The forecast of the finding shows next to its CVSS score. -/
def ForecastShows (f : Finding) : Prop := f.signals.ForecastShows

/-- What becomes of a finding `f` without an identifier: `g`, scored on all that `f` carries. -/
structure ScoredAsIs (f g : Finding) : Prop where
  result : g = { f.addWarning unresolvedWarning with riskScore := f.signals.risk, priority := f.signals.tier.name }
  cvssOnly_iff : CvssOnly g ↔ f.inCatalog = false ∧ f.weaponized = false ∧ ¬ ForecastShows f
  /-- Forecasts that say zero do not show, and those from a billionth on do. -/
  forecast : ∀ p, f.forecast.map (·.probability) = some p →
    (¬ 0 < p → ¬ ForecastShows f) ∧ (1e-9 ≤ p → ForecastShows f)

@[simp] theorem signals_addWarning (f : Finding) (text : String) : (f.addWarning text).signals = f.signals := by
  unfold Finding.addWarning
  split <;> rfl

theorem score_prepare_of_unresolved {f : Finding} (h : f.resolveCve? = none) : (prepare f).score =
    { f.addWarning unresolvedWarning with riskScore := f.signals.risk, priority := f.signals.tier.name } := by
  rw [prepare_of_unresolved h, Finding.score, signals_addWarning]

theorem cvssOnly_score_iff (f : Finding) : CvssOnly f.score ↔ f.signals.CvssOnly :=
  ⟨fun h => ⟨h.risk, Priority.name_inj.1 h.tier⟩, fun h => ⟨h.risk, congrArg Priority.name h.tier⟩⟩

theorem scoredAsIs_prepare {f : Finding} (h : f.resolveCve? = none) : ScoredAsIs f (prepare f).score where
  result := score_prepare_of_unresolved h
  cvssOnly_iff := by
    rw [cvssOnly_score_iff, prepare_of_unresolved h, signals_addWarning]
    exact Scoring.cvssOnly_iff (cvssRange_effectiveCvss f)
  forecast p hp := by
    have hc := cvssRange_effectiveCvss f
    refine ⟨fun hzero hshows => ?_, fun hlow => ⟨p, hp, (Number.isNaN_of_le hlow).2, hc.shows hlow⟩⟩
    obtain ⟨q, hq, -, hshow⟩ := hshows
    cases Option.some.inj (hp.symm.trans hq)
    exact hc.not_shows hzero hshow

/-- **What a finding without an identifier is scored on.** A run reports a ranking of what becomes of its findings. A
finding without an identifier comes out as it went in, with a warning and with the score and the tier of all signals
that it carries. That is four times its CVSS score, and the tier of that, exactly if it is not known to be exploited,
has no weaponized exploit, and no forecast that shows. -/
theorem unresolved_scored {σ : Type} {sources : List (Source σ)} {fs : List Finding} {report : Report}
    (h : Reports sources fs report) :
    ∃ results, RankingOf results report.findings ∧
      List.Forall₂ (fun f g => f.resolveCve? = none → ScoredAsIs f g) fs results := by
  obtain ⟨outcomes, hfindings⟩ := h.exists_rows
  refine ⟨_, hfindings ▸ rankingOf_rank _, ?_⟩
  rw [List.forall₂_map_right_iff]
  refine (forall₂_merged sources.length fs outcomes).imp fun f g hg hnone => ?_
  rw [hg hnone]
  exact scoredAsIs_prepare hnone

/-- An advisory without an identifier of its vulnerability, and what is known about it otherwise. -/
def bareAdvisory (forecast : Option Forecast) (exploited : Option ExploitedStatus) : Finding :=
  { id := "GHSA-jfh8-c2jp-5v3q", severity := "HIGH", forecast, exploited }

/-- A forecast of zero does not show, and one of a half does. -/
theorem unresolved_scored_forecasts :
    let fs := [bareAdvisory (some { probability := 0 }) none, bareAdvisory (some { probability := 0.5 }) none]
    let report := (enrich ([] : List (Source Unit)) false fs ()).1
    (fs.all (·.resolveCve?.isNone) = true ∧ Reports ([] : List (Source Unit)) fs report) ∧
      ∃ g g', RankingOf [g, g'] report.findings ∧ CvssOnly g ∧ ¬ CvssOnly g' := by
  intro fs report
  have hreport : Reports ([] : List (Source Unit)) fs report := .oneByOne false ()
  refine ⟨⟨by decide +kernel, hreport⟩, ?_⟩
  obtain ⟨results, hranking, hresults⟩ := unresolved_scored hreport
  obtain ⟨g, _, hg, hrest, rfl⟩ := List.forall₂_cons_left_iff.1 hresults
  obtain ⟨g', _, hg', hnil, rfl⟩ := List.forall₂_cons_left_iff.1 hrest
  cases List.forall₂_nil_left_iff.1 hnil
  have hg := hg (by decide +kernel)
  have hg' := hg' (by decide +kernel)
  refine ⟨g, g', hranking, hg.cvssOnly_iff.2 ⟨rfl, rfl, ?_⟩, fun honly => ?_⟩
  · exact (hg.forecast 0 rfl).1 (by decide)
  · exact (hg'.cvssOnly_iff.1 honly).2.2 ((hg'.forecast 0.5 rfl).2 (by decide))

/-- A single finding without an identifier is all there is in the report. -/
theorem Reports.findings_of_unresolved {σ : Type} {sources : List (Source σ)} {f : Finding} {report : Report}
    (h : Reports sources [f] report) (hnone : f.resolveCve? = none) : report.findings = [(prepare f).score] := by
  obtain ⟨outcomes, hfindings⟩ := h.exists_rows
  obtain ⟨g, _, hg, hnil, hmerged⟩ := List.forall₂_cons_left_iff.1 (forall₂_merged sources.length [f] outcomes)
  cases List.forall₂_nil_left_iff.1 hnil
  rw [hfindings, hmerged, hg hnone]
  exact List.perm_singleton.1 (perm_rank [prepare f])

/-- **Known exploitation that a finding carries counts**, next to the warning that the finding was scored on its CVSS
score only: four times the score is 28, which is medium. -/
theorem known_exploitation_counts :
    ∃ g, (enrich ([] : List (Source Unit)) false [bareAdvisory none (some { inCatalog := true })] ()).1.findings = [g] ∧
      g.resolveCve? = none ∧ g.warnings = ["No CVE id found, scored on CVSS only"] ∧
      (4 * g.effectiveCvss == 28) = true ∧ tierOfScore (4 * g.effectiveCvss) = .medium ∧
      (g.riskScore == 68) = true ∧ g.priority = "P0-IMMEDIATE" ∧ ¬ CvssOnly g := by
  have hnone : (bareAdvisory none (some { inCatalog := true })).resolveCve? = none := by decide +kernel
  exact ⟨_, (Reports.oneByOne false ()).findings_of_unresolved hnone, by decide +kernel⟩

end Triage.Engine
