import Triage.Engine.Enrich
import Triage.Proofs.Keyed

/-!
# Records of failures

The engine records in a finding which sources failed for it. A contribution is neutral if it neither
reads nor writes those records. With neutral contributions the records and the rest of a finding do not
meet: the finding gets what was contributed, as if no other lookup had been made, and its records
change at exactly the names of the lookups that did not succeed (`mergeAll_of_neutral`). The
contributions of all four sources of this program are neutral (`neutral_of_mem_allSources`).
-/
namespace Triage.Engine

/-- A change that neither reads nor writes the records of failures. -/
def Neutral (change : Contribution) : Prop :=
  ∀ f errors, change { f with enrichmentErrors := errors } = { change f with enrichmentErrors := errors }

/-- What was contributed in some lookups, in their order. -/
def contributionsOf (outcomes : List (String × Outcome)) : List Contribution :=
  outcomes.filterMap fun (_, o) =>
    match o with
    | .contributed change => some change
    | _ => none

/-- The failures of some lookups by the names of the sources, in their order. -/
def failuresOf (outcomes : List (String × Outcome)) : List (String × String) :=
  outcomes.filterMap fun (name, o) => o.failure?.map fun e => (name, e.message)

/-- A finding with changes applied in their order. -/
def applyAll (changes : List Contribution) (f : Finding) : Finding :=
  changes.foldl (fun f change => change f) f

/-- **Records and contributions do not meet**: lookups with neutral contributions leave a finding with
all contributions and with all failures put into its records. -/
theorem mergeAll_of_neutral {outcomes : List (String × Outcome)}
    (h : ∀ change ∈ contributionsOf outcomes, Neutral change) (f : Finding) :
    mergeAll f outcomes =
      { applyAll (contributionsOf outcomes) f with
        enrichmentErrors := Keyed.insertAll (failuresOf outcomes) f.enrichmentErrors } := by
  suffices hg : ∀ errors, mergeAll { f with enrichmentErrors := errors } outcomes =
      { applyAll (contributionsOf outcomes) f with
        enrichmentErrors := Keyed.insertAll (failuresOf outcomes) errors } from hg f.enrichmentErrors
  induction outcomes generalizing f with
  | nil => intro errors; rfl
  | cons no outcomes ih =>
    intro errors
    obtain ⟨name, o⟩ := no
    cases o with
    | contributed change =>
      have hchange : Neutral change := h change (by simp [contributionsOf])
      calc mergeAll { f with enrichmentErrors := errors } ((name, .contributed change) :: outcomes)
          = mergeAll (change { f with enrichmentErrors := errors }) outcomes := rfl
        _ = mergeAll { change f with enrichmentErrors := errors } outcomes := by rw [hchange f errors]
        _ = _ := ih (fun c hc => h c (List.mem_cons_of_mem _ hc)) (change f) errors
    | failed failure => exact ih h f _
    | skipped failure => exact ih h f _

theorem failuresOf_names_sublist (outcomes : List (String × Outcome)) :
    ((failuresOf outcomes).map (·.1)).Sublist (outcomes.map (·.1)) := by
  induction outcomes with
  | nil => exact .slnil
  | cons no outcomes ih =>
    obtain ⟨name, o⟩ := no
    cases o with
    | contributed change => exact ih.cons name
    | failed failure => exact ih.cons_cons name
    | skipped failure => exact ih.cons_cons name

theorem lookup_failuresOf {outcomes : List (String × Outcome)} (hnodup : (outcomes.map (·.1)).Nodup)
    {name : String} {o : Outcome} (h : (name, o) ∈ outcomes) :
    (failuresOf outcomes).lookup name = o.failure?.map (·.message) := by
  induction outcomes with
  | nil => cases h
  | cons no outcomes ih =>
    obtain ⟨first, o'⟩ := no
    obtain ⟨hfirst, hnodup⟩ := List.nodup_cons.1 hnodup
    have hnone : (failuresOf outcomes).lookup first = none := by
      refine List.lookup_eq_none_iff.2 fun p hp => bne_iff_ne.2 fun heq => hfirst ?_
      exact (failuresOf_names_sublist outcomes).subset (heq ▸ List.mem_map_of_mem hp)
    rcases List.mem_cons.1 h with heq | h
    · obtain ⟨rfl, rfl⟩ := Prod.mk.inj heq
      cases o with
      | contributed change => exact hnone
      | failed failure => exact List.lookup_cons_self
      | skipped failure => exact List.lookup_cons_self
    · have hne : (name == first) = false :=
        beq_false_of_ne fun heq => hfirst (List.mem_map.2 ⟨(name, o), h, heq⟩)
      rw [← ih hnodup h]
      cases o' with
      | contributed change => rfl
      | failed failure => simp [failuresOf, Outcome.failure?, List.lookup_cons, hne]
      | skipped failure => simp [failuresOf, Outcome.failure?, List.lookup_cons, hne]

/-- **The records of a finding after its lookups**: the failures at the names they belong to, and what
was there before at all others. -/
theorem lookup_mergeAll {outcomes : List (String × Outcome)} (f : Finding)
    (hneutral : ∀ change ∈ contributionsOf outcomes, Neutral change)
    (hnodup : (outcomes.map (·.1)).Nodup) (name : String) :
    (mergeAll f outcomes).enrichmentErrors.lookup name =
      ((failuresOf outcomes).lookup name).or (f.enrichmentErrors.lookup name) := by
  rw [mergeAll_of_neutral hneutral f]
  exact Keyed.lookup_insertAll ((failuresOf_names_sublist outcomes).nodup hnodup) _ _

/-! ## What else happens to a finding in a run -/

theorem prepare_enrichmentErrors (f : Finding) : (prepare f).enrichmentErrors = f.enrichmentErrors := by
  unfold prepare Finding.addWarning
  split
  · rfl
  · split <;> rfl

theorem score_enrichmentErrors (f : Finding) : f.score.enrichmentErrors = f.enrichmentErrors := rfl

theorem neutral_score : Neutral Finding.score := fun _ _ => rfl

/-! ## The sources of this program -/

theorem Neutral.comp {c d : Contribution} (hd : Neutral d) (hc : Neutral c) :
    Neutral fun f => d (c f) := by
  intro f errors
  exact (congrArg d (hc f errors)).trans (hd (c f) errors)

theorem Neutral.ite {p : Prop} [Decidable p] {c d : Contribution} (hc : Neutral c) (hd : Neutral d) :
    Neutral fun f => if p then c f else d f := by
  intro f errors
  dsimp only
  split
  · exact hc f errors
  · exact hd f errors

theorem neutral_addWarning (text : String) : Neutral fun f => f.addWarning text := by
  intro f errors
  simp only [Finding.addWarning]
  split <;> rfl

theorem neutral_catalog (status : ExploitedStatus) : Neutral (ExploitedCatalog.apply status) := by
  have hbase : Neutral fun f => { f with exploited := some status } := fun _ _ => rfl
  have hlisted : Neutral fun f =>
      { f with exploited := some status, effectiveSeverity := Severity.critical.name } := fun _ _ => rfl
  exact .ite ((neutral_addWarning _).comp hbase) (.ite ((neutral_addWarning _).comp hlisted) hbase)

theorem neutral_forecast (s : Forecast) : Neutral (Forecasts.apply s) := by
  have hbase : Neutral fun f =>
      { f with
        forecast := some s
        exploitationProbability := Likelihood.percentage s.probability
        forecastLevel := (Likelihood.level s.probability).toOption.getD f.forecastLevel } := fun _ _ => rfl
  exact .ite hbase ((neutral_addWarning _).comp hbase)

theorem neutral_advisory (a : Advisory) : Neutral (Advisories.apply a) := by
  have hremedy : Neutral (Advisories.remedy a) := by
    intro f errors
    unfold Advisories.remedy
    dsimp only
    split <;> rfl
  have hbase : Neutral fun f => { f with advisory := some a } := fun _ _ => rfl
  exact .ite (fun _ _ => rfl) (hremedy.comp hbase)

theorem neutral_exploit (record : ExploitRecord) : Neutral (Exploits.apply record) := by
  have hbase : Neutral fun f => { f with exploit := some record } := fun _ _ => rfl
  exact .ite ((neutral_addWarning _).comp hbase) (.ite ((neutral_addWarning _).comp hbase)
    (.ite ((neutral_addWarning _).comp hbase) hbase))

theorem exists_of_map_eq_ok {ε α β : Type} {f : α → β} {x : Except ε α} {b : β}
    (h : x.map f = .ok b) : ∃ a, f a = b := by
  cases x with
  | error e => cases h
  | ok a => exact ⟨a, Except.ok.inj h⟩

/-- **What the sources of this program contribute is neutral.** -/
theorem neutral_of_mem_allSources {s : Source World} (hs : s ∈ allSources) {f : Finding} {w : World}
    {change : Contribution} (h : (s.contribute f w).1 = .ok change) : Neutral change := by
  simp only [allSources, List.mem_cons, List.not_mem_nil, or_false] at hs
  rcases hs with rfl | rfl | rfl | rfl
  · simp only [catalogSource, World.onCatalog, ExploitedCatalog.Client.contribute, bind, StateT.bind] at h
    rcases hl : w.clients.catalog.lookup f.cve w.host with ⟨⟨status, c⟩, host⟩
    rw [hl] at h
    obtain ⟨status, rfl⟩ := exists_of_map_eq_ok h
    exact neutral_catalog status
  · simp only [forecastSource, World.onForecasts, Forecasts.Client.contribute, bind, StateT.bind] at h
    rcases hl : w.clients.forecasts.fetch [f.cve] w.host with ⟨⟨fetched, c⟩, host⟩
    rw [hl] at h
    obtain ⟨fetched, rfl⟩ := exists_of_map_eq_ok h
    exact neutral_forecast _
  · simp only [advisorySource, World.onAdvisories, Advisories.Client.contribute] at h
    cases hv : Cve.validate f.cve with
    | error e => rw [hv] at h; cases h
    | ok cve =>
      simp only [hv, bind, StateT.bind] at h
      rcases hl : w.clients.advisories.find cve w.host with ⟨⟨found, c⟩, host⟩
      rw [hl] at h
      obtain ⟨a, rfl⟩ := exists_of_map_eq_ok h
      exact neutral_advisory a
  · simp only [exploitSource, World.onExploits, Exploits.Client.contribute, bind, StateT.bind] at h
    rcases hl : w.clients.exploits.lookup f.cve w.host with ⟨found, host⟩
    rw [hl] at h
    obtain ⟨record, rfl⟩ := exists_of_map_eq_ok h
    exact neutral_exploit record

end Triage.Engine
