import Triage.Proofs.Activities
import Triage.Proofs.Engine.Records

/-!
# What contributions leave behind

Each source writes to fields of its own, and to the warnings, which only grow. A finding *shows* what a
source had to say if those fields and warnings are as the source leaves them. To contribute the same once
more is then to do nothing (`apply_eq_self_iff`), and what a finding shows it still shows after the
contributions of the other sources (`Survives`).
-/
namespace Triage

namespace Finding

variable {f : Finding} {text : String}

theorem mem_addWarning (f : Finding) (text : String) : text ∈ (f.addWarning text).warnings := by
  unfold addWarning
  split
  · assumption
  · simp

theorem addWarning_of_mem (h : text ∈ f.warnings) : f.addWarning text = f := if_pos h

/-- A warning is added after those that are there, or it is one of them. -/
theorem exists_addWarning (f : Finding) (text : String) :
    ∃ new, f.addWarning text = { f with warnings := f.warnings ++ new } := by
  unfold addWarning
  split
  · exact ⟨[], by simp⟩
  · exact ⟨[text], rfl⟩

end Finding

/-! ## The catalog -/

namespace ExploitedCatalog

variable {status : ExploitedStatus} {f g : Finding}

/-- What a finding gets with a status: the status, a warning if it is not known or if it is listed, and in
that case the severity as well. -/
def Shown (status : ExploitedStatus) (f : Finding) : Prop :=
  f.exploited = some status ∧
    if status.unknown then "KEV catalog unavailable, exploitation status unknown" ∈ f.warnings
    else status.inCatalog = true →
      f.effectiveSeverity = Severity.critical.name ∧ listedWarning status.entry ∈ f.warnings

theorem exists_apply (status : ExploitedStatus) (f : Finding) :
    ∃ severity new, apply status f =
      { f with exploited := some status, effectiveSeverity := severity, warnings := f.warnings ++ new } := by
  unfold apply
  dsimp only
  split
  · obtain ⟨new, h⟩ := Finding.exists_addWarning { f with exploited := some status }
      "KEV catalog unavailable, exploitation status unknown"
    exact ⟨f.effectiveSeverity, new, h⟩
  · split
    · obtain ⟨new, h⟩ := Finding.exists_addWarning
        { f with exploited := some status, effectiveSeverity := Severity.critical.name }
        (listedWarning status.entry)
      exact ⟨Severity.critical.name, new, h⟩
    · exact ⟨f.effectiveSeverity, [], by simp⟩

theorem shown_apply (status : ExploitedStatus) (f : Finding) : Shown status (apply status f) := by
  obtain ⟨severity, new, h⟩ := exists_apply status f
  refine ⟨by rw [h], ?_⟩
  unfold apply
  dsimp only
  split
  · exact Finding.mem_addWarning _ _
  · intro hlisted
    rw [if_pos hlisted]
    refine ⟨?_, Finding.mem_addWarning _ _⟩
    obtain ⟨new, h⟩ := Finding.exists_addWarning
      { f with exploited := some status, effectiveSeverity := Severity.critical.name }
      (listedWarning status.entry)
    rw [h]

/-- **To contribute a status that a finding shows is to do nothing.** -/
theorem apply_eq_self_iff : apply status f = f ↔ Shown status f := by
  refine ⟨fun h => h ▸ shown_apply status f, fun ⟨hstatus, hrest⟩ => ?_⟩
  have hsame : { f with exploited := some status } = f := by rw [← hstatus]
  unfold apply
  dsimp only
  rw [hsame]
  split
  · rename_i hunknown
    rw [if_pos hunknown] at hrest
    exact Finding.addWarning_of_mem hrest
  · rename_i hunknown
    rw [if_neg hunknown] at hrest
    split
    · rename_i hlisted
      obtain ⟨hseverity, hwarning⟩ := hrest hlisted
      rw [← hseverity, ← hstatus]
      exact Finding.addWarning_of_mem hwarning
    · rfl

theorem apply_apply (status : ExploitedStatus) (f : Finding) : apply status (apply status f) = apply status f :=
  apply_eq_self_iff.2 (shown_apply status f)

theorem Shown.keep (h : Shown status f) (hstatus : g.exploited = f.exploited)
    (hseverity : g.effectiveSeverity = f.effectiveSeverity) (hwarnings : f.warnings ⊆ g.warnings) :
    Shown status g := by
  refine ⟨hstatus.trans h.1, ?_⟩
  have hrest := h.2
  split
  · rename_i hunknown
    rw [if_pos hunknown] at hrest
    exact hwarnings hrest
  · rename_i hunknown
    rw [if_neg hunknown] at hrest
    intro hlisted
    exact ⟨hseverity.trans (hrest hlisted).1, hwarnings (hrest hlisted).2⟩

end ExploitedCatalog

/-! ## Forecasts -/

namespace Forecasts

variable {s : Forecast} {f g : Finding}

/-- What a finding gets with a forecast: its probability in words, a level if there is one for it, and a
warning if the forecast could not be had. -/
def Shown (s : Forecast) (f : Finding) : Prop :=
  f.forecast = some s ∧ f.exploitationProbability = Likelihood.percentage s.probability ∧
    f.forecastLevel = (Likelihood.level s.probability).toOption.getD f.forecastLevel ∧
    (s.error ≠ "" → "EPSS score unavailable: " ++ s.error ∈ f.warnings)

theorem exists_apply (s : Forecast) (f : Finding) :
    ∃ new, apply s f =
      { f with
        forecast := some s
        exploitationProbability := Likelihood.percentage s.probability
        forecastLevel := (Likelihood.level s.probability).toOption.getD f.forecastLevel
        warnings := f.warnings ++ new } := by
  unfold apply
  dsimp only
  split
  · exact ⟨[], by simp⟩
  · exact Finding.exists_addWarning _ _

theorem shown_apply (s : Forecast) (f : Finding) : Shown s (apply s f) := by
  obtain ⟨new, h⟩ := exists_apply s f
  refine ⟨by rw [h], by rw [h], ?_, fun herror => ?_⟩
  · rw [h]
    dsimp only
    cases (Likelihood.level s.probability).toOption <;> rfl
  · unfold apply
    dsimp only
    rw [if_neg herror]
    exact Finding.mem_addWarning _ _

/-- **To contribute a forecast that a finding shows is to do nothing.** -/
theorem apply_eq_self_iff : apply s f = f ↔ Shown s f := by
  refine ⟨fun h => h ▸ shown_apply s f, fun ⟨hforecast, hprobability, hlevel, hwarning⟩ => ?_⟩
  have hsame :
      { f with
        forecast := some s
        exploitationProbability := Likelihood.percentage s.probability
        forecastLevel := (Likelihood.level s.probability).toOption.getD f.forecastLevel } = f := by
    rw [← hforecast, ← hprobability, ← hlevel]
  unfold apply
  dsimp only
  rw [hsame]
  split
  · rfl
  · rename_i herror
    exact Finding.addWarning_of_mem (hwarning herror)

theorem apply_apply (s : Forecast) (f : Finding) : apply s (apply s f) = apply s f :=
  apply_eq_self_iff.2 (shown_apply s f)

theorem Shown.keep (h : Shown s f) (hforecast : g.forecast = f.forecast)
    (hprobability : g.exploitationProbability = f.exploitationProbability)
    (hlevel : g.forecastLevel = f.forecastLevel) (hwarnings : f.warnings ⊆ g.warnings) : Shown s g := by
  refine ⟨hforecast.trans h.1, hprobability.trans h.2.1, ?_, fun herror => hwarnings (h.2.2.2 herror)⟩
  rw [hlevel]
  exact h.2.2.1

end Forecasts

/-! ## Advisories -/

namespace Advisories

variable {a : Advisory} {f g : Finding}

theorem fillIn_fillIn (r : AffectedRange) (old : Remediation) :
    fillIn r (fillIn r old) = fillIn r old := by
  by_cases hversion : old.fixedVersion = "" <;> by_cases hrange : old.vulnerableRange = "" <;>
    simp [fillIn, hversion, hrange]

/-- What a finding gets with an advisory: the advisory, and a fix in which nothing is left to fill in from
the range that applies. -/
def Shown (a : Advisory) (f : Finding) : Prop :=
  a.ghsaId ≠ "" → f.advisory = some a ∧
    ∀ r, select? a.affected f.package f.version = some r →
      ∃ fix, f.remediation = some fix ∧ fillIn r fix = fix

theorem exists_apply (a : Advisory) (f : Finding) :
    ∃ advisory fix, apply a f = { f with advisory := advisory, remediation := fix } := by
  unfold apply remedy
  dsimp only
  split
  · exact ⟨f.advisory, f.remediation, rfl⟩
  · split
    · exact ⟨some a, f.remediation, rfl⟩
    · exact ⟨some a, _, rfl⟩

theorem shown_apply (a : Advisory) (f : Finding) : Shown a (apply a f) := by
  intro hid
  unfold apply remedy
  dsimp only
  rw [if_neg hid]
  cases hr : select? a.affected f.package f.version with
  | none =>
    refine ⟨rfl, fun r h => ?_⟩
    rw [hr] at h
    cases h
  | some r =>
    refine ⟨rfl, fun r' h => ⟨_, rfl, ?_⟩⟩
    cases hr.symm.trans h
    exact fillIn_fillIn r _

/-- **To contribute an advisory that a finding shows is to do nothing.** -/
theorem apply_eq_self_iff : apply a f = f ↔ Shown a f := by
  refine ⟨fun h => h ▸ shown_apply a f, fun h => ?_⟩
  by_cases hid : a.ghsaId = ""
  · exact if_pos hid
  obtain ⟨hadvisory, hfix⟩ := h hid
  have hsame : { f with advisory := some a } = f := by rw [← hadvisory]
  unfold apply remedy
  dsimp only
  rw [if_neg hid, hsame]
  split
  · rfl
  · rename_i r hr
    obtain ⟨fix, hsome, hfill⟩ := hfix r hr
    rw [hsome, Option.getD_some, hfill, ← hsome]
    exact hsame

theorem apply_apply (a : Advisory) (f : Finding) : apply a (apply a f) = apply a f :=
  apply_eq_self_iff.2 (shown_apply a f)

theorem Shown.keep (h : Shown a f) (hadvisory : g.advisory = f.advisory)
    (hfix : g.remediation = f.remediation) (hpackage : g.package = f.package)
    (hversion : g.version = f.version) : Shown a g := by
  intro hid
  rw [hadvisory, hfix, hpackage, hversion]
  exact h hid

end Advisories

/-! ## Exploits -/

namespace Exploits

variable {record : ExploitRecord} {f g : Finding}

def warning? (record : ExploitRecord) : Option String :=
  if record.weaponized && record.ransomwareUse then
    some "Weaponized exploit used in ransomware campaigns (VulnCheck)"
  else if record.weaponized then some "Weaponized exploit reported by VulnCheck"
  else if record.error ≠ "" then some ("VulnCheck exploit status unavailable: " ++ record.error)
  else none

theorem apply_eq (record : ExploitRecord) (f : Finding) :
    apply record f =
      match warning? record with
      | some text => { f with exploit := some record }.addWarning text
      | none => { f with exploit := some record } := by
  unfold apply warning?
  dsimp only
  split
  · rfl
  · split
    · rfl
    · split <;> rfl

/-- What a finding gets with a record: the record, and its warning. -/
def Shown (record : ExploitRecord) (f : Finding) : Prop :=
  f.exploit = some record ∧ ∀ text, warning? record = some text → text ∈ f.warnings

theorem exists_apply (record : ExploitRecord) (f : Finding) :
    ∃ new, apply record f = { f with exploit := some record, warnings := f.warnings ++ new } := by
  rw [apply_eq]
  split
  · exact Finding.exists_addWarning _ _
  · exact ⟨[], by simp⟩

theorem shown_apply (record : ExploitRecord) (f : Finding) : Shown record (apply record f) := by
  obtain ⟨new, h⟩ := exists_apply record f
  refine ⟨by rw [h], fun text htext => ?_⟩
  rw [apply_eq, htext]
  exact Finding.mem_addWarning _ _

/-- **To contribute a record that a finding shows is to do nothing.** -/
theorem apply_eq_self_iff : apply record f = f ↔ Shown record f := by
  refine ⟨fun h => h ▸ shown_apply record f, fun ⟨hrecord, hwarning⟩ => ?_⟩
  have hsame : { f with exploit := some record } = f := by rw [← hrecord]
  rw [apply_eq, hsame]
  split
  · rename_i text htext
    exact Finding.addWarning_of_mem (hwarning text htext)
  · rfl

theorem apply_apply (record : ExploitRecord) (f : Finding) : apply record (apply record f) = apply record f :=
  apply_eq_self_iff.2 (shown_apply record f)

theorem Shown.keep (h : Shown record f) (hrecord : g.exploit = f.exploit)
    (hwarnings : f.warnings ⊆ g.warnings) : Shown record g :=
  ⟨hrecord.trans h.1, fun text htext => hwarnings (h.2 text htext)⟩

end Exploits

namespace Engine

/-! ## Answers as contributions

What a source contributes to a finding is its answer to a question about the identifier alone. -/

theorem contribute_catalog (f : Finding) (w : World) :
    catalogSource.contribute f w =
      ((World.onCatalog (·.lookup f.cve) w).1.map ExploitedCatalog.apply,
        (World.onCatalog (·.lookup f.cve) w).2) := by
  simp only [catalogSource, World.onCatalog, ExploitedCatalog.Client.contribute, bind_apply, pure_apply]
  rcases w.clients.catalog.lookup f.cve w.host with ⟨⟨status, c⟩, host⟩
  rfl

theorem contribute_forecasts (f : Finding) (w : World) :
    forecastSource.contribute f w =
      ((World.onForecasts (·.fetch [f.cve]) w).1.map fun fs =>
          Forecasts.apply (Forecasts.among fs (Cve.canonical? f.cve)),
        (World.onForecasts (·.fetch [f.cve]) w).2) := by
  simp only [forecastSource, World.onForecasts, Forecasts.Client.contribute, bind_apply, pure_apply]
  rcases w.clients.forecasts.fetch [f.cve] w.host with ⟨⟨fetched, c⟩, host⟩
  rfl

theorem contribute_advisories {f : Finding} {cve : String} (h : Cve.validate f.cve = .ok cve) (w : World) :
    advisorySource.contribute f w =
      ((World.onAdvisories (·.find cve) w).1.map Advisories.apply,
        (World.onAdvisories (·.find cve) w).2) := by
  simp only [advisorySource, World.onAdvisories, Advisories.Client.contribute, h, bind_apply, pure_apply]
  rcases w.clients.advisories.find cve w.host with ⟨⟨found, c⟩, host⟩
  rfl

theorem contribute_exploits (f : Finding) (w : World) :
    exploitSource.contribute f w =
      ((World.onExploits (·.lookup f.cve) w).1.map Exploits.apply, (World.onExploits (·.lookup f.cve) w).2) := by
  simp only [exploitSource, World.onExploits, Exploits.Client.contribute, bind_apply, pure_apply]
  rcases w.clients.exploits.lookup f.cve w.host with ⟨found, host⟩
  rfl

/-! ## Contributions side by side -/

/-- What `c` leaves behind is still there after `d`. -/
def Survives (c d : Contribution) : Prop := ∀ f, c f = f → c (d f) = d f

variable {status : ExploitedStatus} {s : Forecast} {a : Advisory} {record : ExploitRecord}

theorem status_survives_forecast : Survives (ExploitedCatalog.apply status) (Forecasts.apply s) := by
  intro f h
  obtain ⟨new, hd⟩ := Forecasts.exists_apply s f
  rw [ExploitedCatalog.apply_eq_self_iff] at h ⊢
  rw [hd]
  exact h.keep rfl rfl (List.subset_append_left _ _)

theorem status_survives_advisory : Survives (ExploitedCatalog.apply status) (Advisories.apply a) := by
  intro f h
  obtain ⟨advisory, fix, hd⟩ := Advisories.exists_apply a f
  rw [ExploitedCatalog.apply_eq_self_iff] at h ⊢
  rw [hd]
  exact h.keep rfl rfl (List.Subset.refl _)

theorem status_survives_record : Survives (ExploitedCatalog.apply status) (Exploits.apply record) := by
  intro f h
  obtain ⟨new, hd⟩ := Exploits.exists_apply record f
  rw [ExploitedCatalog.apply_eq_self_iff] at h ⊢
  rw [hd]
  exact h.keep rfl rfl (List.subset_append_left _ _)

theorem forecast_survives_advisory : Survives (Forecasts.apply s) (Advisories.apply a) := by
  intro f h
  obtain ⟨advisory, fix, hd⟩ := Advisories.exists_apply a f
  rw [Forecasts.apply_eq_self_iff] at h ⊢
  rw [hd]
  exact h.keep rfl rfl rfl (List.Subset.refl _)

theorem forecast_survives_record : Survives (Forecasts.apply s) (Exploits.apply record) := by
  intro f h
  obtain ⟨new, hd⟩ := Exploits.exists_apply record f
  rw [Forecasts.apply_eq_self_iff] at h ⊢
  rw [hd]
  exact h.keep rfl rfl rfl (List.subset_append_left _ _)

theorem advisory_survives_record : Survives (Advisories.apply a) (Exploits.apply record) := by
  intro f h
  obtain ⟨new, hd⟩ := Exploits.exists_apply record f
  rw [Advisories.apply_eq_self_iff] at h ⊢
  rw [hd]
  exact h.keep rfl rfl rfl rfl

/-! Scoring is one more change that nothing of this is lost in. -/

theorem status_survives_score : Survives (ExploitedCatalog.apply status) Finding.score := by
  intro f h
  rw [ExploitedCatalog.apply_eq_self_iff] at h ⊢
  exact h.keep rfl rfl (List.Subset.refl _)

theorem forecast_survives_score : Survives (Forecasts.apply s) Finding.score := by
  intro f h
  rw [Forecasts.apply_eq_self_iff] at h ⊢
  exact h.keep rfl rfl rfl (List.Subset.refl _)

theorem advisory_survives_score : Survives (Advisories.apply a) Finding.score := by
  intro f h
  rw [Advisories.apply_eq_self_iff] at h ⊢
  exact h.keep rfl rfl rfl rfl

theorem record_survives_score : Survives (Exploits.apply record) Finding.score := by
  intro f h
  rw [Exploits.apply_eq_self_iff] at h ⊢
  exact h.keep rfl (List.Subset.refl _)

end Engine

end Triage
