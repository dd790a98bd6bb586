import Triage.Pipeline
import Triage.Proofs.Intel.Contributions

/-!
# The fields of a source

Each source writes to fields of its own. What it writes there depends on these fields and on those that no
source writes to, and the warning that comes with it is fixed (`BelongsTo`). So two sources can contribute to
a finding in either order, and only the warnings, to which several of them append, may stand in another order
then (`BelongsTo.swap`). From two sources it goes over to any number of them (`alike_applyAll`).
-/
namespace Triage

/-- `f`, with the fields of a source as they are in `g`. -/
def SourceId.copy (id : SourceId) (g f : Finding) : Finding :=
  match id with
  | .catalog => { f with exploited := g.exploited, effectiveSeverity := g.effectiveSeverity }
  | .forecasts =>
    { f with
      forecast := g.forecast
      exploitationProbability := g.exploitationProbability
      forecastLevel := g.forecastLevel }
  | .advisories => { f with advisory := g.advisory, remediation := g.remediation }
  | .exploits => { f with exploit := g.exploit }

/-- `f`, with all that is written for the other sources as it is in `g`: their fields, the warnings, and the
records of failures. -/
def SourceId.copyOthers (id : SourceId) (g f : Finding) : Finding :=
  (SourceId.all.filter (· ≠ id)).foldl (fun f other => other.copy g f)
    { f with warnings := g.warnings, enrichmentErrors := g.enrichmentErrors }

namespace SourceId

variable {id other : SourceId}

theorem copy_copy_self (id : SourceId) (g f h : Finding) : id.copy (id.copy g f) h = id.copy g h := by
  cases id <;> rfl

theorem copy_congr {g g' f : Finding} (h : id.copy g f = id.copy g' f) (f' : Finding) :
    id.copy g f' = id.copy g' f' := by
  rw [← copy_copy_self id g f f', h, copy_copy_self]

/-- Different sources have different fields. -/
theorem copy_comm (hne : id ≠ other) (g g' f : Finding) :
    id.copy g (other.copy g' f) = other.copy g' (id.copy g f) := by
  cases id <;> cases other <;> simp_all [copy]

theorem copy_warnings (id : SourceId) (g f : Finding) (ws ws' : List String) :
    { id.copy g { f with warnings := ws } with warnings := ws' } = { id.copy g f with warnings := ws' } := by
  cases id <;> rfl

/-- What another source has written is among what is written for the others. -/
theorem copyOthers_of_copy (hne : id ≠ other) (g f : Finding) (ws : List String) :
    id.copyOthers { other.copy g f with warnings := ws } f = { other.copy g f with warnings := ws } := by
  cases id <;> cases other <;> simp_all [copyOthers, copy, all]

end SourceId

/-! ## Warnings -/

/-- Warnings with one more, if there is one to add and it is not among them. -/
def warned (text? : Option String) (ws : List String) : List String :=
  match text? with
  | none => ws
  | some text => if text ∈ ws then ws else ws ++ [text]

theorem Finding.addWarning_eq (f : Finding) (text : String) :
    f.addWarning text = { f with warnings := warned (some text) f.warnings } := by
  simp only [addWarning, warned]
  split <;> rfl

theorem warned_of_mem {text : String} {ws : List String} (h : text ∈ ws) : warned (some text) ws = ws :=
  if_pos h

theorem warned_of_not_mem {text : String} {ws : List String} (h : text ∉ ws) :
    warned (some text) ws = ws ++ [text] :=
  if_neg h

theorem subset_warned (text? : Option String) {ws : List String} : ws ⊆ warned text? ws := by
  intro text htext
  unfold warned
  split
  · exact htext
  · split
    · exact htext
    · exact List.mem_append_left _ htext

/-- Both lists go on after `before`, with the same warnings. -/
def GoOnAlike (before ws ws' : List String) : Prop :=
  ∃ new new', ws = before ++ new ∧ ws' = before ++ new' ∧ new.Perm new'

namespace GoOnAlike

variable {before ws ws' ws'' : List String}

theorem refl (before new : List String) : GoOnAlike before (before ++ new) (before ++ new) :=
  ⟨new, new, rfl, rfl, .refl _⟩

theorem left (h : GoOnAlike before ws ws') : GoOnAlike before ws ws := by
  obtain ⟨new, -, rfl, -, -⟩ := h
  exact .refl before new

theorem trans (h : GoOnAlike before ws ws') (h' : GoOnAlike before ws' ws'') : GoOnAlike before ws ws'' := by
  obtain ⟨new, mid, rfl, rfl, hperm⟩ := h
  obtain ⟨mid', new', hmid, rfl, hperm'⟩ := h'
  cases List.append_cancel_left hmid
  exact ⟨new, new', rfl, rfl, hperm.trans hperm'⟩

theorem mem_iff (h : GoOnAlike before ws ws') (text : String) : text ∈ ws ↔ text ∈ ws' := by
  obtain ⟨new, new', rfl, rfl, hperm⟩ := h
  simp only [List.mem_append, hperm.mem_iff]

theorem warned (h : GoOnAlike before ws ws') (text? : Option String) :
    GoOnAlike before (warned text? ws) (warned text? ws') := by
  cases text? with
  | none => exact h
  | some text =>
    simp only [Triage.warned, h.mem_iff text]
    split
    · exact h
    · obtain ⟨new, new', rfl, rfl, hperm⟩ := h
      exact ⟨new ++ [text], new' ++ [text], by simp, by simp, hperm.append_right _⟩

/-- Two warnings that are added one after the other may change places. -/
theorem swap (h : GoOnAlike before ws ws) (text? text?' : Option String) :
    GoOnAlike before (Triage.warned text? (Triage.warned text?' ws))
      (Triage.warned text?' (Triage.warned text? ws)) := by
  cases text? with
  | none => exact h.warned text?'
  | some text =>
    cases text?' with
    | none => exact h.warned (some text)
    | some text' =>
      -- A warning that is there already changes nothing, whenever it is added.
      by_cases hmem : text ∈ ws
      · rw [warned_of_mem hmem, warned_of_mem (subset_warned _ hmem)]
        exact h.warned _
      by_cases hmem' : text' ∈ ws
      · rw [warned_of_mem hmem', warned_of_mem (subset_warned _ hmem')]
        exact h.warned _
      by_cases heq : text = text'
      · subst heq
        exact (h.warned _).warned _
      obtain ⟨new, -, hws, -, -⟩ := h
      have hnew : text ∉ ws ++ [text'] := by simp [hmem, heq]
      have hnew' : text' ∉ ws ++ [text] := by simp [hmem', Ne.symm heq]
      rw [warned_of_not_mem hmem, warned_of_not_mem hmem', warned_of_not_mem hnew, warned_of_not_mem hnew']
      refine ⟨new ++ [text', text], new ++ [text, text'], ?_, ?_, (List.Perm.swap ..).append_left new⟩
      · simp [hws]
      · simp [hws]

end GoOnAlike

namespace Engine

/-! ## Changes that belong to a source -/

/-- The change writes to the fields of the source, and appends a warning that does not depend on the finding.
What it writes does not depend on anything that is written for the other sources. -/
structure BelongsTo (id : SourceId) (change : Contribution) : Prop where
  writes : ∃ text?, ∀ f, change f = { id.copy (change f) f with warnings := warned text? f.warnings }
  reads : ∀ f g, id.copy (change (id.copyOthers g f)) f = id.copy (change f) f

/-- A change in two parts: one to the fields, and the warning. -/
theorem belongsTo_of_eq {id : SourceId} {change : Contribution} (base : Contribution)
    (text? : Option String)
    (h : ∀ f, change f = { base f with warnings := warned text? f.warnings })
    (hwrites : ∀ f, base f = id.copy (base f) f)
    (hreads : ∀ f g, id.copy (base (id.copyOthers g f)) f = id.copy (base f) f) : BelongsTo id change where
  writes := by
    refine ⟨text?, fun f => ?_⟩
    have hcopy : id.copy (change f) f = id.copy (base f) f := by
      rw [h]
      cases id <;> rfl
    rw [hcopy, ← hwrites]
    exact h f
  reads f g := by
    have hcopy (f' : Finding) : id.copy (change f') f = id.copy (base f') f := by
      rw [h]
      cases id <;> rfl
    rw [hcopy, hcopy, hreads]

theorem belongsTo_catalog (status : ExploitedStatus) : BelongsTo .catalog (ExploitedCatalog.apply status) := by
  let listed := !status.unknown && status.inCatalog
  let base : Contribution := fun f =>
    { f with
      exploited := some status
      effectiveSeverity := if listed then Severity.critical.name else f.effectiveSeverity }
  let text? : Option String :=
    if status.unknown then some "KEV catalog unavailable, exploitation status unknown"
    else if status.inCatalog then some (ExploitedCatalog.listedWarning status.entry) else none
  refine belongsTo_of_eq base text? (fun f => ?_) (fun _ => rfl) (fun _ _ => rfl)
  unfold ExploitedCatalog.apply
  cases hunknown : status.unknown with
  | true => simp [base, text?, listed, hunknown, Finding.addWarning_eq]
  | false =>
    cases hlisted : status.inCatalog with
    | true => simp [base, text?, listed, hunknown, hlisted, Finding.addWarning_eq]
    | false => simp [base, text?, listed, hunknown, hlisted, warned]

theorem belongsTo_forecasts (s : Forecast) : BelongsTo .forecasts (Forecasts.apply s) := by
  refine belongsTo_of_eq
    (fun f =>
      { f with
        forecast := some s
        exploitationProbability := Likelihood.percentage s.probability
        forecastLevel := (Likelihood.level s.probability).toOption.getD f.forecastLevel })
    (if s.error = "" then none else some ("EPSS score unavailable: " ++ s.error))
    (fun f => ?_) (fun _ => rfl) (fun _ _ => rfl)
  unfold Forecasts.apply
  dsimp only
  split
  · rfl
  · exact Finding.addWarning_eq _ _

theorem belongsTo_advisories (a : Advisory) : BelongsTo .advisories (Advisories.apply a) := by
  refine belongsTo_of_eq (Advisories.apply a) none (fun f => ?_) (fun f => ?_) (fun f g => ?_)
  · obtain ⟨advisory, fix, h⟩ := Advisories.exists_apply a f
    rw [h]
    rfl
  · obtain ⟨advisory, fix, h⟩ := Advisories.exists_apply a f
    rw [h]
    rfl
  · unfold Advisories.apply Advisories.remedy
    split
    · rfl
    · -- Which range applies is told by the package and its version.
      have hrange : (SourceId.copyOthers .advisories g f).package = f.package ∧
          (SourceId.copyOthers .advisories g f).version = f.version := ⟨rfl, rfl⟩
      dsimp only
      rw [hrange.1, hrange.2]
      cases Advisories.select? a.affected f.package f.version <;> rfl

theorem belongsTo_exploits (record : ExploitRecord) : BelongsTo .exploits (Exploits.apply record) := by
  refine belongsTo_of_eq (fun f => { f with exploit := some record })
    (Exploits.warning? record) (fun f => ?_) (fun _ => rfl) (fun _ _ => rfl)
  rw [Exploits.apply_eq]
  cases Exploits.warning? record with
  | none => rfl
  | some text => exact Finding.addWarning_eq _ _

/-- To do nothing belongs to every source. -/
theorem belongsTo_nothing (id : SourceId) : BelongsTo id fun f => f :=
  belongsTo_of_eq (fun f => f) none (fun _ => rfl) (fun _ => by cases id <;> rfl)
    (fun _ _ => by cases id <;> rfl)

/-! ## The order of changes -/

/-- The findings are the same, but for the order of the warnings after the first ones. -/
structure AlikeAfter (before : List String) (f g : Finding) : Prop where
  rest : g = { f with warnings := g.warnings }
  warnings : GoOnAlike before f.warnings g.warnings

namespace AlikeAfter

variable {before : List String} {f g h : Finding}

theorem refl (hf : GoOnAlike before f.warnings f.warnings) : AlikeAfter before f f := ⟨rfl, hf⟩

theorem left (hfg : AlikeAfter before f g) : AlikeAfter before f f := .refl hfg.warnings.left

theorem trans (hfg : AlikeAfter before f g) (hgh : AlikeAfter before g h) : AlikeAfter before f h where
  rest := by rw [hgh.rest, hfg.rest]
  warnings := hfg.warnings.trans hgh.warnings

theorem withErrors (hfg : AlikeAfter before f g) (errors : List (String × String)) :
    AlikeAfter before { f with enrichmentErrors := errors } { g with enrichmentErrors := errors } where
  rest := congrArg (fun g => { g with enrichmentErrors := errors }) hfg.rest
  warnings := hfg.warnings

theorem score (hfg : AlikeAfter before f g) : AlikeAfter before f.score g.score where
  rest := congrArg Finding.score hfg.rest
  warnings := hfg.warnings

end AlikeAfter

namespace BelongsTo

variable {id other : SourceId} {change change' : Contribution} {before : List String} {f g : Finding}

theorem alike (h : BelongsTo id change) (hfg : AlikeAfter before f g) :
    AlikeAfter before (change f) (change g) := by
  obtain ⟨text?, hwrites⟩ := h.writes
  have hothers : id.copyOthers g f = g := by
    rw [hfg.rest]
    cases id <;> rfl
  have hown := h.reads f g
  rw [hothers] at hown
  have hg : change g = { id.copy (change f) f with warnings := warned text? g.warnings } := by
    calc change g
        = { id.copy (change f) g with warnings := warned text? g.warnings } := by
          rw [hwrites g, SourceId.copy_congr hown g]
      _ = { id.copy (change f) { f with warnings := g.warnings } with
            warnings := warned text? g.warnings } := by rw [← hfg.rest]
      _ = _ := SourceId.copy_warnings _ _ _ _ _
  refine ⟨?_, ?_⟩
  · rw [hg, hwrites f]
    cases id <;> rfl
  · rw [hg, hwrites f]
    exact hfg.warnings.warned text?

/-- The change of one source, made after that of another one. -/
theorem apply_apply (h : BelongsTo id change) (hne : id ≠ other) {text? text?' : Option String}
    (hwrites : ∀ f, change f = { id.copy (change f) f with warnings := warned text? f.warnings })
    (hwrites' : ∀ f, change' f = { other.copy (change' f) f with warnings := warned text?' f.warnings }) :
    change (change' f) = { id.copy (change f) (other.copy (change' f) f) with
      warnings := warned text? (warned text?' f.warnings) } := by
  have hothers : id.copyOthers (change' f) f = change' f := by
    rw [hwrites' f, SourceId.copyOthers_of_copy hne]
  have hown := h.reads f (change' f)
  rw [hothers] at hown
  calc change (change' f)
      = { id.copy (change f) (change' f) with warnings := warned text? (change' f).warnings } := by
        rw [hwrites (change' f), SourceId.copy_congr hown]
    _ = { id.copy (change f) { other.copy (change' f) f with warnings := warned text?' f.warnings } with
          warnings := warned text? (warned text?' f.warnings) } := by
        rw [← hwrites' f]
        rw [show (change' f).warnings = warned text?' f.warnings from by rw [hwrites' f]]
    _ = _ := SourceId.copy_warnings _ _ _ _ _

/-- **Two sources can contribute in either order.** -/
theorem swap (h : BelongsTo id change) (h' : BelongsTo other change') (hne : id ≠ other)
    (hf : AlikeAfter before f f) : AlikeAfter before (change (change' f)) (change' (change f)) := by
  obtain ⟨text?, hwrites⟩ := h.writes
  obtain ⟨text?', hwrites'⟩ := h'.writes
  rw [h.apply_apply hne hwrites hwrites', h'.apply_apply hne.symm hwrites' hwrites,
    SourceId.copy_comm hne]
  exact ⟨rfl, hf.warnings.swap text? text?'⟩

/-- What a finding says about its vulnerability, and how it is scored, belongs to no source. -/
theorem core (h : BelongsTo id change) (f : Finding) :
    (change f).cve = f.cve ∧ (change f).severity = f.severity ∧ (change f).cvssScore = f.cvssScore ∧
      (change f).cvssVector = f.cvssVector ∧ (change f).riskScore = f.riskScore ∧
      (change f).priority = f.priority := by
  obtain ⟨text?, hwrites⟩ := h.writes
  rw [hwrites f]
  cases id <;> exact ⟨rfl, rfl, rfl, rfl, rfl, rfl⟩

theorem identifiers_eq (h : BelongsTo id change) (f : Finding) : (change f).identifiers = f.identifiers := by
  obtain ⟨text?, hwrites⟩ := h.writes
  rw [hwrites f]
  cases id <;> rfl

theorem neutral (h : BelongsTo id change) : Neutral change := by
  intro f errors
  obtain ⟨text?, hwrites⟩ := h.writes
  have hown := h.reads f { f with enrichmentErrors := errors }
  have hothers : id.copyOthers { f with enrichmentErrors := errors } f =
      { f with enrichmentErrors := errors } := by
    cases id <;> rfl
  rw [hothers] at hown
  rw [hwrites { f with enrichmentErrors := errors }, SourceId.copy_congr hown, hwrites f]
  cases id <;> rfl

end BelongsTo

section Order

variable {change : SourceId → Contribution} {before : List String}

theorem alike_applyAll_of_alike (h : ∀ id, BelongsTo id (change id)) (ids : List SourceId)
    {f g : Finding} (hfg : AlikeAfter before f g) :
    AlikeAfter before (applyAll (ids.map change) f) (applyAll (ids.map change) g) := by
  induction ids generalizing f g with
  | nil => exact hfg
  | cons id ids ih => exact ih ((h id).alike hfg)

/-- **Any number of sources can contribute in any order.** -/
theorem alike_applyAll (h : ∀ id, BelongsTo id (change id)) {ids ids' : List SourceId}
    (hperm : ids.Perm ids') (hnodup : ids.Nodup) {f : Finding} (hf : AlikeAfter before f f) :
    AlikeAfter before (applyAll (ids.map change) f) (applyAll (ids'.map change) f) := by
  induction hperm generalizing f with
  | nil => exact hf
  | @cons id ids ids' _ ih => exact ih (List.nodup_cons.1 hnodup).2 ((h id).alike hf)
  | swap id other ids =>
    have hne : id ≠ other := fun heq => by simp [heq] at hnodup
    exact alike_applyAll_of_alike h ids ((h id).swap (h other) hne hf)
  | trans hperm _ ih ih' => exact (ih hnodup hf).trans (ih' (hperm.nodup hnodup) hf)

end Order

end Engine

end Triage
