import Triage.Command.Enrich
import Triage.Proofs.Engine.Accounting
import Triage.Proofs.Engine.Tiers
import Triage.Proofs.Host.Disk

/-!
# Findings that stop a build

An enrichment that is told a tier ends well only if no source rejected its credentials and no finding is
at or above the tier. Its lookups may be made in any order (`enrichAlong`); the command makes them one
after the other (`enrichAlong_oneByOne`). Main statement: `gate_of_enrichment`.
-/
namespace Triage

/-! ## Rejected credentials -/

namespace Engine

/-- The outcomes of the lookups of a run. -/
def Schedule.outcomes (sources : List (Source World)) (fs : List Finding) (w : World) :
    Schedule → List (String × Outcome)
  | .oneByOne canceled => (outcomesOneByOne sources canceled fs w).flatten
  | .sideBySide workers events =>
    ((FanOut.start sources (fs.map prepare) (readyState sources fs w)).execWithin workers events).elim []
      FanOut.outcomes

/-- A source rejected the credentials in one of the lookups. -/
def Rejected (outcomes : List (String × Outcome)) (name : String) : Prop :=
  ∃ failure, (name, .failed failure) ∈ outcomes ∧ failure.kind = disablingKind

theorem FanOut.exists_exec_of_execWithin {workers : Nat} {m m' : FanOut World} {es : List (Event Host)}
    (h : m.execWithin workers es = some m') : ∃ es', m.exec workers es' = some m' := by
  induction es generalizing m with
  | nil => exact ⟨[], h⟩
  | cons e es ih =>
    obtain ⟨m₁, hs, hrest⟩ := Option.bind_eq_some_iff.1 h
    obtain ⟨es', hes'⟩ := ih hrest
    exact ⟨e.within m.run.state :: es', Option.bind_eq_some_iff.2 ⟨m₁, hs, hes'⟩⟩

section Schedule

variable {sources : List (Source World)} {s : Schedule} {fs : List Finding} {w w' : World} {report : Report}

/-- **A run makes its lookups side by side**, whatever their order. -/
theorem Schedule.exists_exec (h : s.enrich sources fs w = some (report, w')) : ∃ workers es m,
    (FanOut.start sources (fs.map prepare) (readyState sources fs w)).exec workers es = some m ∧
      m.Finished ∧ report = m.report sources (fs.map prepare) ∧ s.outcomes sources fs w = m.outcomes := by
  cases s with
  | oneByOne canceled =>
    obtain ⟨es, m, hexec, hfin, -, -, hlookups⟩ := exists_exec_lookups Nat.one_pos sources canceled fs w
    refine ⟨1, es, m, hexec, hfin, ?_, ?_⟩
    · have hreport : (Engine.enrich sources canceled fs w).1 = report := congrArg Prod.fst (Option.some.inj h)
      rw [← hreport, enrich_apply]
      simp only [hlookups, FanOut.report]
    · rw [outcomes, outcomesOneByOne, hlookups]
      exact FanOut.flatten_rows_outcomes hexec hfin
  | sideBySide workers events =>
    obtain ⟨m, hm, hrest⟩ := Option.bind_eq_some_iff.1 h
    obtain ⟨es, hexec⟩ := FanOut.exists_exec_of_execWithin hm
    split at hrest
    · rename_i hfin
      cases hrest
      exact ⟨workers, es, m, hexec, hfin, rfl, by rw [outcomes, hm]; rfl⟩
    · cases hrest

/-- All findings are reported. -/
theorem length_findings_enrich (h : s.enrich sources fs w = some (report, w')) :
    report.findings.length = fs.length := by
  obtain ⟨workers, es, m, -, -, rfl, -⟩ := Schedule.exists_exec h
  rw [FanOut.report, Report.ofOutcomes, length_rank, List.length_map, List.length_zip, length_rows,
    Nat.min_self, List.length_map]

/-- A source has been given up exactly if one of the outcomes is that it rejected the credentials. -/
theorem FanOut.mem_disabled_iff_rejected {σ : Type} {sources : List (Source σ)} {prepared : List Finding}
    {state : σ} {workers : Nat} {es : List (Event σ)} {m : FanOut σ}
    (h : (FanOut.start sources prepared state).exec workers es = some m) (hfin : m.Finished) {name : String} :
    name ∈ m.run.disabled ↔ Rejected m.outcomes name := by
  rw [(FanOut.consistent_exec h).disabled_iff]
  constructor
  · rintro ⟨t, ht, rfl, o, hended, hd⟩
    obtain ⟨o', hdone⟩ := hfin t ht
    rw [hdone] at hended
    cases hended
    have hmem : (t.source.name, o) ∈ m.outcomes := List.mem_filterMap.2 ⟨t, ht, Task.result?_of_done hdone⟩
    cases o with
    | contributed change => cases hd
    | skipped failure => cases hd
    | failed failure => exact ⟨failure, hmem, eq_of_beq hd⟩
  · rintro ⟨failure, hmem, hkind⟩
    obtain ⟨t, ht, hresult⟩ := List.mem_filterMap.1 hmem
    obtain ⟨o, hdone⟩ := hfin t ht
    rw [Task.result?_of_done hdone] at hresult
    cases hresult
    exact ⟨t, ht, rfl, .failed failure, by rw [hdone]; rfl, beq_iff_eq.2 hkind⟩

/-- Only sources of the run are asked. -/
theorem FanOut.mem_names_of_mem_outcomes {σ : Type} {sources : List (Source σ)} {prepared : List Finding}
    {state : σ} {workers : Nat} {es : List (Event σ)} {m : FanOut σ}
    (h : (FanOut.start sources prepared state).exec workers es = some m) (hfin : m.Finished)
    {x : String × Outcome} (hx : x ∈ m.outcomes) : x.1 ∈ sources.map (·.name) := by
  have hname := List.mem_map_of_mem (f := (·.1)) hx
  rw [FanOut.outcomes_names_eq h hfin] at hname
  obtain ⟨t, ht, hsource⟩ := List.mem_map.1 hname
  exact hsource ▸ List.mem_map_of_mem (mem_tasksOf ht).1

end Schedule

end Engine

/-! ## How a report is judged -/

namespace Command

open Engine (Schedule Rejected tallies)

theorem mem_givenUp_tallies {names disabled : List String} (hnodup : names.Nodup)
    (outcomes : List (String × Engine.Outcome)) {name : String} :
    name ∈ givenUp (tallies names outcomes disabled) ↔ name ∈ names ∧ name ∈ disabled := by
  unfold givenUp
  rw [List.mem_map]
  constructor
  · rintro ⟨⟨n, t⟩, hmem, rfl⟩
    obtain ⟨hmem, hdisabled⟩ := List.mem_filter.1 hmem
    obtain ⟨n', hn', heq⟩ := List.mem_map.1 (Keyed.mem_of_mem_ofList hmem)
    cases heq
    rw [Engine.ofOutcomes_eq] at hdisabled
    exact ⟨hn', List.contains_iff_mem.1 hdisabled⟩
  · rintro ⟨hname, hdisabled⟩
    have hlookup := Engine.lookup_tallies hnodup hname outcomes disabled
    obtain ⟨front, back, heq, -⟩ := List.lookup_eq_some_iff.1 hlookup
    refine ⟨_, List.mem_filter.2 ⟨heq ▸ List.mem_append_right front List.mem_cons_self, ?_⟩, rfl⟩
    rw [Engine.ofOutcomes_eq]
    exact List.contains_iff_mem.2 hdisabled

/-- **No source is given up exactly if none rejected the credentials.** -/
theorem givenUp_eq_nil_iff {sources : List (Engine.Source World)} (hnodup : (sources.map (·.name)).Nodup)
    {schedule : Schedule} {fs : List Finding} {w w' : World} {report : Engine.Report}
    (h : schedule.enrich sources fs w = some (report, w')) :
    givenUp report.stats = [] ↔ ∀ name, ¬ Rejected (schedule.outcomes sources fs w) name := by
  obtain ⟨workers, es, m, hexec, hfin, rfl, houtcomes⟩ := Schedule.exists_exec h
  rw [houtcomes, List.eq_nil_iff_forall_not_mem]
  refine forall_congr' fun name => not_congr ?_
  rw [Engine.FanOut.report, Engine.Report.ofOutcomes, mem_givenUp_tallies hnodup,
    Engine.FanOut.mem_disabled_iff_rejected hexec hfin]
  refine and_iff_right_of_imp ?_
  rintro ⟨_, hmem, _⟩
  exact Engine.FanOut.mem_names_of_mem_outcomes hexec hfin hmem

/-- The counts of a summary for the tiers at least as urgent as a tier, together. -/
def countUpTo (tier : Priority) (summary : List (Priority × Nat)) : Nat :=
  ((summary.filter (·.1.rank ≤ tier.rank)).map (·.2)).sum

/-- **Two ways to count**: finding by finding, or tier by tier. -/
theorem countAtOrAbove_eq_countUpTo (tier : Priority) (fs : List Finding) :
    countAtOrAbove tier fs = countUpTo tier (prioritySummary fs) := by
  have hnodup : (Priority.all.filter (·.rank ≤ tier.rank)).Nodup := Priority.nodup_all.filter _
  rw [countUpTo, prioritySummary, List.filter_map, List.map_map]
  refine Eq.trans (List.countP_congr fun f _ => ?_) (sum_countP_tiers hnodup fs).symm
  simp only [Option.any_eq_true, List.any_eq_true, List.mem_filter, Priority.ofName?_eq_some_iff,
    beq_iff_eq, Priority.mem_all, true_and]
  constructor
  · rintro ⟨p, hp, hrank⟩
    exact ⟨p, hrank, hp.symm⟩
  · rintro ⟨p, hrank, hp⟩
    exact ⟨p, hp.symm, hrank⟩

/-- More findings are at or above a less urgent tier. -/
theorem countAtOrAbove_mono {tier tier' : Priority} (h : tier.rank ≤ tier'.rank) (fs : List Finding) :
    countAtOrAbove tier fs ≤ countAtOrAbove tier' fs := by
  refine List.countP_mono_left fun f _ hf => ?_
  obtain ⟨p, hp, hrank⟩ := (Option.any_eq_true _ _).1 hf
  exact (Option.any_eq_true _ _).2 ⟨p, hp, decide_eq_true (Nat.le_trans (of_decide_eq_true hrank) h)⟩

section Verdict

variable {tier tier' : Priority} {r : Engine.Report} {n : Nat}

theorem verdict_of_givenUp_eq_nil (h : givenUp r.stats = []) : verdict (some tier) r =
    if countAtOrAbove tier r.findings = 0 then .done else .urgent (countAtOrAbove tier r.findings) tier := by
  rw [verdict, h]

theorem exists_verdict_of_givenUp_ne_nil (h : givenUp r.stats ≠ []) (tier : Priority) :
    ∃ cause, verdict (some tier) r = .failed cause := by
  unfold verdict
  split
  · exact absurd ‹_› h
  · exact ⟨_, rfl⟩

theorem verdict_eq_done_iff :
    verdict (some tier) r = .done ↔ givenUp r.stats = [] ∧ countAtOrAbove tier r.findings = 0 := by
  by_cases h : givenUp r.stats = []
  · rw [verdict_of_givenUp_eq_nil h]
    split <;> simp_all
  · obtain ⟨cause, hcause⟩ := exists_verdict_of_givenUp_ne_nil h tier
    simp [hcause, h]

theorem verdict_eq_urgent_iff : verdict (some tier) r = .urgent n tier' ↔
    givenUp r.stats = [] ∧ tier' = tier ∧ n = countAtOrAbove tier r.findings ∧ n ≠ 0 := by
  by_cases h : givenUp r.stats = []
  · rw [verdict_of_givenUp_eq_nil h]
    split <;> grind
  · obtain ⟨cause, hcause⟩ := exists_verdict_of_givenUp_ne_nil h tier
    simp [hcause, h]

end Verdict

/-! ## The command along a schedule -/

/-- What the command does with a report. -/
def conclude (format : Report.Format) (threshold : Option Priority) (o : EnrichOptions)
    (report : Engine.Report) : StateM World Printed :=
  match Report.render format o.colours report.findings with
  | .error e => return .failure (.context "failed to generate report" e)
  | .ok text => World.onHost (deliver o.output text (verdict threshold report))

/-- What the command sets out to do, if it can: a pipeline, the form of the report, and the tier from which on
findings are refused. -/
def plan (cloud : FindingsSettings.CloudAccess) (s : Settings) (o : EnrichOptions) :
    Except Failure (Pipeline × Report.Format × Option Priority) := do
  let format ← Report.Format.ofName o.format
  let threshold ← o.threshold
  return (← Pipeline.ofSettings cloud s, format, threshold)

/-- What the command leads to if its lookups are made along a schedule. -/
def enrichAlong (schedule : Schedule) (cloud : FindingsSettings.CloudAccess) (s : Settings)
    (o : EnrichOptions) (w : World) : Option (Printed × World) :=
  match plan cloud s o with
  | .error e => some (.failure e, w)
  | .ok (p, format, threshold) =>
    match p.load w with
    | (.error e, w) => some (.failure (.context "failed to load findings" e), w)
    | (.ok fs, w) =>
      (schedule.enrich p.sources fs w).map fun (report, w) => conclude format threshold o report w

section Run

variable {cloud : FindingsSettings.CloudAccess} {s : Settings} {o : EnrichOptions} {w w₁ w₂ : World}
  {p : Pipeline} {format : Report.Format} {threshold : Option Priority} {schedule : Schedule}
  {fs : List Finding} {report : Engine.Report} {text : String}

/-- **The command makes its lookups one after the other.** -/
theorem enrichAlong_oneByOne (cloud : FindingsSettings.CloudAccess) (s : Settings) (o : EnrichOptions)
    (w : World) : enrichAlong (.oneByOne false) cloud s o w = some (enrich cloud s o w) := by
  have henrich : enrich cloud s o = match plan cloud s o with
      | .error e => return .failure e
      | .ok (p, format, threshold) => enrichOnce p format threshold o := rfl
  rw [henrich, enrichAlong]
  cases plan cloud s o with
  | error e => rfl
  | ok planned =>
    obtain ⟨p, format, threshold⟩ := planned
    simp only [enrichOnce, bind_apply]
    rcases p.load w with ⟨e | fs, w₁⟩ <;> rfl

theorem plan_eq_ok_iff : plan cloud s o = .ok (p, format, threshold) ↔
    Report.Format.ofName o.format = .ok format ∧ o.threshold = .ok threshold ∧
      Pipeline.ofSettings cloud s = .ok p := by
  simp only [plan, bind_eq_ok_iff]
  constructor
  · rintro ⟨format', hformat, threshold', hthreshold, p', hp, heq⟩
    cases heq
    exact ⟨hformat, hthreshold, hp⟩
  · rintro ⟨hformat, hthreshold, hp⟩
    exact ⟨format, hformat, threshold, hthreshold, p, hp, rfl⟩

theorem nodup_sources (h : Pipeline.ofSettings cloud s = .ok p) : (p.sources.map (·.name)).Nodup := by
  obtain ⟨-, -, h⟩ := bind_eq_ok_iff.1 h
  obtain ⟨findings, -, h⟩ := bind_eq_ok_iff.1 h
  cases h
  have hnodup : (SourceId.all.map (·.source.name)).Nodup := by decide
  rw [List.map_map]
  exact hnodup.sublist (List.filter_sublist.map _)

theorem enrichAlong_eq (hplan : plan cloud s o = .ok (p, format, threshold)) (hload : p.load w = (.ok fs, w₁))
    (hrun : schedule.enrich p.sources fs w₁ = some (report, w₂)) :
    enrichAlong schedule cloud s o w = some (conclude format threshold o report w₂) := by
  simp only [enrichAlong, hplan, hload, hrun, Option.map_some]

/-- The report has been handed over in full: printed, or written to the file that was asked for. -/
def HandedOver (output text : String) (printed : Printed) (w : World) : Prop :=
  if output = "" then printed.output = text else (w.host.disk.get? output).map (·.data) = some text

/-- **The report is handed over whatever the verdict on it.** What is printed besides how the command
ends, and the world after it, do not depend on the verdict. -/
theorem exists_conclude (o : EnrichOptions) (htext : Report.render format o.colours report.findings = .ok text)
    (hwrite : o.output = "" ∨ ∃ disk, w.host.disk.write w.host.faults o.output text w.host.now = .ok disk) :
    ∃ printed w', HandedOver o.output text printed w' ∧
      ∀ threshold, conclude format threshold o report w =
        ({ printed with ending := verdict threshold report }, w') := by
  unfold HandedOver conclude
  simp only [htext, World.onHost, deliver]
  by_cases houtput : o.output = ""
  · simp only [houtput, if_true]
    exact ⟨{ output := text }, w, rfl, fun _ => rfl⟩
  · obtain ⟨disk, hdisk⟩ := hwrite.resolve_left houtput
    simp only [houtput, if_false, hdisk]
    refine ⟨{ notes := ["Report written to " ++ o.output] }, { w with host := { w.host with disk } }, ?_, fun _ => rfl⟩
    unfold Disk.write at hdisk
    split at hdisk
    · cases hdisk
    · cases hdisk
      rw [Disk.get?_put_self]
      rfl

end Run

/-- **Findings that stop a build.** Take an enrichment that is told a tier, can load its findings and can hand
over its report, with the lookups made in any order. All findings are reported, each of them in a tier, and they
can be counted tier by tier. The command ends well exactly if no source rejected its credentials and no finding
is at or above the tier; it is stopped by its findings exactly if no source rejected its credentials and there are
some. The report is handed over in full however the command ends. Findings that stop it at a tier also stop it at
every less urgent one. -/
theorem gate_of_enrichment {cloud : FindingsSettings.CloudAccess} {s : Settings} {o : EnrichOptions} {p : Pipeline}
    {format : Report.Format} {tier : Priority} (hplan : plan cloud s o = .ok (p, format, some tier))
    {w w₁ w₂ : World} {fs : List Finding} (hload : p.load w = (.ok fs, w₁))
    {schedule : Schedule} {report : Engine.Report}
    (hrun : schedule.enrich p.sources fs w₁ = some (report, w₂))
    {text : String} (htext : Report.render format o.colours report.findings = .ok text)
    (hwrite : o.output = "" ∨ ∃ disk, w₂.host.disk.write w₂.host.faults o.output text w₂.host.now = .ok disk) :
    let summary := prioritySummary report.findings
    let sound := ∀ name, ¬ Rejected (schedule.outcomes p.sources fs w₁) name
    (∀ f ∈ report.findings, f.Tiered) ∧ (summary.map (·.2)).sum = report.findings.length ∧
      report.findings.length = fs.length ∧ countAtOrAbove tier report.findings = countUpTo tier summary ∧
      ∃ printed w', enrichAlong schedule cloud s o w = some (printed, w') ∧
        (schedule = .oneByOne false → enrich cloud s o w = (printed, w')) ∧
        HandedOver o.output text printed w' ∧
        (printed.ending = .done ↔ sound ∧ countUpTo tier summary = 0) ∧
        (∀ n tier', printed.ending = .urgent n tier' ↔
          sound ∧ tier' = tier ∧ n = countUpTo tier summary ∧ n ≠ 0) ∧
        ∀ n, printed.ending = .urgent n tier → ∀ failOn tier',
          ({ o with failOn } : EnrichOptions).threshold = .ok (some tier') → tier.rank ≤ tier'.rank →
            ∃ n', n ≤ n' ∧ enrichAlong schedule cloud s { o with failOn } w =
              some ({ printed with ending := .urgent n' tier' }, w') := by
  intro summary sound
  obtain ⟨hformat, -, hpipeline⟩ := plan_eq_ok_iff.1 hplan
  have htiered := (Engine.ranked_enrich hrun).tiered
  have hcount := countAtOrAbove_eq_countUpTo tier report.findings
  have hsound := givenUp_eq_nil_iff (nodup_sources hpipeline) hrun
  obtain ⟨printed, w', hover, hconclude⟩ := exists_conclude o htext hwrite
  have hcommand := enrichAlong_eq hplan hload hrun
  rw [hconclude] at hcommand
  refine ⟨htiered, sum_prioritySummary htiered, Engine.length_findings_enrich hrun, hcount,
    { printed with ending := verdict (some tier) report }, w', hcommand, ?_, hover, ?_, ?_, ?_⟩
  · rintro rfl
    exact Option.some.inj ((enrichAlong_oneByOne cloud s o w).symm.trans hcommand)
  · rw [verdict_eq_done_iff, hsound, hcount]
  · intro n tier'
    rw [verdict_eq_urgent_iff, hsound, hcount]
  · intro n hurgent failOn tier' htier' hrank
    obtain ⟨hnone, -, rfl, hne⟩ := verdict_eq_urgent_iff.1 hurgent
    have hle := countAtOrAbove_mono hrank report.findings
    refine ⟨_, hle, ?_⟩
    have hplan' : plan cloud s { o with failOn } = .ok (p, format, some tier') :=
      plan_eq_ok_iff.2 ⟨hformat, htier', hpipeline⟩
    have hurgent' := verdict_eq_urgent_iff.2 ⟨hnone, rfl, rfl, Nat.ne_of_gt (Nat.lt_of_lt_of_le (by omega) hle)⟩
    -- The tier has no part in what is printed before the verdict.
    rw [enrichAlong_eq hplan' hload hrun, ← hurgent', ← hconclude]
    rfl

/-- Findings of three tiers, two of them without an identifier. -/
def threeTiers : List Finding :=
  [ { id := "a", severity := "high", exploited := some { inCatalog := true } }, { id := "b", severity := "critical" },
    { cve := "CVE-2024-0001", severity := "low" } ]

/-- A registry in which they are found. -/
def registry : Inventory.FindingSource Host :=
  { name := "registry", load := fun h => (.ok (some threeTiers), h) }

/-- Only the advisories are looked up. -/
def registrySettings : Settings :=
  { sources := { catalog := { enabled := false }, forecasts := { enabled := false }, exploits := { enabled := false } }
    findings := { mode := "ecr", account := "1", region := "r" } }

def registryPipeline : Pipeline := ⟨registry, registrySettings.enabledSources.map (·.source)⟩

/-- The third tier is refused, and the report goes to a file. -/
def refuseHigh : EnrichOptions := { output := "out.txt", failOn := " p2 " }

/-- No server answers, and there is no cache. -/
def offline : World := { host := { now := ⟨0⟩, cache := none, network := fun _ => .failed .timeout } }

theorem plan_refuseHigh :
    plan (fun _ => .ok registry) registrySettings refuseHigh = .ok (registryPipeline, .table, some .high) := by
  have hcheck : registrySettings.check = .ok () := by decide +kernel
  refine plan_eq_ok_iff.2 ⟨by decide, by decide, ?_⟩
  simp only [Pipeline.ofSettings, hcheck]
  rfl

theorem gate_of_enrichment_offline : ∃ printed w',
    enrich (fun _ => .ok registry) registrySettings refuseHigh offline = (printed, w') ∧
      printed.ending = .urgent 2 .high ∧
      HandedOver "out.txt"
        (Report.table false (Engine.enrich registryPipeline.sources false threeTiers offline).1.findings) printed w' ∧
      ∃ n, 2 ≤ n ∧ enrichAlong (.oneByOne false) (fun _ => .ok registry) registrySettings
        { refuseHigh with failOn := "P4-low" } offline = some ({ printed with ending := .urgent n .low }, w') := by
  have hload : registryPipeline.load offline = (.ok threeTiers, offline) := rfl
  have hrun (sources) : (Schedule.oneByOne false).enrich sources threeTiers offline =
      some ((Engine.enrich sources false threeTiers offline).1,
        (Engine.enrich sources false threeTiers offline).2) := rfl
  have hcount : countUpTo .high
      (prioritySummary (Engine.enrich registryPipeline.sources false threeTiers offline).1.findings) = 2 := by
    have hranked : Engine.rank (Engine.merged threeTiers
        (Engine.outcomesOneByOne registryPipeline.sources false threeTiers offline)) = _ :=
      List.mergeSort_of_pairwise (by decide +kernel)
    rw [Engine.findings_enrich, hranked]
    decide +kernel
  have hsound : ∀ name,
      ¬ Rejected ((Schedule.oneByOne false).outcomes registryPipeline.sources threeTiers offline) name := by
    rintro name ⟨failure, hmem, hkind⟩
    have hnone : (((Schedule.oneByOne false).outcomes registryPipeline.sources threeTiers offline).all
        fun x => !x.2.disables) = true := by decide +kernel
    have hfailure := List.all_eq_true.1 hnone _ hmem
    simp [Engine.Outcome.disables, hkind] at hfailure
  have hfaults : (Engine.enrich registryPipeline.sources false threeTiers offline).2.host.faults.write = false := by
    decide +kernel
  obtain ⟨-, -, -, -, printed, w', -, henrich, hover, -, hurgent, hless⟩ :=
    gate_of_enrichment plan_refuseHigh hload (hrun registryPipeline.sources) rfl
      (.inr ⟨_, if_neg (Bool.not_eq_true _ ▸ hfaults)⟩)
  have hending := (hurgent 2 .high).2 ⟨hsound, rfl, hcount.symm, by decide⟩
  exact ⟨printed, w', henrich rfl, hending, hover, hless 2 hending "P4-low" .low (by decide) (by decide)⟩

end Command

end Triage
