import Triage.Proofs.Engine.Determinism
import Triage.Proofs.Engine.SameAnswers
import Triage.Proofs.Intel.OwnFields

/-!
# The order of the sources does not show

Let two engines have the same sources in different orders, and let the sources reply the same about each
vulnerability. As long as none rejects the credentials, no lookup is skipped, so both engines merge the same
outcomes into each finding, each in the order of its sources. Contributions of different sources can be made
in any order, the records of failures have names of their own, and a tally only counts. So the two reports
have the same statistics and the same findings in the same order; only the warnings that the runs appended
may stand in another order.
-/
namespace Triage.Engine

/-! ## Runs in which no source is given up -/

section Answers

variable {σ : Type} {workers : Nat} {sources : List (Source σ)} {prepared : List Finding} {state : σ}
  {es : List (Event σ)} {m : FanOut σ} {answer : Source σ → Finding → Except Failure Contribution}

/-- Every lookup that was not skipped came out as the answer to it says. -/
def FanOut.ByAnswers (answer : Source σ → Finding → Except Failure Contribution) (m : FanOut σ) : Prop :=
  ∀ t ∈ m.tasks, ∀ o, t.phase = .done o →
    (∃ e, o = .skipped e) ∨ o = outcomeOf t.source.name (answer t.source t.finding)

/-- No answer of the source `name` rejects the credentials. -/
def FanOut.Accepts (answer : Source σ → Finding → Except Failure Contribution) (m : FanOut σ)
    (name : String) : Prop :=
  ∀ t ∈ m.tasks, t.source.name = name → (outcomeOf name (answer t.source t.finding)).disables = false

theorem FanOut.not_mem_disabled (h : (FanOut.start sources prepared state).exec workers es = some m)
    (hfin : m.Finished) (hanswers : m.ByAnswers answer) {name : String} (haccepts : m.Accepts answer name) :
    name ∉ m.run.disabled := by
  intro hname
  obtain ⟨t, ht, htname, o, hended, hrejected⟩ := ((FanOut.consistent_exec h).disabled_iff name).1 hname
  obtain ⟨o', ho'⟩ := hfin t ht
  rw [ho'] at hended
  cases hended
  rcases hanswers t ht o ho' with ⟨e, rfl⟩ | rfl
  · cases hrejected
  · rw [htname, haccepts t ht htname] at hrejected
    cases hrejected

/-- **No lookup is skipped** in a run that is not called off, if no answer of its source rejects the
credentials. -/
theorem FanOut.outcome_of_answers (h : (FanOut.start sources prepared state).exec workers es = some m)
    (hfin : m.Finished) (hgoes : .cancel ∉ es) (hanswers : m.ByAnswers answer) {t : Task σ}
    (ht : t ∈ m.tasks) (haccepts : m.Accepts answer t.source.name) {o : Outcome} (ho : t.phase = .done o) :
    o = outcomeOf t.source.name (answer t.source t.finding) := by
  refine (hanswers t ht o ho).resolve_left ?_
  rintro ⟨e, rfl⟩
  obtain ⟨i, hi⟩ := List.getElem?_of_mem ht
  rcases FanOut.exec_skipped h hi (by rw [ho]; rfl) with ⟨pre, post, hes, hgave⟩ | ⟨pre, post, hes, hcancel⟩
  · have hdisabled := (FanOut.exec_disabled rfl h t.source.name).2 (hes ▸ hgave.append _)
    exact FanOut.not_mem_disabled h hfin hanswers haccepts hdisabled
  · exact hgoes (hes ▸ List.mem_append_left _ hcancel)

end Answers

/-! ## Replies -/

/-- What the sources reply about one vulnerability. -/
structure Replies where
  status : Except Failure ExploitedStatus
  forecast : Except Failure Forecast
  advisory : Except Failure Advisory
  exploit : Except Failure ExploitRecord

/-- What a source contributes with its reply. -/
def Replies.contribution (r : Replies) : SourceId → Except Failure Contribution
  | .catalog => r.status.map ExploitedCatalog.apply
  | .forecasts => r.forecast.map Forecasts.apply
  | .advisories => r.advisory.map Advisories.apply
  | .exploits => r.exploit.map Exploits.apply

theorem Replies.belongsTo {r : Replies} {id : SourceId} {change : Contribution}
    (h : r.contribution id = .ok change) : BelongsTo id change := by
  cases id with
  | catalog =>
    obtain ⟨status, rfl⟩ := exists_of_map_eq_ok h
    exact belongsTo_catalog status
  | forecasts =>
    obtain ⟨s, rfl⟩ := exists_of_map_eq_ok h
    exact belongsTo_forecasts s
  | advisories =>
    obtain ⟨a, rfl⟩ := exists_of_map_eq_ok h
    exact belongsTo_advisories a
  | exploits =>
    obtain ⟨record, rfl⟩ := exists_of_map_eq_ok h
    exact belongsTo_exploits record

/-- What the sources reply about a vulnerability in a world. -/
def repliesIn (w : World) (cve : String) : Replies where
  status := (World.onCatalog (·.lookup cve) w).1
  forecast := (World.onForecasts (·.fetch [cve]) w).1.map fun fs => Forecasts.among fs (Cve.canonical? cve)
  advisory := (World.onAdvisories (·.find cve) w).1
  exploit := (World.onExploits (·.lookup cve) w).1

/-- What a source contributes to a finding is its reply about the vulnerability. -/
theorem contribute_source {f : Finding} (h : Cve.validate f.cve = .ok f.cve) (id : SourceId) (w : World) :
    (id.source.contribute f w).1 = (repliesIn w f.cve).contribution id := by
  cases id with
  | catalog => simp only [SourceId.source, contribute_catalog, Replies.contribution, repliesIn]
  | forecasts =>
    simp only [SourceId.source, contribute_forecasts, Replies.contribution, repliesIn]
    cases (World.onForecasts (·.fetch [f.cve]) w).1 <;> rfl
  | advisories => simp only [SourceId.source, contribute_advisories h, Replies.contribution, repliesIn]
  | exploits => simp only [SourceId.source, contribute_exploits, Replies.contribution, repliesIn]

def replyOf (replies : String → Replies) (s : Source World) (f : Finding) : Except Failure Contribution :=
  match SourceId.all.find? (·.name == s.name) with
  | some id => (replies f.cve).contribution id
  | none => .error noLoader

theorem name_source (id : SourceId) : id.source.name = id.name := by cases id <;> rfl

theorem name_injective : Function.Injective SourceId.name := by
  intro id other h
  have hnodup : (SourceId.all.map SourceId.name).Nodup := by decide
  have hall (id : SourceId) : id ∈ SourceId.all := by cases id <;> decide
  exact List.inj_on_of_nodup_map hnodup (hall id) (hall other) h

theorem replyOf_source (replies : String → Replies) (id : SourceId) (f : Finding) :
    replyOf replies id.source f = (replies f.cve).contribution id := by
  have hfind : SourceId.all.find? (·.name == id.source.name) = some id := by
    cases id <;> decide
  rw [replyOf, hfind]

/-- The lookups that were not skipped came out as the sources reply about the vulnerability. -/
def Replied (replies : String → Replies) (fs : List Finding) (outcomes : List (List (String × Outcome))) :
    Prop :=
  ∀ f row, (f, row) ∈ (fs.map prepare).zip outcomes → ∀ id o, (SourceId.name id, o) ∈ row →
    (∃ e, o = .skipped e) ∨ o = outcomeOf id.name ((replies f.cve).contribution id)

/-- No reply of the source rejects the credentials. -/
def Accepts (replies : String → Replies) (id : SourceId) : Prop :=
  ∀ cve e, (replies cve).contribution id = .error e → (e.classify id.name).kind ≠ disablingKind

/-- No reply rejects the credentials. -/
def NoneRejects (replies : String → Replies) : Prop :=
  ∀ cve id e, (replies cve).contribution id = .error e → (e.classify id.name).kind ≠ disablingKind

/-- A run over findings that is not called off, with the outcomes of the lookups of each finding and the
report that it ends with. The lookups may be made one after the other, or side by side in any order that the
workers allow, while the world changes. -/
inductive RanThrough (sources : List (Source World)) (fs : List Finding) :
    List (List (String × Outcome)) → Report → Prop
  | oneByOne (w : World) :
    RanThrough sources fs (outcomesOneByOne sources false fs w) (enrich sources false fs w).1
  | sideBySide {workers : Nat} {w : World} {events : List (Event World)} {m : FanOut World}
      (hexec : (FanOut.start sources (fs.map prepare) w).exec workers events = some m)
      (hgoes : .cancel ∉ events) (hfin : m.Finished) :
    RanThrough sources fs (rows sources.length (fs.map prepare) m.outcomes)
      (m.report sources (fs.map prepare))

section Run

variable {ids ids' : List SourceId} {fs : List Finding} {outcomes : List (List (String × Outcome))}
  {report : Report} {replies : String → Replies}

theorem RanThrough.exists_exec {sources : List (Source World)} (h : RanThrough sources fs outcomes report) :
    ∃ workers w es m, (FanOut.start sources (fs.map prepare) w).exec workers es = some m ∧ .cancel ∉ es ∧
      m.Finished ∧ outcomes = rows sources.length (fs.map prepare) m.outcomes ∧
      report = m.report sources (fs.map prepare) := by
  cases h with
  | oneByOne w =>
    obtain ⟨es, m, hexec, hfin, hcancel, -, hlookups⟩ := exists_exec_lookups Nat.one_pos sources false fs w
    refine ⟨1, _, es, m, hexec, fun hc => Bool.false_ne_true (hcancel.1 hc), hfin, ?_, ?_⟩
    · rw [outcomesOneByOne, hlookups]
    · rw [enrich_apply]
      simp only [hlookups, FanOut.report]
  | sideBySide hexec hgoes hfin => exact ⟨_, _, _, _, hexec, hgoes, hfin, rfl, rfl⟩

section Tasks

variable {workers : Nat} {w : World} {es : List (Event World)} {m : FanOut World}

theorem exists_id_of_mem_tasks
    (hexec : (FanOut.start (ids.map SourceId.source) (fs.map prepare) w).exec workers es = some m)
    {t : Task World} (ht : t ∈ m.tasks) : ∃ id : SourceId, t.source = id.source := by
  obtain ⟨t₀, ht₀, hsource, -⟩ := FanOut.exists_mem_of_jobs (FanOut.exec_jobs hexec) ht
  obtain ⟨id, -, hid⟩ := List.mem_map.1 (mem_tasksOf ht₀).1
  exact ⟨id, (hid.trans hsource).symm⟩

theorem byAnswers_of_replied
    (hexec : (FanOut.start (ids.map SourceId.source) (fs.map prepare) w).exec workers es = some m)
    (hfin : m.Finished)
    (hreplied : Replied replies fs (rows (ids.map SourceId.source).length (fs.map prepare) m.outcomes)) :
    m.ByAnswers (replyOf replies) := by
  intro t ht o ho
  obtain ⟨id, hid⟩ := exists_id_of_mem_tasks hexec ht
  obtain ⟨row, hrow, hmem⟩ := FanOut.exists_row hexec hfin ht ho
  rw [hid, name_source] at hmem
  rw [hid, replyOf_source, name_source]
  exact hreplied _ row hrow id o hmem

theorem accepts_of_replies
    (hexec : (FanOut.start (ids.map SourceId.source) (fs.map prepare) w).exec workers es = some m)
    {id : SourceId} (haccepts : Accepts replies id) : m.Accepts (replyOf replies) id.name := by
  intro t ht hname
  obtain ⟨id', hid⟩ := exists_id_of_mem_tasks hexec ht
  rw [hid, name_source] at hname
  rw [hid, replyOf_source, name_injective hname]
  cases hreply : (replies t.finding.cve).contribution id with
  | ok change => rfl
  | error e => exact beq_false_of_ne (haccepts _ e hreply)

end Tasks

/-- **The report is that of the replies**, whatever was looked up before what. -/
theorem RanThrough.report_eq (h : RanThrough (ids.map SourceId.source) fs outcomes report)
    (hreplied : Replied replies fs outcomes) (haccepts : NoneRejects replies) :
    report = Report.ofOutcomes (ids.map SourceId.name) (fs.map prepare)
      ((fs.map prepare).map (dueOutcomes (ids.map SourceId.source) (replyOf replies))) [] := by
  obtain ⟨workers, w, es, m, hexec, hgoes, hfin, rfl, rfl⟩ := h.exists_exec
  have hanswers := byAnswers_of_replied hexec hfin hreplied
  have hall (id : SourceId) : m.Accepts (replyOf replies) id.name :=
    accepts_of_replies hexec fun cve e => haccepts cve id e
  have hname : ∀ t ∈ m.tasks, ∃ id : SourceId, t.source.name = id.name := by
    intro t ht
    obtain ⟨id, hid⟩ := exists_id_of_mem_tasks hexec ht
    exact ⟨id, by rw [hid, name_source]⟩
  have hdue : ∀ t ∈ m.tasks, ∀ o, t.phase = .done o →
      o = outcomeOf t.source.name (replyOf replies t.source t.finding) := by
    intro t ht o ho
    obtain ⟨id, hid⟩ := hname t ht
    exact FanOut.outcome_of_answers hexec hfin hgoes hanswers ht (hid ▸ hall id) ho
  have hinUse : m.run.disabled = [] := by
    refine List.eq_nil_iff_forall_not_mem.2 fun name hdisabled => ?_
    obtain ⟨t, ht, rfl, -⟩ := ((FanOut.consistent_exec hexec).disabled_iff name).1 hdisabled
    obtain ⟨id, hid⟩ := hname t ht
    exact FanOut.not_mem_disabled hexec hfin hanswers (hid ▸ hall id) hdisabled
  have hnames : (ids.map SourceId.source).map (·.name) = ids.map SourceId.name := by
    rw [List.map_map]
    exact List.map_congr_left fun id _ => name_source id
  rw [FanOut.report, FanOut.rows_outcomes hexec hfin hdue, hinUse, hnames]

end Run

/-! ## Statistics -/

theorem Tally.add_comm (t : Tally) (o o' : Outcome) : (t.add o).add o' = (t.add o').add o := by
  cases o <;> cases o' <;> rfl

theorem Tally.ofOutcomes_of_perm {os os' : List (String × Outcome)} (h : os.Perm os') (name : String)
    (disabled : Bool) : Tally.ofOutcomes name os disabled = Tally.ofOutcomes name os' disabled :=
  ((h.filter _).map _).foldl_eq' (fun o _ o' _ t => Tally.add_comm t o o') _

theorem tallies_of_perm {names names' : List String} (hnames : names.Perm names') (hnodup : names.Nodup)
    {os os' : List (String × Outcome)} (hos : os.Perm os') (disabled : List String) :
    tallies names os disabled = tallies names' os' disabled := by
  have hsame : (fun name => (name, Tally.ofOutcomes name os (disabled.contains name))) =
      fun name => (name, Tally.ofOutcomes name os' (disabled.contains name)) :=
    funext fun name => by rw [Tally.ofOutcomes_of_perm hos]
  rw [tallies, tallies, hsame]
  refine Keyed.ofList_of_perm (hnames.map _) ?_
  simpa [List.map_map, Function.comp_def] using hnodup

/-! ## Findings -/

section Merge

variable {ids ids' : List SourceId} {replies : String → Replies}

theorem dueOutcomes_of_perm (hperm : ids.Perm ids') (f : Finding) :
    (dueOutcomes (ids.map SourceId.source) (replyOf replies) f).Perm
      (dueOutcomes (ids'.map SourceId.source) (replyOf replies) f) := by
  by_cases hf : f.resolveCve?.isSome = true
  · rw [dueOutcomes_of_resolved hf, dueOutcomes_of_resolved hf]
    exact (hperm.map _).map _
  · rw [dueOutcomes_of_unresolved hf, dueOutcomes_of_unresolved hf]

/-- The change that a source makes with its reply; none if the reply is a failure. -/
def Replies.change (r : Replies) (id : SourceId) : Contribution :=
  match r.contribution id with
  | .ok change => change
  | .error _ => fun f => f

theorem Replies.belongsTo_change (r : Replies) (id : SourceId) : BelongsTo id (r.change id) := by
  unfold Replies.change
  split
  · rename_i change h
    exact Replies.belongsTo h
  · exact belongsTo_nothing id

theorem Replies.change_of_error {r : Replies} {id : SourceId} {e : Failure} (h : r.contribution id = .error e) :
    r.change id = fun f => f := by
  rw [Replies.change, h]

/-- The changes of the sources are what the lookups contribute, if those came out as replied, or were skipped
where there is no change. -/
theorem applyAll_contributionsOf {r : Replies} {row : List (String × Outcome)}
    (hnames : row.map (·.1) = ids.map SourceId.name)
    (hrow : ∀ id o, (SourceId.name id, o) ∈ row → o = outcomeOf id.name (r.contribution id) ∨
      r.change id = (fun f => f) ∧ ∃ e, o = .skipped e) (g : Finding) :
    applyAll (contributionsOf row) g = applyAll (ids.map r.change) g := by
  induction ids generalizing row g with
  | nil =>
    rw [List.map_nil, List.map_eq_nil_iff] at hnames
    rw [hnames]
    rfl
  | cons id ids ih =>
    obtain ⟨⟨name, o⟩, row, rfl, rfl, htail⟩ := List.map_eq_cons_iff.1 hnames
    have hrest := fun g => ih htail (fun id o h => hrow id o (List.mem_cons_of_mem _ h)) g
    rcases hrow id o List.mem_cons_self with rfl | ⟨hnone, e, rfl⟩
    · cases hreply : r.contribution id with
      | ok change =>
        have hchange : r.change id = change := by rw [Replies.change, hreply]
        rw [List.map_cons, hchange]
        exact hrest (change g)
      | error e =>
        rw [List.map_cons, Replies.change_of_error hreply]
        exact hrest g
    · rw [List.map_cons, hnone]
      exact hrest g

theorem applyAll_contributions {f : Finding} (hf : f.resolveCve?.isSome = true) (g : Finding) :
    applyAll (contributions (ids.map SourceId.source) (replyOf replies) f) g =
      applyAll (ids.map (replies f.cve).change) g := by
  rw [← contributionsOf_dueOutcomes, dueOutcomes_of_resolved hf, List.map_map]
  refine applyAll_contributionsOf ?_ (fun id o ho => .inl ?_) g
  · rw [List.map_map]
    exact List.map_congr_left fun id _ => name_source id
  · obtain ⟨id', -, heq⟩ := List.mem_map.1 ho
    obtain ⟨hname, rfl⟩ := Prod.mk.inj heq
    rw [name_source] at hname
    rw [← name_injective hname, name_source, replyOf_source]

theorem neutral_of_mem_contributions {f : Finding} :
    ∀ change ∈ contributions (ids.map SourceId.source) (replyOf replies) f, Neutral change := by
  intro change h
  unfold contributions at h
  split at h
  · obtain ⟨s, hs, h⟩ := List.mem_filterMap.1 h
    obtain ⟨id, -, rfl⟩ := List.mem_map.1 hs
    rw [replyOf_source] at h
    exact (Replies.belongsTo (eq_ok_of_toOption h)).neutral
  · cases h

/-- **One finding comes out alike.** -/
theorem alike_mergeAll (hperm : ids.Perm ids') (hnodup : ids.Nodup) {before : List String} {f : Finding}
    (hf : AlikeAfter before f f) :
    AlikeAfter before (mergeAll f (dueOutcomes (ids.map SourceId.source) (replyOf replies) f))
      (mergeAll f (dueOutcomes (ids'.map SourceId.source) (replyOf replies) f)) := by
  have hmerge (ids : List SourceId) :
      mergeAll f (dueOutcomes (ids.map SourceId.source) (replyOf replies) f) =
        { applyAll (contributions (ids.map SourceId.source) (replyOf replies) f) f with
          enrichmentErrors := Keyed.insertAll
            (failuresOf (dueOutcomes (ids.map SourceId.source) (replyOf replies) f)) f.enrichmentErrors } := by
    rw [← contributionsOf_dueOutcomes]
    refine mergeAll_of_neutral ?_ f
    rw [contributionsOf_dueOutcomes]
    exact neutral_of_mem_contributions
  by_cases hresolved : f.resolveCve?.isSome = true
  · -- The records have names of their own.
    have hnames : ((dueOutcomes (ids.map SourceId.source) (replyOf replies) f).map (·.1)).Nodup := by
      rw [dueOutcomes_of_resolved hresolved, List.map_map, List.map_map]
      exact hnodup.map fun id other h => name_injective (by simpa [name_source] using h)
    have hfailures : (failuresOf (dueOutcomes (ids.map SourceId.source) (replyOf replies) f)).Perm
        (failuresOf (dueOutcomes (ids'.map SourceId.source) (replyOf replies) f)) :=
      (dueOutcomes_of_perm hperm f).filterMap _
    have hrecords := Keyed.insertAll_of_perm hfailures ((failuresOf_names_sublist _).nodup hnames)
      f.enrichmentErrors
    have hchanges := alike_applyAll (replies f.cve).belongsTo_change hperm hnodup hf
    rw [hmerge ids, hmerge ids', applyAll_contributions hresolved, applyAll_contributions hresolved,
      hrecords]
    exact hchanges.withErrors _
  · rw [dueOutcomes_of_unresolved hresolved, dueOutcomes_of_unresolved hresolved]
    exact hf

theorem alike_prepare (f : Finding) : AlikeAfter f.warnings (prepare f) (prepare f) := by
  refine .refl ?_
  unfold prepare
  split
  · exact ⟨[], [], by simp, by simp, .refl _⟩
  · obtain ⟨new, h⟩ := Finding.exists_addWarning f unresolvedWarning
    rw [h]
    exact .refl _ new

/-- A finding with what the sources reply about it, before it is scored. -/
def mergedFinding (ids : List SourceId) (replies : String → Replies) (f : Finding) : Finding :=
  mergeAll (prepare f) (dueOutcomes (ids.map SourceId.source) (replyOf replies) (prepare f))

theorem alike_merged (hperm : ids.Perm ids') (hnodup : ids.Nodup) (replies : String → Replies)
    (f : Finding) :
    AlikeAfter f.warnings (mergedFinding ids replies f) (mergedFinding ids' replies f) :=
  alike_mergeAll hperm hnodup (alike_prepare f)

theorem findings_reported (names : List String) (fs : List Finding) (disabled : List String) :
    (Report.ofOutcomes names (fs.map prepare)
      ((fs.map prepare).map (dueOutcomes (ids.map SourceId.source) (replyOf replies))) disabled).findings =
        rank (fs.map (mergedFinding ids replies)) := by
  rw [findings_ofOutcomes, List.map_map]
  exact congrArg rank (List.map_congr_left fun f _ => by rw [Function.comp_apply, mergedFinding])

/-- Two rankings of findings that came out alike have the findings in the same order. -/
theorem exists_order (fs : List Finding) {F F' : Finding → Finding}
    (h : ∀ f, AlikeAfter f.warnings (F f) (F' f)) :
    ∃ order : List Finding, order.Perm fs ∧ rank (fs.map F) = order.map (fun f => (F f).score) ∧
      rank (fs.map F') = order.map fun f => (F' f).score := by
  let before : Finding → Finding → Bool := fun f g => mayPrecede (F f).score (F g).score
  have hplace (f : Finding) : (F' f).score.riskPlace = (F f).score.riskPlace := by
    rw [(h f).rest]
    rfl
  refine ⟨fs.mergeSort before, List.mergeSort_perm _ _, ?_, ?_⟩
  · rw [rank_eq_mergeSort, List.map_map]
    exact (List.map_mergeSort (f := fun f => (F f).score) fun _ _ _ _ => rfl).symm
  · rw [rank_eq_mergeSort, List.map_map]
    refine (List.map_mergeSort (f := fun f => (F' f).score) fun f _ g _ => ?_).symm
    simp only [before, mayPrecede]
    rw [hplace f, hplace g]

end Merge

/-! ## Two reports -/

/-- **The order of the sources does not show.** Let two runs over the same findings have the same sources in
two orders, let the sources reply the same about each vulnerability, and let none of them reject the
credentials. Then the reports have the same statistics. They have the same findings in the same order: each of
them stems from one of the findings that went in, and in the two reports it differs in nothing but the order
of the warnings that were appended in the run.

What a source contributes is told by fields that no other source writes to, and goes to fields of its own. None
of these is the identifier, the severity, a CVSS value, the risk score or the priority. -/
theorem source_order_does_not_show {ids ids' : List SourceId} (hnodup : ids.Nodup) (hperm : ids.Perm ids')
    {fs : List Finding} {replies : String → Replies} (haccepts : NoneRejects replies)
    {outcomes outcomes' : List (List (String × Outcome))} {report report' : Report}
    (h : RanThrough (ids.map SourceId.source) fs outcomes report) (hreplied : Replied replies fs outcomes)
    (h' : RanThrough (ids'.map SourceId.source) fs outcomes' report')
    (hreplied' : Replied replies fs outcomes') :
    report'.stats = report.stats ∧
      (∃ triples : List (Finding × Finding × Finding), (triples.map (·.1)).Perm fs ∧
        report.findings = triples.map (·.2.1) ∧ report'.findings = triples.map (·.2.2) ∧
        ∀ f g g', (f, g, g') ∈ triples → AlikeAfter f.warnings g g') ∧
      ∀ (r : Replies) (id : SourceId) (change : Contribution), r.contribution id = .ok change →
        BelongsTo id change ∧ ∀ g, (change g).cve = g.cve ∧ (change g).severity = g.severity ∧
          (change g).cvssScore = g.cvssScore ∧ (change g).cvssVector = g.cvssVector ∧
          (change g).riskScore = g.riskScore ∧ (change g).priority = g.priority := by
  rw [h.report_eq hreplied haccepts, h'.report_eq hreplied' haccepts]
  refine ⟨?_, ?_, fun r id change hr => ⟨Replies.belongsTo hr, (Replies.belongsTo hr).core⟩⟩
  · refine (tallies_of_perm (hperm.map _) (hnodup.map name_injective) ?_ []).symm
    rw [← List.flatMap_def, ← List.flatMap_def]
    exact List.Perm.flatMap_left _ fun f _ => dueOutcomes_of_perm hperm f
  · rw [findings_reported, findings_reported]
    obtain ⟨order, horder, hrank, hrank'⟩ := exists_order fs
      (alike_merged hperm hnodup replies)
    refine ⟨order.map fun f => (f, (mergedFinding ids replies f).score, (mergedFinding ids' replies f).score),
      ?_, ?_, ?_, ?_⟩
    · rw [List.map_map]
      exact (List.map_id order).symm ▸ horder
    · rw [hrank, List.map_map]
      rfl
    · rw [hrank', List.map_map]
      rfl
    · intro f g g' hmem
      obtain ⟨f, -, heq⟩ := List.mem_map.1 hmem
      simp only [Prod.mk.injEq] at heq
      obtain ⟨rfl, rfl, rfl⟩ := heq
      exact (alike_merged hperm hnodup replies f).score

/-! ## Two orders in a world where sources fail -/

deriving instance DecidableEq for Forecast

/-- Both have the same reply of a source. -/
def Replies.SameAt (r r' : Replies) : SourceId → Prop
  | .catalog => r.status = r'.status
  | .forecasts => r.forecast = r'.forecast
  | .advisories => r.advisory = r'.advisory
  | .exploits => r.exploit = r'.exploit

instance (r r' : Replies) : (id : SourceId) → Decidable (r.SameAt r' id)
  | .catalog => inferInstanceAs (Decidable (r.status = r'.status))
  | .forecasts => inferInstanceAs (Decidable (r.forecast = r'.forecast))
  | .advisories => inferInstanceAs (Decidable (r.advisory = r'.advisory))
  | .exploits => inferInstanceAs (Decidable (r.exploit = r'.exploit))

theorem Replies.SameAt.contribution_eq {r r' : Replies} {id : SourceId} (h : r.SameAt r' id) :
    r.contribution id = r'.contribution id := by
  cases id with
  | catalog => exact congrArg (Except.map ExploitedCatalog.apply) h
  | forecasts => exact congrArg (Except.map Forecasts.apply) h
  | advisories => exact congrArg (Except.map Advisories.apply) h
  | exploits => exact congrArg (Except.map Exploits.apply) h

/-- Asked one after the other about a finding, the sources that have not been given up reply as given. -/
def RepliesAlong (r : Replies) (f : Finding) : List SourceId → Run World → Prop
  | [], _ => True
  | id :: ids, run =>
    (id.name ∉ run.disabled → (repliesIn run.state f.cve).SameAt r id) ∧
      RepliesAlong r f ids (lookup false id.source f run).2

instance decidableRepliesAlong (r : Replies) (f : Finding) :
    (ids : List SourceId) → (run : Run World) → Decidable (RepliesAlong r f ids run)
  | [], _ => .isTrue trivial
  | id :: ids, run =>
    have := decidableRepliesAlong r f ids (lookup false id.source f run).2
    inferInstanceAs (Decidable (_ ∧ _))

/-- The same for findings, one after the other. -/
def RepliesAlongAll (replies : String → Replies) (ids : List SourceId) : List Finding → Run World → Prop
  | [], _ => True
  | f :: fs, run =>
    (f.resolveCve?.isSome = true → RepliesAlong (replies f.cve) f ids run) ∧
      RepliesAlongAll replies ids fs (lookups false (ids.map SourceId.source) f run).2

instance decidableRepliesAlongAll (replies : String → Replies) (ids : List SourceId) :
    (fs : List Finding) → (run : Run World) → Decidable (RepliesAlongAll replies ids fs run)
  | [], _ => .isTrue trivial
  | f :: fs, run =>
    have := decidableRepliesAlongAll replies ids fs (lookups false (ids.map SourceId.source) f run).2
    inferInstanceAs (Decidable (_ ∧ _))

section Along

variable {replies : String → Replies} {r : Replies} {f : Finding} {ids : List SourceId}

theorem lookup_of_sameAt (hv : Cve.validate f.cve = .ok f.cve) {id : SourceId} {run : Run World}
    (h : id.name ∉ run.disabled → (repliesIn run.state f.cve).SameAt r id) :
    (∃ e, (lookup false id.source f run).1 = .skipped e) ∨
      (lookup false id.source f run).1 = outcomeOf id.name (r.contribution id) := by
  by_cases hdisabled : id.name ∈ run.disabled
  · have hcontains : run.disabled.contains id.source.name = true := by
      rwa [List.contains_iff_mem, name_source]
    exact .inl ⟨_, by rw [lookup, if_pos hcontains]⟩
  · have hanswer : (id.source.contribute f run.state).1 = r.contribution id := by
      rw [contribute_source hv, (h hdisabled).contribution_eq]
    have hask : (ask id.source f run.state).1 = outcomeOf id.name (r.contribution id) := by
      unfold ask
      rw [bind_apply, hanswer, ← name_source]
      cases r.contribution id <;> rfl
    refine .inr ?_
    simp only [lookup, name_source, List.contains_iff_mem, hdisabled, Bool.false_eq_true, if_false]
    exact hask

theorem replied_mapM_lookup (hv : Cve.validate f.cve = .ok f.cve) {run : Run World}
    (h : RepliesAlong r f ids run) {id : SourceId} {o : Outcome}
    (ho : (id.name, o) ∈
      ((ids.map SourceId.source).mapM (fun s => return (s.name, ← lookup false s f)) run).1) :
    (∃ e, o = .skipped e) ∨ o = outcomeOf id.name (r.contribution id) := by
  induction ids generalizing run with
  | nil => cases ho
  | cons first ids ih =>
    obtain ⟨hsame, hrest⟩ := h
    simp only [List.map_cons, List.mapM_cons, bind_apply, pure_apply, List.mem_cons] at ho
    rcases ho with heq | ho
    · obtain ⟨hname, rfl⟩ := Prod.mk.inj heq
      rw [name_source] at hname
      rw [name_injective hname]
      exact lookup_of_sameAt hv hsame
    · exact ih hrest ho

theorem replied_mapM_lookups {fs : List Finding} {run : Run World}
    (hv : ∀ f ∈ fs, f.resolveCve?.isSome = true → Cve.validate f.cve = .ok f.cve)
    (h : RepliesAlongAll replies ids fs run) {row : List (String × Outcome)}
    (hrow : (f, row) ∈ fs.zip (fs.mapM (lookups false (ids.map SourceId.source)) run).1) {id : SourceId}
    {o : Outcome} (ho : (id.name, o) ∈ row) :
    (∃ e, o = .skipped e) ∨ o = outcomeOf id.name ((replies f.cve).contribution id) := by
  induction fs generalizing run with
  | nil => cases hrow
  | cons g fs ih =>
    obtain ⟨hfirst, hrest⟩ := h
    simp only [List.mapM_cons, bind_apply, pure_apply, List.zip_cons_cons, List.mem_cons] at hrow
    rcases hrow with heq | hrow
    · obtain ⟨hg, hrow⟩ := Prod.mk.inj heq
      rw [hrow, ← hg] at ho
      rw [← hg] at hfirst
      by_cases hresolved : f.resolveCve?.isSome = true
      · rw [lookups, if_pos hresolved] at ho
        exact replied_mapM_lookup (hv f (hg ▸ List.mem_cons_self) hresolved) (hfirst hresolved) ho
      · rw [lookups, if_neg hresolved] at ho
        cases ho
    · exact ih (fun f hf => hv f (List.mem_cons_of_mem _ hf)) hrest hrow

/-- The lookups made one after the other come out as replied. -/
theorem replied_oneByOne {fs : List Finding} {w : World}
    (h : RepliesAlongAll replies ids (fs.map prepare) { state := readyState (ids.map SourceId.source) fs w }) :
    Replied replies fs (outcomesOneByOne (ids.map SourceId.source) false fs w) := by
  intro f row hrow id o ho
  refine replied_mapM_lookups (fun f hf hresolved => ?_) h hrow ho
  obtain ⟨g, -, rfl⟩ := List.mem_map.1 hf
  exact validate_of_resolved hresolved

end Along

/-- Only the catalog can be reached. -/
def troubledWorld : World where
  host :=
    { now := .zero, cache := none
      network := fun r =>
        if r.url = "http://kev/" then .answered 200 "[\x7b\"cveID\":\"CVE-2024-0001\"\x7d]" none
        else .failed .timeout }
  clients := listingWorld.clients

/-- What the sources reply there: a listing, a forecast that is missing, a failure, and nothing. -/
def troubledReplies : Replies where
  status := .ok { inCatalog := true, entry := some { cveId := listed } }
  forecast := .ok
    { cve := listed
      error := "EPSS request failed: request to http://epss/?cve=CVE-2024-0001 failed: " ++
        "Get \"http://epss/?cve=CVE-2024-0001\": i/o timeout" }
  advisory := .error (.source "ghsa" "transient"
    (.context "transport error querying advisory" (.transport "Post" "http://ghsa/" .timeout)))
  exploit := .ok Exploits.unconfigured

theorem source_order_does_not_show_troubled :
    ∃ outcomes report outcomes' report',
      RanThrough (SourceId.all.map SourceId.source) [carriedFinding] outcomes report ∧
      Replied (fun _ => troubledReplies) [carriedFinding] outcomes ∧
      RanThrough (SourceId.all.reverse.map SourceId.source) [carriedFinding] outcomes' report' ∧
      Replied (fun _ => troubledReplies) [carriedFinding] outcomes' ∧
      NoneRejects (fun _ => troubledReplies) ∧ report'.stats = report.stats := by
  have haccepts : NoneRejects fun _ => troubledReplies := by
    intro cve id e he
    cases id with
    | advisories => cases he; decide
    | _ => cases he
  have halong : ∀ ids ∈ [SourceId.all, SourceId.all.reverse],
      RepliesAlongAll (fun _ => troubledReplies) ids ([carriedFinding].map prepare)
        { state := readyState (ids.map SourceId.source) [carriedFinding] troubledWorld } := by
    decide +kernel
  have hreplied := replied_oneByOne (halong SourceId.all (by simp))
  have hreplied' := replied_oneByOne (halong SourceId.all.reverse (by simp))
  have hran := @RanThrough.oneByOne (SourceId.all.map SourceId.source) [carriedFinding] troubledWorld
  have hran' := @RanThrough.oneByOne (SourceId.all.reverse.map SourceId.source) [carriedFinding] troubledWorld
  have hboth := source_order_does_not_show (by decide) (List.reverse_perm _).symm haccepts hran hreplied hran'
    hreplied'
  exact ⟨_, _, _, _, hran, hreplied, hran', hreplied', haccepts, hboth.1⟩

end Triage.Engine
