import Triage.Proofs.Engine.SourceOrder

/-!
# A second run

Let the four sources reply the same about each vulnerability in two runs that are not called off, the second
of them over the findings of the first. What the sources contribute lasts: each contribution is a projection
and survives those that come after it, and so does the score. So the second run changes nothing in a finding
but records of failures, whatever the finding carried before the first run (`Through.again`).

A source that fails leaves the same record again, unless it rejects the credentials. Such a source is asked
until it has rejected them, and which of its lookups leave the rejection for a record, and which of them that
the source was given up, is a matter of the order. So a second run may leave other records of such a source
(`second_run_differs`); nothing else is different (`findings_of_second_run`).
-/
namespace Triage.Engine

/-! ## Changes that last -/

/-- What all of these changes leave behind is there. -/
def Settled (changes : List Contribution) (f : Finding) : Prop := ∀ c ∈ changes, c f = f

theorem applyAll_of_settled {changes : List Contribution} {f : Finding} (h : Settled changes f) :
    applyAll changes f = f := by
  induction changes with
  | nil => rfl
  | cons c changes ih =>
    obtain ⟨hc, hrest⟩ := List.forall_mem_cons.1 h
    calc applyAll (c :: changes) f = applyAll changes (c f) := rfl
      _ = applyAll changes f := by rw [hc]
      _ = f := ih hrest

theorem Survives.applyAll {c : Contribution} {changes : List Contribution}
    (h : ∀ d ∈ changes, Survives c d) {f : Finding} (hf : c f = f) :
    c (applyAll changes f) = applyAll changes f := by
  induction changes generalizing f with
  | nil => exact hf
  | cons d changes ih =>
    obtain ⟨hd, hrest⟩ := List.forall_mem_cons.1 h
    exact ih hrest (hd f hf)

/-- **Changes last** if each of them is a projection and survives those that come after it. -/
theorem settled_applyAll {changes : List Contribution} (hproj : ∀ c ∈ changes, ∀ f, c (c f) = c f)
    (hpair : changes.Pairwise Survives) (f : Finding) : Settled changes (applyAll changes f) := by
  induction changes generalizing f with
  | nil => exact fun c hc => absurd hc List.not_mem_nil
  | cons c changes ih =>
    obtain ⟨hc, hrest⟩ := List.forall_mem_cons.1 hproj
    obtain ⟨hlater, hpair⟩ := List.pairwise_cons.1 hpair
    exact List.forall_mem_cons.2 ⟨Survives.applyAll hlater (hc f), ih hrest hpair (c f)⟩

/-! ## What the sources contribute -/

section Changes

variable {α β : Type} {apply : α → Contribution} {apply' : β → Contribution}

/-- The change that comes of an answer; a failure changes nothing. -/
def changeOf (apply : α → Contribution) : Except Failure α → Contribution
  | .ok a => apply a
  | .error _ => fun f => f

theorem changeOf_changeOf (h : ∀ a f, apply a (apply a f) = apply a f) (x : Except Failure α) (f : Finding) :
    changeOf apply x (changeOf apply x f) = changeOf apply x f := by
  cases x with
  | ok a => exact h a f
  | error e => rfl

theorem survives_changeOf (h : ∀ a b, Survives (apply a) (apply' b)) (x : Except Failure α)
    (y : Except Failure β) : Survives (changeOf apply x) (changeOf apply' y) := by
  intro f hf
  cases x with
  | error e => rfl
  | ok a =>
    cases y with
    | ok b => exact h a b f hf
    | error e => exact hf

theorem survives_changeOf_score (h : ∀ a, Survives (apply a) Finding.score) (x : Except Failure α) :
    Survives (changeOf apply x) Finding.score := by
  intro f hf
  cases x with
  | ok a => exact h a f hf
  | error e => rfl

end Changes

theorem changes_eq (r : Replies) :
    SourceId.all.map r.change =
      [changeOf ExploitedCatalog.apply r.status, changeOf Forecasts.apply r.forecast,
        changeOf Advisories.apply r.advisory, changeOf Exploits.apply r.exploit] := by
  obtain ⟨status, forecast, advisory, exploit⟩ := r
  cases status <;> cases forecast <;> cases advisory <;> cases exploit <;> rfl

/-- What the four sources contribute are projections. -/
theorem change_change (r : Replies) : ∀ c ∈ SourceId.all.map r.change, ∀ f, c (c f) = c f := by
  rw [changes_eq]
  simp only [List.forall_mem_cons]
  refine ⟨?_, ?_, ?_, ?_, by simp⟩
  · exact changeOf_changeOf ExploitedCatalog.apply_apply _
  · exact changeOf_changeOf Forecasts.apply_apply _
  · exact changeOf_changeOf Advisories.apply_apply _
  · exact changeOf_changeOf Exploits.apply_apply _

/-- What a source contributes survives what the sources after it contribute. -/
theorem pairwise_survives_change (r : Replies) : (SourceId.all.map r.change).Pairwise Survives := by
  rw [changes_eq]
  simp only [List.pairwise_cons, List.forall_mem_cons, List.not_mem_nil, IsEmpty.forall_iff, implies_true,
    List.Pairwise.nil, and_true]
  refine ⟨⟨?_, ?_, ?_⟩, ⟨?_, ?_⟩, ?_⟩
  · exact survives_changeOf (fun _ _ => status_survives_forecast) _ _
  · exact survives_changeOf (fun _ _ => status_survives_advisory) _ _
  · exact survives_changeOf (fun _ _ => status_survives_record) _ _
  · exact survives_changeOf (fun _ _ => forecast_survives_advisory) _ _
  · exact survives_changeOf (fun _ _ => forecast_survives_record) _ _
  · exact survives_changeOf (fun _ _ => advisory_survives_record) _ _

theorem change_survives_score (r : Replies) : ∀ c ∈ SourceId.all.map r.change, Survives c Finding.score := by
  rw [changes_eq]
  simp only [List.forall_mem_cons]
  refine ⟨?_, ?_, ?_, ?_, by simp⟩
  · exact survives_changeOf_score (fun _ => status_survives_score) _
  · exact survives_changeOf_score (fun _ => forecast_survives_score) _
  · exact survives_changeOf_score (fun _ => advisory_survives_score) _
  · exact survives_changeOf_score (fun _ => record_survives_score) _

def asked (f : Finding) : List SourceId := if f.resolveCve?.isSome then SourceId.all else []

/-- All changes of a run to a finding whose identifier is resolved: those of the sources, and the score. -/
def changesTo (replies : String → Replies) (f : Finding) : List Contribution :=
  (asked f).map (replies f.cve).change ++ [Finding.score]

/-- **All changes of a run last.** -/
theorem settled_changesTo (replies : String → Replies) (f g : Finding) :
    Settled (changesTo replies f) (applyAll (changesTo replies f) g) := by
  have hscore : ∀ f : Finding, f.score.score = f.score := fun _ => rfl
  unfold changesTo asked
  split
  · refine settled_applyAll ?_ ?_ g
    · exact List.forall_mem_append.2 ⟨change_change _, List.forall_mem_singleton.2 hscore⟩
    · refine List.pairwise_append.2 ⟨pairwise_survives_change _, List.pairwise_singleton _ _, ?_⟩
      intro c hc d hd
      rw [List.mem_singleton] at hd
      exact hd ▸ change_survives_score _ c hc
  · exact List.forall_mem_singleton.2 (hscore g)

theorem neutral_of_mem_changesTo {replies : String → Replies} {f : Finding} :
    ∀ c ∈ changesTo replies f, Neutral c := by
  intro c hc
  rcases List.mem_append.1 hc with hc | hc
  · obtain ⟨id, -, rfl⟩ := List.mem_map.1 hc
    exact ((replies f.cve).belongsTo_change id).neutral
  · exact List.mem_singleton.1 hc ▸ neutral_score

/-- Nothing changes the identifiers of a finding. -/
theorem identifiers_changesTo (replies : String → Replies) (f g : Finding) :
    (applyAll (changesTo replies f) g).identifiers = g.identifiers := by
  refine applyAll_of_keeps (fun c hc g => ?_) g
  rcases List.mem_append.1 hc with hc | hc
  · obtain ⟨id, -, rfl⟩ := List.mem_map.1 hc
    exact ((replies f.cve).belongsTo_change id).identifiers_eq g
  · rw [List.mem_singleton.1 hc]
    rfl

/-! ## The lookups of a finding -/

/-- The source rejects the credentials, whatever it is asked about. -/
def Rejects (replies : String → Replies) (id : SourceId) : Prop :=
  ∀ cve, ∃ e, (replies cve).contribution id = .error e ∧ (e.classify id.name).kind = disablingKind

/-- The credentials of a source are good, or they are not. -/
def Uniform (replies : String → Replies) : Prop := ∀ id, Accepts replies id ∨ Rejects replies id

/-- A lookup in a run that is not called off: it came out as the source replies, or the source rejects the
credentials and had been given up before. -/
def ComesTo (replies : String → Replies) (f : Finding) (id : SourceId) (o : Outcome) : Prop :=
  o = outcomeOf id.name ((replies f.cve).contribution id) ∨
    Rejects replies id ∧ o = .skipped (disabledFailure id.name)

/-- The lookups of a finding in a run that is not called off. -/
structure RowOf (replies : String → Replies) (f : Finding) (row : List (String × Outcome)) : Prop where
  names : row.map (·.1) = (asked f).map SourceId.name
  comesTo : ∀ id o, (SourceId.name id, o) ∈ row → ComesTo replies f id o

section Row

variable {replies : String → Replies} {f : Finding} {row : List (String × Outcome)}

theorem RowOf.nodup (h : RowOf replies f row) : (row.map (·.1)).Nodup := by
  rw [h.names, asked]
  split
  · decide
  · simp

theorem RowOf.exists_of_mem (h : RowOf replies f row) {name : String} {o : Outcome} (ho : (name, o) ∈ row) :
    ∃ id ∈ asked f, id.name = name := by
  have hname : name ∈ (asked f).map SourceId.name := h.names ▸ List.mem_map.2 ⟨(name, o), ho, rfl⟩
  exact List.mem_map.1 hname

theorem RowOf.neutral (h : RowOf replies f row) : ∀ change ∈ contributionsOf row, Neutral change := by
  intro change hchange
  obtain ⟨⟨name, o⟩, ho, hcontributed⟩ := List.mem_filterMap.1 hchange
  obtain ⟨id, -, rfl⟩ := h.exists_of_mem ho
  cases o with
  | failed e => cases hcontributed
  | skipped e => cases hcontributed
  | contributed c =>
    cases hcontributed
    rcases h.comesTo id _ ho with hreply | ⟨-, hskipped⟩
    · cases hr : (replies f.cve).contribution id with
      | error e => rw [hr] at hreply; cases hreply
      | ok c =>
        rw [hr] at hreply
        cases hreply
        exact (Replies.belongsTo hr).neutral
    · cases hskipped

/-- **A finding after its lookups**, scored: all changes of the run, and the records of the failures. -/
theorem RowOf.score_mergeAll (h : RowOf replies f row) :
    (mergeAll f row).score = { applyAll (changesTo replies f) f with
      enrichmentErrors := Keyed.insertAll (failuresOf row) f.enrichmentErrors } := by
  have hcontributed := applyAll_contributionsOf (r := replies f.cve) h.names (fun id o ho => ?_) f
  · rw [mergeAll_of_neutral h.neutral, hcontributed, neutral_score, changesTo]
    simp only [applyAll, List.foldl_append, List.foldl_cons, List.foldl_nil]
  · rcases h.comesTo id o ho with hreply | ⟨hrejects, hskipped⟩
    · exact .inl hreply
    · obtain ⟨e, he, -⟩ := hrejects f.cve
      exact .inr ⟨Replies.change_of_error he, _, hskipped⟩

theorem RowOf.lookup_failuresOf (h : RowOf replies f row) {id : SourceId} (hid : id ∈ asked f) :
    ∃ o, ComesTo replies f id o ∧ (failuresOf row).lookup id.name = o.failure?.map (·.message) := by
  have hname : id.name ∈ row.map (·.1) := by
    rw [h.names]
    exact List.mem_map_of_mem hid
  obtain ⟨⟨name, o⟩, ho, heq⟩ := List.mem_map.1 hname
  cases heq
  exact ⟨o, h.comesTo id o ho, Engine.lookup_failuresOf h.nodup ho⟩

theorem RowOf.lookup_failuresOf_of_not_asked (h : RowOf replies f row) {name : String}
    (hname : ∀ id ∈ asked f, id.name ≠ name) : (failuresOf row).lookup name = none := by
  refine List.lookup_eq_none_iff.2 fun p hp => bne_iff_ne.2 fun heq => ?_
  have hmem : p.1 ∈ row.map (·.1) := (failuresOf_names_sublist row).subset (List.mem_map_of_mem hp)
  rw [h.names] at hmem
  obtain ⟨id, hid, hidname⟩ := List.mem_map.1 hmem
  exact hname id hid (hidname.trans heq.symm)

/-- Without rejections the lookups of a finding can come out in one way only. -/
theorem RowOf.eq_map (h : RowOf replies f row) (hnone : ∀ id, ¬ Rejects replies id) :
    row = (asked f).map fun id => (id.name, outcomeOf id.name ((replies f.cve).contribution id)) := by
  obtain ⟨hnames, hcomes⟩ := h
  generalize asked f = ids at hnames ⊢
  induction ids generalizing row with
  | nil => exact List.map_eq_nil_iff.1 hnames
  | cons id ids ih =>
    obtain ⟨⟨name, o⟩, rest, rfl, rfl, htail⟩ := List.map_eq_cons_iff.1 hnames
    have ho := (hcomes id o List.mem_cons_self).resolve_right fun hrejects => hnone id hrejects.1
    rw [List.map_cons, ← ho, ih (fun id o h => hcomes id o (List.mem_cons_of_mem _ h)) htail]

end Row

/-- The lookups of a run that is not called off, finding by finding. -/
theorem RanThrough.rowOf {replies : String → Replies} {fs : List Finding}
    {outcomes : List (List (String × Outcome))} {report : Report}
    (h : RanThrough (SourceId.all.map SourceId.source) fs outcomes report) (hreplied : Replied replies fs outcomes)
    (huniform : Uniform replies) : List.Forall₂ (RowOf replies) (fs.map prepare) outcomes := by
  obtain ⟨workers, w, es, m, hexec, hgoes, hfin, rfl, rfl⟩ := h.exists_exec
  have hanswers := byAnswers_of_replied hexec hfin hreplied
  refine List.forall₂_iff_zip.2 ⟨(length_rows _ _ _).symm, fun {f row} hrow => ?_⟩
  obtain ⟨ts, hmem, hsources, hresults⟩ := FanOut.exists_tasks hexec hfin hrow
  refine ⟨?_, fun id o ho => ?_⟩
  · have hnames : row.map (·.1) = (ts.map (·.source)).map (·.name) := by
      rw [map_name_of_results hresults, List.map_map]
      rfl
    rw [hnames, hsources, asked]
    split
    · rw [List.map_map]
      exact List.map_congr_left fun id _ => name_source id
    · rfl
  · obtain ⟨t, ht, hname, hdone⟩ := (mem_iff_of_results hresults).1 ho
    obtain ⟨htask, rfl⟩ := hmem t ht
    obtain ⟨id', hid⟩ := exists_id_of_mem_tasks hexec htask
    have hsame : id' = id := name_injective (by rw [← hname, hid, name_source])
    subst hsame
    rcases huniform id' with haccepts | hrejects
    · have hdue := FanOut.outcome_of_answers hexec hfin hgoes hanswers htask
        (hname ▸ accepts_of_replies hexec haccepts) hdone
      rw [hname, hid, replyOf_source] at hdue
      exact .inl hdue
    · rcases hreplied _ row hrow id' o ho with ⟨e, rfl⟩ | hreply
      · have hended : t.phase.ended? = some (.skipped e) := by rw [hdone]; rfl
        rw [FanOut.exec_skipped_failure hexec hgoes htask hended, hname]
        exact .inr ⟨hrejects, rfl⟩
      · exact .inl hreply

/-! ## One finding -/

/-- A finding goes through a run that is not called off and comes out as `g`. -/
def Through (replies : String → Replies) (f g : Finding) : Prop :=
  ∃ row, RowOf replies (prepare f) row ∧ g = (mergeAll (prepare f) row).score

section Through

variable {replies : String → Replies} {f g g' : Finding}

theorem Through.identifiers_eq (h : Through replies f g) : g.identifiers = (prepare f).identifiers := by
  obtain ⟨row, hrow, rfl⟩ := h
  have hrecords (f : Finding) (errors : List (String × String)) :
      { f with enrichmentErrors := errors }.identifiers = f.identifiers := rfl
  rw [hrow.score_mergeAll, hrecords]
  exact identifiers_changesTo replies _ _

theorem Through.cve_eq (h : Through replies f g) : g.cve = (prepare f).cve :=
  (List.cons.inj h.identifiers_eq).1

theorem Through.resolveCve?_eq (h : Through replies f g) : g.resolveCve? = (prepare f).resolveCve? :=
  congrArg (List.findSome? Cve.canonical?) h.identifiers_eq

theorem Through.changesTo_eq (h : Through replies f g) : changesTo replies g = changesTo replies (prepare f) := by
  rw [changesTo, changesTo, asked, asked, h.cve_eq, h.resolveCve?_eq]

/-- The identifier of a finding is resolved already after a run. -/
theorem Through.prepare_eq (h : Through replies f g) : prepare g = g := by
  have hresolve := h.resolveCve?_eq.trans (resolveCve?_prepare f)
  cases hcve : f.resolveCve? with
  | some cve =>
    have hkept : g.cve = cve := by rw [h.cve_eq, prepare_of_resolved hcve]
    rw [prepare_of_resolved (hresolve.trans hcve), ← hkept]
  | none =>
    -- Without an identifier there is only the warning, and the score.
    obtain ⟨row, hrow, rfl⟩ := h
    have hasked : asked (prepare f) = [] := by rw [asked, resolveCve?_prepare, hcve]; rfl
    have hnil : row = [] := by rw [← List.map_eq_nil_iff, hrow.names, hasked]; rfl
    rw [prepare_of_unresolved (hresolve.trans hcve), hnil, prepare_of_unresolved hcve]
    exact Finding.addWarning_of_mem (Finding.mem_addWarning f unresolvedWarning)

theorem Through.settled (h : Through replies f g) : Settled (changesTo replies g) g := by
  intro c hc
  have hneutral := neutral_of_mem_changesTo c hc
  rw [h.changesTo_eq] at hc
  obtain ⟨row, hrow, rfl⟩ := h
  rw [hrow.score_mergeAll, hneutral, settled_changesTo replies _ _ c hc]

/-- **A finding that has been through a run** gets nothing from the next one but records of failures. -/
theorem Through.again (h : Through replies f g) (h' : Through replies g g') :
    ∃ row, RowOf replies g row ∧
      g' = { g with enrichmentErrors := Keyed.insertAll (failuresOf row) g.enrichmentErrors } := by
  obtain ⟨row, hrow, rfl⟩ := h'
  rw [h.prepare_eq] at hrow ⊢
  exact ⟨row, hrow, by rw [hrow.score_mergeAll, applyAll_of_settled h.settled]⟩

/-- The records of the failures of a run in a finding that has been through it. -/
theorem Through.exists_records (h : Through replies f g) :
    ∃ row, RowOf replies g row ∧
      g.enrichmentErrors = Keyed.insertAll (failuresOf row) f.enrichmentErrors := by
  obtain ⟨row, hrow, rfl⟩ := h
  have hthrough : Through replies f (mergeAll (prepare f) row).score := ⟨row, hrow, rfl⟩
  refine ⟨row, ⟨?_, ?_⟩, ?_⟩
  · rw [hrow.names, asked, asked, hthrough.resolveCve?_eq]
  · intro id o ho
    rw [ComesTo, hthrough.cve_eq]
    exact hrow.comesTo id o ho
  · rw [hrow.score_mergeAll, prepare_enrichmentErrors]

end Through

/-! ## Findings that differ in rejections -/

/-- `g'` differs from `g` in nothing but the records of the sources that reject the credentials. A finding with an
identifier has a record of each such source both times: of the rejection, or that the source was given up. -/
structure SameButRejections (replies : String → Replies) (g g' : Finding) : Prop where
  rest : g' = { g with enrichmentErrors := g'.enrichmentErrors }
  unresolved : g.resolveCve? = none → g' = g
  others : ∀ name, (∀ id, Rejects replies id → id.name ≠ name) →
    g'.enrichmentErrors.lookup name = g.enrichmentErrors.lookup name
  rejections : g.resolveCve?.isSome = true → ∀ id, Rejects replies id → ∀ h ∈ [g, g'],
    ∃ e, (replies g.cve).contribution id = .error e ∧
      (h.enrichmentErrors.lookup id.name = some (e.classify id.name).message ∨
        h.enrichmentErrors.lookup id.name = some (disabledFailure id.name).message)

theorem SameButRejections.riskPlace_eq {replies : String → Replies} {g g' : Finding}
    (h : SameButRejections replies g g') : g'.riskPlace = g.riskPlace := by
  rw [h.rest]
  rfl

section Same

variable {replies : String → Replies} {f g g' : Finding} {row : List (String × Outcome)}

theorem RowOf.lookup_insertAll (h : RowOf replies f row) (errors : List (String × String)) (name : String) :
    (Keyed.insertAll (failuresOf row) errors).lookup name =
      ((failuresOf row).lookup name).or (errors.lookup name) :=
  Keyed.lookup_insertAll ((failuresOf_names_sublist row).nodup h.nodup) errors name

theorem RowOf.lookup_of_rejects (h : RowOf replies f row) (errors : List (String × String)) {id : SourceId}
    (hid : id ∈ asked f) (hrejects : Rejects replies id) :
    ∃ e, (replies f.cve).contribution id = .error e ∧
      ((Keyed.insertAll (failuresOf row) errors).lookup id.name = some (e.classify id.name).message ∨
        (Keyed.insertAll (failuresOf row) errors).lookup id.name = some (disabledFailure id.name).message) := by
  obtain ⟨e, he, -⟩ := hrejects f.cve
  obtain ⟨o, ho, hlookup⟩ := h.lookup_failuresOf hid
  refine ⟨e, he, ?_⟩
  rw [h.lookup_insertAll, hlookup]
  rcases ho with rfl | ⟨-, rfl⟩
  · rw [he]
    exact .inl rfl
  · exact .inr rfl

/-- A finding that goes through a run twice. -/
theorem Through.same (h : Through replies f g) (h' : Through replies g g') : SameButRejections replies g g' := by
  obtain ⟨row, hrow, hbefore⟩ := h.exists_records
  obtain ⟨row', hrow', rfl⟩ := h.again h'
  refine ⟨rfl, fun hnone => ?_, fun name hname => ?_, fun hresolved id hrejects x hx => ?_⟩
  · have hasked : asked g = [] := by rw [asked, hnone]; rfl
    have hnil : row' = [] := by rw [← List.map_eq_nil_iff, hrow'.names, hasked]; rfl
    rw [hnil]
    rfl
  · rw [hrow'.lookup_insertAll]
    by_cases hasked : ∃ id ∈ asked g, id.name = name
    · -- The source fails in both runs in the same way, or in none.
      obtain ⟨id, hid, rfl⟩ := hasked
      have haccepts : ¬ Rejects replies id := fun hrejects => hname id hrejects rfl
      obtain ⟨o, ho, hlookup⟩ := hrow.lookup_failuresOf hid
      obtain ⟨o', ho', hlookup'⟩ := hrow'.lookup_failuresOf hid
      have hsame : o' = o :=
        (ho'.resolve_right fun h => haccepts h.1).trans (ho.resolve_right fun h => haccepts h.1).symm
      rw [hbefore, hrow.lookup_insertAll, hlookup, hlookup', hsame, ← Option.or_assoc, Option.or_self]
    · have hother : ∀ id ∈ asked g, id.name ≠ name := fun id hid heq => hasked ⟨id, hid, heq⟩
      rw [hrow'.lookup_failuresOf_of_not_asked hother, Option.none_or]
  · have hid : id ∈ asked g := by
      rw [asked, if_pos hresolved]
      cases id <;> decide
    rcases List.mem_pair.1 hx with rfl | rfl
    · rw [hbefore]
      exact hrow.lookup_of_rejects _ hid hrejects
    · exact hrow'.lookup_of_rejects _ hid hrejects

theorem Through.eq_of_accepts (hnone : ∀ id, ¬ Rejects replies id) (h : Through replies f g)
    (h' : Through replies g g') : g' = g := by
  obtain ⟨row, hrow, hbefore⟩ := h.exists_records
  obtain ⟨row', hrow', rfl⟩ := h.again h'
  have hsame : row' = row := (hrow'.eq_map hnone).trans (hrow.eq_map hnone).symm
  rw [hsame, hbefore, Keyed.insertAll_insertAll ((failuresOf_names_sublist row).nodup hrow.nodup), ← hbefore]

end Same

/-! ## Two runs -/

section Run

variable {replies : String → Replies} {fs : List Finding} {outcomes : List (List (String × Outcome))}
  {report report' : Report}

theorem RanThrough.findings_eq {sources : List (Source World)} (h : RanThrough sources fs outcomes report) :
    report.findings = rank (merged fs outcomes) := by
  cases h <;> rfl

theorem forall₂_through (h : List.Forall₂ (RowOf replies) (fs.map prepare) outcomes) :
    List.Forall₂ (Through replies) fs ((merged fs outcomes).map Finding.score) := by
  induction fs generalizing outcomes with
  | nil => cases h; exact .nil
  | cons f fs ih =>
    obtain ⟨row, rest, hrow, hrest, rfl⟩ := List.forall₂_cons_left_iff.1 h
    rw [merged_cons, List.map_cons]
    exact .cons ⟨row, hrow, rfl⟩ (ih hrest)

theorem exists_through_of_mem (h : List.Forall₂ (RowOf replies) (fs.map prepare) outcomes) {g : Finding}
    (hg : g ∈ rank (merged fs outcomes)) : ∃ f, Through replies f g := by
  obtain ⟨_, hmerged, rfl⟩ := List.mem_map.1 ((perm_rank _).mem_iff.1 hg)
  obtain ⟨⟨_, row⟩, hrow, rfl⟩ := List.mem_map.1 hmerged
  obtain ⟨f, -, rfl⟩ := List.mem_map.1 (List.of_mem_zip hrow).1
  exact ⟨f, row, (List.forall₂_iff_zip.1 h).2 hrow, rfl⟩

/-- Two runs that are not called off, the second of them over the findings that the first reports, in which the
sources reply the same about each vulnerability. -/
structure RanTwice (replies : String → Replies) (fs : List Finding) (report report' : Report) : Prop where
  first : ∃ outcomes, RanThrough (SourceId.all.map SourceId.source) fs outcomes report ∧
    Replied replies fs outcomes
  second : ∃ outcomes, RanThrough (SourceId.all.map SourceId.source) report.findings outcomes report' ∧
    Replied replies report.findings outcomes

/-- **What a second run changes.** Let the sources reply the same about each vulnerability in two runs, the second
of them over the findings that the first one reports, and let each source either accept the credentials or reject
them. Then both report the same findings in the same order, and they differ in nothing but the records of the
sources that reject the credentials. If none does, the findings are equal in all fields. The findings may carry
anything before the first run. -/
theorem findings_of_second_run (huniform : Uniform replies) (h : RanTwice replies fs report report') :
    List.Forall₂ (SameButRejections replies) report.findings report'.findings ∧
      (NoneRejects replies → report'.findings = report.findings) := by
  obtain ⟨⟨outcomes, hran, hreplied⟩, outcomes', hran', hreplied'⟩ := h
  have hrows := hran.rowOf hreplied huniform
  have hrows' := hran'.rowOf hreplied' huniform
  have hbefore : ∀ g ∈ report.findings, ∃ f, Through replies f g := by
    rw [hran.findings_eq]
    exact fun g hg => exists_through_of_mem hrows hg
  have hagain := List.forall₂_iff_zip.1 (forall₂_through hrows')
  have hsame : List.Forall₂ (SameButRejections replies) report.findings
      ((merged report.findings outcomes').map Finding.score) := by
    refine List.forall₂_iff_zip.2 ⟨hagain.1, fun {g g'} hg => ?_⟩
    obtain ⟨f, hf⟩ := hbefore g (List.of_mem_zip hg).1
    exact hf.same (hagain.2 hg)
  -- The records do not count for the score, so the order stays.
  have horder : report'.findings = (merged report.findings outcomes').map Finding.score := by
    have hplaces : ((merged report.findings outcomes').map Finding.score).map Finding.riskPlace =
        (rank (merged fs outcomes)).map Finding.riskPlace := by
      rw [← hran.findings_eq, ← List.forall₂_eq_eq_eq, List.forall₂_map_left_iff, List.forall₂_map_right_iff]
      exact hsame.flip.imp fun g' g h => h.riskPlace_eq
    rw [hran'.findings_eq, rank_of_places hplaces]
  refine ⟨horder ▸ hsame, fun haccepts => ?_⟩
  have hnone : ∀ id, ¬ Rejects replies id := by
    intro id hrejects
    obtain ⟨e, he, hkind⟩ := hrejects ""
    exact haccepts "" id e he hkind
  rw [horder, eq_comm, ← List.forall₂_eq_eq_eq]
  refine List.forall₂_iff_zip.2 ⟨hagain.1, fun {g g'} hg => ?_⟩
  obtain ⟨f, hf⟩ := hbefore g (List.of_mem_zip hg).1
  exact (hf.eq_of_accepts hnone (hagain.2 hg)).symm

end Run

/-! ## A source that rejects the credentials -/

/-- The catalog lists one vulnerability, there are no forecasts and no advisories, and the index of exploits
rejects the credentials for another one. -/
def guardedNetwork (index : Triage.Reply) (r : Request) : Triage.Reply :=
  if r.method = "POST" then
    .answered 200 "\x7b\"data\":\x7b\"securityAdvisories\":\x7b\"nodes\":[]\x7d\x7d\x7d" none
  else if r.url = "http://kev/" then .answered 200 "[\x7b\"cveID\":\"CVE-2024-0001\"\x7d]" none
  else if r.url = "http://vulncheck/?cve=CVE-2024-0001" then index
  else if r.url = "http://vulncheck/?cve=CVE-2024-0002" then .answered 401 "" none
  else .answered 200 "\x7b\"data\":[]\x7d" none

/-- A world with that network, where the index replies as given about the vulnerability in the catalog. -/
def guardedWorld (index : Triage.Reply) : World where
  host := { now := .zero, cache := none, network := guardedNetwork index }
  clients := { listingWorld.clients with exploits := { url := "http://vulncheck/", key := "expired" } }

/-- What the sources reply there, with the replies of the index as given. -/
def guardedReplies (index : String → Except Failure ExploitRecord) (cve : String) : Replies where
  status := .ok (if cve = listed then { inCatalog := true, entry := some { cveId := listed } } else {})
  forecast := .ok { cve }
  advisory := .ok {}
  exploit := index cve

/-- The index rejects the credentials for both vulnerabilities. -/
def lockedWorld : World := guardedWorld (.answered 401 "" none)

def lockedReplies : String → Replies := guardedReplies fun _ => .error (.auth Exploits.sourceName 401)

/-- The index rejects the credentials for one of them only. -/
def halfOpenWorld : World :=
  guardedWorld (.answered 200 "\x7b\"data\":[\x7b\"knownRansomwareCampaignUse\":\"Known\"\x7d]\x7d" none)

def halfOpenReplies : String → Replies := guardedReplies fun cve =>
  if cve = listed then
    .ok { available := true, maturity := "poc", weaponized := true, ransomwareUse := true, source := "vulncheck" }
  else .error (.auth Exploits.sourceName 401)

/-- Two findings, the second of which comes out with the higher risk. -/
def risingFindings : List Finding := [{ cve := "CVE-2024-0002" }, { cve := listed }]

/-- The findings after a run in a world, in their order. -/
def scoredAfter (w : World) (fs : List Finding) : List Finding :=
  (merged fs (outcomesOneByOne (SourceId.all.map SourceId.source) false fs w)).map Finding.score

/-- A run turns the order of two findings round, a second one leaves it as it is, and in both of them the sources
reply as given. -/
def TurnsRound (replies : String → Replies) (w : World) (fs : List Finding) : Prop :=
  (scoredAfter w fs).length = 2 ∧ ((scoredAfter w fs).Pairwise fun a b => a.riskScore < b.riskScore) ∧
    ((scoredAfter w (scoredAfter w fs).reverse).Pairwise fun a b =>
      (!decide (a.riskScore < b.riskScore)) = true) ∧
    RepliesAlongAll replies SourceId.all (fs.map prepare)
      { state := readyState (SourceId.all.map SourceId.source) fs w } ∧
    RepliesAlongAll replies SourceId.all ((scoredAfter w fs).reverse.map prepare)
      { state := readyState (SourceId.all.map SourceId.source) (scoredAfter w fs).reverse w }

instance (replies : String → Replies) (w : World) (fs : List Finding) : Decidable (TurnsRound replies w fs) :=
  inferInstanceAs (Decidable (_ ∧ _ ∧ _ ∧ _ ∧ _))

theorem rank_of_rising_pair {fs : List Finding} (hlength : (fs.map Finding.score).length = 2)
    (h : (fs.map Finding.score).Pairwise fun a b => a.riskScore < b.riskScore) :
    rank fs = (fs.map Finding.score).reverse := by
  rw [List.length_map] at hlength
  obtain ⟨a, b, rfl⟩ := List.length_eq_two.1 hlength
  have hab : a.score.riskScore < b.score.riskScore := by simpa using h
  simp [rank, List.mergeSort, List.MergeSort.Internal.splitInTwo, hab]

theorem TurnsRound.ranTwice {replies : String → Replies} {w : World} {fs : List Finding}
    (h : TurnsRound replies w fs) :
    ∃ report report', RanTwice replies fs report report' ∧ report.findings = (scoredAfter w fs).reverse ∧
      report'.findings = scoredAfter w (scoredAfter w fs).reverse := by
  obtain ⟨hlength, hrising, hfalling, halong, halong'⟩ := h
  have hran := @RanThrough.oneByOne (SourceId.all.map SourceId.source) fs w
  have hfindings := hran.findings_eq.trans (rank_of_rising_pair hlength hrising)
  have hran' := @RanThrough.oneByOne (SourceId.all.map SourceId.source) (scoredAfter w fs).reverse w
  have hfindings' := hran'.findings_eq.trans (List.mergeSort_of_pairwise hfalling)
  refine ⟨_, _, ⟨⟨_, hran, replied_oneByOne halong⟩, ?_⟩, hfindings, hfindings'⟩
  rw [hfindings]
  exact ⟨_, hran', replied_oneByOne halong'⟩

/-- The texts in the records of a source, finding by finding. -/
def recordsOf (name : String) (fs : List Finding) : List (Option String) :=
  fs.map (·.enrichmentErrors.lookup name)

theorem locked_facts :
    TurnsRound lockedReplies lockedWorld risingFindings ∧
      recordsOf "vulncheck" (scoredAfter lockedWorld risingFindings).reverse =
        [some "vulncheck (auth): source disabled after authentication failure",
          some "vulncheck (auth): vulncheck: authentication failed (HTTP 401)"] ∧
      recordsOf "vulncheck" (scoredAfter lockedWorld (scoredAfter lockedWorld risingFindings).reverse) =
        [some "vulncheck (auth): vulncheck: authentication failed (HTTP 401)",
          some "vulncheck (auth): source disabled after authentication failure"] := by
  decide +kernel

theorem halfOpen_facts :
    TurnsRound halfOpenReplies halfOpenWorld risingFindings ∧
      (scoredAfter halfOpenWorld risingFindings).reverse.map (·.riskScore) = [40, 0] ∧
      (scoredAfter halfOpenWorld (scoredAfter halfOpenWorld risingFindings).reverse).map (·.riskScore) =
        [50, 0] := by
  decide +kernel

/-- A run, and a second one that is called off. -/
theorem calledOff_facts :
    (scoredAfter listingWorld [carriedFinding]).length = 1 ∧
      recordsOf "kev" (scoredAfter listingWorld [carriedFinding]) = [none] ∧
      ((merged (scoredAfter listingWorld [carriedFinding]) (outcomesOneByOne (SourceId.all.map SourceId.source)
        true (scoredAfter listingWorld [carriedFinding]) listingWorld)).map Finding.score).length = 1 ∧
      recordsOf "kev" ((merged (scoredAfter listingWorld [carriedFinding]) (outcomesOneByOne
        (SourceId.all.map SourceId.source) true (scoredAfter listingWorld [carriedFinding]) listingWorld)).map
          Finding.score) = [some "kev (transient): context canceled"] := by
  decide +kernel

theorem rank_of_length_one {fs : List Finding} (h : (fs.map Finding.score).length = 1) :
    rank fs = fs.map Finding.score := by
  rw [List.length_map] at h
  obtain ⟨f, rfl⟩ := List.length_eq_one_iff.1 h
  simp [rank]

theorem rejects_locked_iff {id : SourceId} : Rejects lockedReplies id ↔ id = .exploits := by
  constructor
  · intro h
    obtain ⟨e, he, -⟩ := h ""
    cases id with
    | exploits => rfl
    | _ => cases he
  · rintro rfl cve
    exact ⟨_, rfl, by decide⟩

theorem uniform_locked : Uniform lockedReplies := by
  intro id
  cases id with
  | exploits => exact .inr (rejects_locked_iff.2 rfl)
  | _ => exact .inl fun cve e he => by cases he

theorem findings_of_second_run_locked :
    Uniform lockedReplies ∧ Rejects lockedReplies .exploits ∧
      ∃ report report', RanTwice lockedReplies risingFindings report report' ∧ report.findings.length = 2 ∧
        List.Forall₂ (SameButRejections lockedReplies) report.findings report'.findings := by
  obtain ⟨hturns, -, -⟩ := locked_facts
  obtain ⟨report, report', hran, hfindings, -⟩ := hturns.ranTwice
  refine ⟨uniform_locked, rejects_locked_iff.2 rfl, report, report', hran, ?_,
    (findings_of_second_run uniform_locked hran).1⟩
  rw [hfindings, List.length_reverse, hturns.1]

/-- **A second run may differ.** A source that rejects the credentials is asked again in the second run, and about
another finding first; so the two records of that source change places. If it rejects them for one vulnerability
only, what it replies about the other one may be missed in the first run and raise the risk in the second. And if
the second run is called off, there are records of that. -/
theorem second_run_differs :
    (∃ report report', RanTwice lockedReplies risingFindings report report' ∧
      recordsOf "vulncheck" report.findings =
        [some "vulncheck (auth): source disabled after authentication failure",
          some "vulncheck (auth): vulncheck: authentication failed (HTTP 401)"] ∧
      recordsOf "vulncheck" report'.findings =
        [some "vulncheck (auth): vulncheck: authentication failed (HTTP 401)",
          some "vulncheck (auth): source disabled after authentication failure"]) ∧
    (∃ report report', RanTwice halfOpenReplies risingFindings report report' ∧
      report.findings.map (·.riskScore) = [40, 0] ∧ report'.findings.map (·.riskScore) = [50, 0]) ∧
    ∃ report report', report = (enrich (SourceId.all.map SourceId.source) false [carriedFinding] listingWorld).1 ∧
      report' = (enrich (SourceId.all.map SourceId.source) true report.findings listingWorld).1 ∧
      recordsOf "kev" report.findings = [none] ∧
      recordsOf "kev" report'.findings = [some "kev (transient): context canceled"] := by
  refine ⟨?_, ?_, _, _, rfl, rfl, ?_⟩
  · obtain ⟨hturns, hbefore, hafter⟩ := locked_facts
    obtain ⟨report, report', hran, hfindings, hfindings'⟩ := hturns.ranTwice
    exact ⟨report, report', hran, hfindings ▸ hbefore, hfindings' ▸ hafter⟩
  · obtain ⟨hturns, hbefore, hafter⟩ := halfOpen_facts
    obtain ⟨report, report', hran, hfindings, hfindings'⟩ := hturns.ranTwice
    exact ⟨report, report', hran, hfindings ▸ hbefore, hfindings' ▸ hafter⟩
  · obtain ⟨hlength, hbefore, hlength', hafter⟩ := calledOff_facts
    have hfindings : (enrich (SourceId.all.map SourceId.source) false [carriedFinding] listingWorld).1.findings =
        scoredAfter listingWorld [carriedFinding] :=
      (findings_enrich _ _ _ _).trans (rank_of_length_one hlength)
    rw [hfindings, findings_enrich, rank_of_length_one hlength']
    exact ⟨hbefore, hafter⟩

end Triage.Engine
