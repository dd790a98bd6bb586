import Triage.Proofs.Intel.Batches

/-!
# Forecasts together or singly

A server that has a fixed row, or none, for every vulnerability gives the same forecasts in whatever batches it is asked
for them. What a vulnerability gets is then settled by the client, the cache and the server at the beginning
(`scoreFor`); every lookup tells it, and all ways of looking up the same vulnerabilities leave the client and the cache
alike (`Reached`). Main statement: `forecasts_together_or_singly`.
-/
namespace Triage.Forecasts

/-! ## A server with a row for every vulnerability -/

/-- The server answers every request for a batch of the vulnerabilities with their rows, in any order. A row that gives
a forecast gives one for its own vulnerability. -/
structure GivesRows (url : String) (h : Host) (row? : String → Option Row) (cves : List String) : Prop where
  own : ∀ cve ∈ cves, ∀ row f, row? cve = some row → row.forecast? = some f → f.cve = cve
  rows : ∀ batch, batch ≠ [] → batch.Nodup → batch.length ≤ batchSize → (∀ cve ∈ batch, cve ∈ cves) →
    ∃ rows, RowsFor url h batch rows ∧ rows.Perm (batch.filterMap row?)

/-- The forecast of the row for a vulnerability; a blank one if there is no row, or none that gives a forecast. -/
def given (row? : String → Option Row) (cve : String) : Forecast := ((row? cve).bind Row.forecast?).getD { cve }

section Server

variable {url : String} {h h' : Host} {row? : String → Option Row} {cves batch : List String} {cve : String}

theorem RowsFor.congr (hs : SameNetwork h h') {rows : List Row} :
    RowsFor url h' batch rows ↔ RowsFor url h batch rows := by
  unfold RowsFor
  rw [responseFor_congr hs]

theorem GivesRows.congr (hg : GivesRows url h row? cves) (hs : SameNetwork h h') : GivesRows url h' row? cves := by
  refine ⟨hg.own, fun batch hne hnodup hlength hmem => ?_⟩
  obtain ⟨rows, hrows, hperm⟩ := hg.rows batch hne hnodup hlength hmem
  exact ⟨rows, (RowsFor.congr hs).2 hrows, hperm⟩

/-- The rows of the other vulnerabilities of a batch do not matter. -/
theorem GivesRows.eq_given (hg : GivesRows url h row? cves) (hbatch : ∀ cve ∈ batch, cve ∈ cves) {rows : List Row}
    (hperm : rows.Perm (batch.filterMap row?)) (hcve : cve ∈ batch) {f : Forecast} (hf : Answers rows cve f) :
    f = given row? cve := by
  -- The only row that gives a forecast for the vulnerability is its own.
  have hown {row : Row} (hrow : row ∈ rows) {g : Forecast} (hg' : row.forecast? = some g) (hgcve : g.cve = cve) :
      row? cve = some row := by
    obtain ⟨other, hother, heq⟩ := List.mem_filterMap.1 (hperm.mem_iff.1 hrow)
    have hsame := hg.own other (hbatch other hother) row g heq hg'
    rw [← hgcve, hsame]
    exact heq
  unfold given
  cases hf with
  | @row front back row f hrows hgives hfcve hlast =>
    have hforecast := Row.forecast?_eq_some_iff.2 hgives
    have hrow : row ∈ rows := by
      rw [hrows]
      exact List.mem_append_right _ List.mem_cons_self
    rw [hown hrow hforecast hfcve, Option.bind_some, hforecast, Option.getD_some]
  | none hnone =>
    cases hrow : row? cve with
    | none => rfl
    | some row =>
      have hmem : row ∈ rows := hperm.mem_iff.2 (List.mem_filterMap.2 ⟨cve, hcve, hrow⟩)
      rw [Option.bind_some]
      cases hforecast : row.forecast? with
      | none => rfl
      | some g =>
        have hgives := Row.forecast?_eq_some_iff.1 hforecast
        exact absurd (hg.own cve (hbatch cve hcve) row g hrow hforecast) (hnone row hmem g hgives)

/-- A batch of the client is answered with forecasts of its own rows. -/
theorem GivesRows.settledBy_eq (hg : GivesRows url h row? cves) (hne : batch ≠ []) (hnodup : batch.Nodup)
    (hlength : batch.length ≤ batchSize) (hbatch : ∀ cve ∈ batch, cve ∈ cves) (hcve : cve ∈ batch) :
    settledBy url h batch cve = given row? cve ∧
      ∀ text, SavedBy url h batch cve text ↔ IsText (given row? cve) text := by
  obtain ⟨rows, hrows, hperm⟩ := hg.rows batch hne hnodup hlength hbatch
  have hanswers := answers_lookup rows cve
  rw [hg.eq_given hbatch hperm hcve hanswers] at hanswers
  refine ⟨settledBy_of_answers hrows hanswers, fun text => ⟨?_, fun htext => ⟨hcve, rows, _, hrows, hanswers, htext⟩⟩⟩
  rintro ⟨-, rows', f, hrows', hf, htext⟩
  rw [← settledBy_of_answers hrows' hf, settledBy_of_answers hrows hanswers] at htext
  exact htext

end Server

/-! ## What is reached -/

/-- What a vulnerability gets: what is known, or else what is fresh in the cache, or else what the server has. -/
def scoreFor (c : Client) (h : Host) (row? : String → Option Row) (cve : String) : Forecast :=
  ((c.known.lookup cve).or (freshFor h cve)).getD (given row? cve)

/-- What is known and kept when the vulnerabilities in `done` have been looked up, in whatever way, beginning with the
client `c` on the host `h`. -/
structure Reached (c : Client) (h : Host) (row? : String → Option Row) (done : List String) (c' : Client) (h' : Host) :
    Prop where
  url : c'.url = c.url
  network : SameNetwork h h'
  known : ∀ cve, c'.known.lookup cve = if cve ∈ done then some (scoreFor c h row? cve) else c.known.lookup cve
  wrote : Wrote (fun cve text => cve ∈ done ∧ Missing c h cve ∧ IsText (given row? cve) text) h h'

section Reached

variable {c c' : Client} {h h' : Host} {row? : String → Option Row} {cves done new : List String}

theorem Reached.start (c : Client) (h : Host) (row? : String → Option Row) : Reached c h row? [] c h :=
  ⟨rfl, ⟨rfl, rfl⟩, fun _ => rfl, (Wrote.nothing rfl rfl fun _ => rfl).congr fun _ _ => by simp⟩

theorem Reached.congr {done' : List String} (hr : Reached c h row? done c' h')
    (hdone : ∀ cve, cve ∈ done' ↔ cve ∈ done) : Reached c h row? done' c' h' := by
  refine ⟨hr.url, hr.network, fun cve => ?_, hr.wrote.congr fun cve text => ?_⟩
  · rw [hr.known, if_congr (hdone cve) rfl rfl]
  · rw [hdone]

/-- What has not been looked up yet is fresh in the cache as it was at the beginning. -/
theorem Reached.freshFor_eq (hr : Reached c h row? done c' h') {cve : String} (hcve : cve ∉ done) :
    freshFor h' cve = freshFor h cve := by
  have hkept : keptFor h' cve = keptFor h cve := hr.wrote.unwritten cve fun _ hnew => hcve hnew.1
  have hentry : entryFor h' cve = entryFor h cve := congrArg cached? hkept
  rw [freshFor, freshFor, hentry]

/-- What still has to be asked for had to be asked for at the beginning. -/
theorem Reached.missing_iff (hr : Reached c h row? done c' h') (cve : String) :
    Missing c' h' cve ↔ cve ∉ done ∧ Missing c h cve := by
  unfold Missing
  rw [hr.known]
  by_cases hcve : cve ∈ done
  · rw [if_pos hcve]
    exact iff_of_false (fun h => nomatch h.1) fun h => h.1 hcve
  · rw [if_neg hcve, hr.freshFor_eq hcve]
    exact (and_iff_right hcve).symm

theorem scoreFor_of_missing {cve : String} (hmissing : Missing c h cve) : scoreFor c h row? cve = given row? cve := by
  rw [scoreFor, hmissing.1, hmissing.2]
  rfl

theorem or_eq_scoreFor {cve : String} (hnot : ¬ Missing c h cve) :
    (c.known.lookup cve).or (freshFor h cve) = some (scoreFor c h row? cve) := by
  unfold scoreFor
  cases hfound : (c.known.lookup cve).or (freshFor h cve) with
  | some f => rfl
  | none => exact absurd (Option.or_eq_none_iff.1 hfound) hnot

/-- **Looking up more vulnerabilities.** -/
theorem Reached.fetchCanonical (hr : Reached c h row? done c' h') (hg : GivesRows c.url h row? cves)
    (hnodup : new.Nodup) (hnew : ∀ cve ∈ new, cve ∈ cves) :
    Reached c h row? (done ++ new) (c'.fetchCanonical new h').1.2 (c'.fetchCanonical new h').2 := by
  obtain ⟨x, hlooked, hurl, hsettled, -⟩ := settled_fetchCanonical c' h' hnodup rfl
  generalize hbatches : Listing.portions (batchSize - 1) (new.filter (Missing c' h')) = batches at hsettled
  have hflatten : batches.flatten = new.filter (Missing c' h') := by rw [← hbatches, Listing.flatten_portions]
  have hmem (cve : String) : cve ∈ batches.flatten ↔ cve ∈ new ∧ cve ∉ done ∧ Missing c h cve := by
    rw [hflatten, List.mem_filter, decide_eq_true_eq, hr.missing_iff]
  have hgiven {batch : List String} (hbatch : batch ∈ batches) {cve : String} (hcve : cve ∈ batch) :
      settledBy x.1.url h' batch cve = given row? cve ∧
        ∀ text, SavedBy x.1.url h' batch cve text ↔ IsText (given row? cve) text := by
    have hportion : batch ∈ Listing.portions (batchSize - 1) (new.filter (Missing c' h')) := hbatches ▸ hbatch
    have hsub : batch.Sublist batches.flatten := List.sublist_flatten_of_mem hbatch
    rw [hurl, hr.url]
    refine (hg.congr hr.network).settledBy_eq (Listing.ne_nil_of_mem_portions hportion) ?_
      (Listing.length_le_of_mem_portions hportion) (fun cve hcve => ?_) hcve
    · exact hsub.nodup (hflatten ▸ hnodup.filter _)
    · exact hnew cve ((hmem cve).1 (hsub.mem hcve)).1
  refine ⟨hsettled.url.trans (hurl.trans hr.url), hr.network.trans hsettled.network, fun cve => ?_, ?_⟩
  · by_cases hin : cve ∈ batches.flatten
    · obtain ⟨batch, hbatch, hcve⟩ := List.mem_flatten.1 hin
      obtain ⟨hcvenew, -, hmissing⟩ := (hmem cve).1 hin
      rw [hsettled.learnt batch hbatch cve hcve, (hgiven hbatch hcve).1, if_pos (List.mem_append_right _ hcvenew),
        scoreFor_of_missing hmissing]
    · rw [hsettled.others cve hin, hlooked.known, hr.known]
      by_cases hdone : cve ∈ done
      · rw [if_pos hdone, if_pos (List.mem_append_left _ hdone)]
        rfl
      · rw [if_neg hdone]
        by_cases hcvenew : cve ∈ new
        · rw [if_pos hcvenew, if_pos (List.mem_append_right _ hcvenew), hr.freshFor_eq hdone]
          exact or_eq_scoreFor fun hmissing => hin ((hmem cve).2 ⟨hcvenew, hdone, hmissing⟩)
        · rw [if_neg hcvenew, Option.or_none, if_neg fun hmem => (List.mem_append.1 hmem).elim hdone hcvenew]
  · have hsaved (cve text : String) : Saved x.1.url h' batches cve text ↔
        cve ∈ batches.flatten ∧ IsText (given row? cve) text := by
      constructor
      · rintro ⟨batch, hbatch, hsaved⟩
        exact ⟨List.mem_flatten_of_mem hbatch hsaved.1, ((hgiven hbatch hsaved.1).2 text).1 hsaved⟩
      · rintro ⟨hin, htext⟩
        obtain ⟨batch, hbatch, hcve⟩ := List.mem_flatten.1 hin
        exact ⟨batch, hbatch, ((hgiven hbatch hcve).2 text).2 htext⟩
    refine (hr.wrote.trans hsettled.wrote ?_).congr fun cve text => ?_
    · rintro cve text text' ⟨hdone, -⟩ ⟨batch, hbatch, hcve, -⟩
      exact absurd hdone ((hmem cve).1 (List.mem_flatten_of_mem hbatch hcve)).2.1
    · rw [hsaved, hmem, List.mem_append]
      -- A vulnerability that was looked up before is written already.
      tauto

/-- **Looking up more vulnerabilities together.** -/
theorem Reached.fetch (hr : Reached c h row? done c' h') (hg : GivesRows c.url h row? cves) {ids : List String}
    (hids : ids.mapM Cve.validate = .ok new) (hnew : ∀ cve ∈ new, cve ∈ cves) :
    Reached c h row? (done ++ new) (c'.fetch ids h').1.2 (c'.fetch ids h').2 ∧
      (c'.fetch ids h').1.1 = .ok ((Listing.distinct new).map fun cve => (cve, scoreFor c h row? cve)) := by
  have hfetch : c'.fetch ids h' =
      ((.ok (c'.fetchCanonical (Listing.distinct new) h').1.1, (c'.fetchCanonical (Listing.distinct new) h').1.2),
        (c'.fetchCanonical (Listing.distinct new) h').2) := by
    unfold Client.fetch
    rw [hids]
    rfl
  have htold : (c'.fetchCanonical (Listing.distinct new) h').1.1 = (Listing.distinct new).map fun cve =>
      (cve, ((c'.fetchCanonical (Listing.distinct new) h').1.2.known.lookup cve).getD {}) := rfl
  have hreached := hr.fetchCanonical hg (Listing.nodup_distinct new) fun cve hcve =>
    hnew cve (Listing.mem_distinct.1 hcve)
  rw [hfetch, htold]
  refine ⟨hreached.congr fun cve => ?_, congrArg Except.ok (List.map_congr_left fun cve hcve => ?_)⟩
  · rw [List.mem_append, List.mem_append, Listing.mem_distinct]
  · rw [hreached.known, if_pos (List.mem_append_right _ hcve)]
    rfl

/-- What the cache keeps for a vulnerability, and from when. -/
def recordFor (h : Host) (cve : String) : Option (String × Time.Instant) :=
  (keptFor h cve).map fun e => (e.payload, e.fetchedAt)

theorem keptFor_of_off (hoff : h.cache.isSome = false) (cve : String) : keptFor h cve = none := by
  rw [Option.isSome_eq_false_iff, Option.isNone_iff_eq_none] at hoff
  simp only [keptFor, Host.bucket, hoff]

/-- The cache keeps the same, in whatever way the vulnerabilities were looked up. -/
theorem Reached.recordFor_eq {c₁ c₂ : Client} {h₁ h₂ : Host} (hr₁ : Reached c h row? done c₁ h₁)
    (hr₂ : Reached c h row? done c₂ h₂) (cve : String) : recordFor h₁ cve = recordFor h₂ cve := by
  unfold recordFor
  by_cases hnew : ∃ text, cve ∈ done ∧ Missing c h cve ∧ IsText (given row? cve) text
  · obtain ⟨text, hnew⟩ := hnew
    cases hon : h.cache.isSome with
    | true =>
      obtain ⟨e₁, he₁, rfl, hnow₁⟩ := hr₁.wrote.written hon cve text hnew
      obtain ⟨e₂, he₂, hpayload, hnow₂⟩ := hr₂.wrote.written hon cve _ hnew
      rw [he₁, he₂, Option.map_some, Option.map_some, hpayload, hnow₁, hnow₂]
    | false =>
      rw [keptFor_of_off (hr₁.wrote.on.trans hon), keptFor_of_off (hr₂.wrote.on.trans hon)]
  · rw [hr₁.wrote.unwritten cve (not_exists.1 hnew), hr₂.wrote.unwritten cve (not_exists.1 hnew)]

end Reached

/-! ## What a finding gets -/

/-- A vulnerability gets its forecast from all that were fetched together. -/
theorem among_distinct (f : String → Forecast) {cve : String} {cves : List String} (hcve : cve ∈ cves) :
    among ((Listing.distinct cves).map fun cve => (cve, f cve)) (some cve) = f cve := by
  rw [among, Option.bind_some, Keyed.lookup_map_self f (Listing.mem_distinct.2 hcve), Option.getD_some]

theorem validate_of_resolveCve? {f : Finding} {cve : String} (h : f.resolveCve? = some cve) :
    Cve.validate cve = .ok cve := by
  obtain ⟨s, -, hs⟩ := List.exists_of_findSome?_eq_some h
  exact eq_ok_of_toOption (Cve.canonical?_canonical hs)

theorem mapM_validate_resolved (fs : List Finding) :
    (fs.filterMap Finding.resolveCve?).mapM Cve.validate = .ok (fs.filterMap Finding.resolveCve?) := by
  refine mapM_eq_ok_iff.2 (List.forall₂_same.2 fun cve hcve => ?_)
  obtain ⟨f, -, hf⟩ := List.mem_filterMap.1 hcve
  exact validate_of_resolveCve? hf

theorem mapM_validate_singleton {id cve : String} (h : Cve.validate id = .ok cve) :
    [id].mapM Cve.validate = .ok [cve] :=
  mapM_eq_ok_iff.2 (.cons h .nil)

section Findings

variable {c c' : Client} {h h' : Host} {row? : String → Option Row} {cves done : List String}

/-- **Looking up one vulnerability for a finding.** -/
theorem Reached.contribute (hr : Reached c h row? done c' h') (hg : GivesRows c.url h row? cves) {f : Finding}
    {cve : String} (hf : Cve.validate f.cve = .ok cve) (hcve : cve ∈ cves) :
    Reached c h row? (done ++ [cve]) (c'.contribute f h').1.2 (c'.contribute f h').2 ∧
      (c'.contribute f h').1.1 = .ok (apply (scoreFor c h row? cve)) := by
  obtain ⟨hreached, htold⟩ := hr.fetch hg (mapM_validate_singleton hf) (List.forall_mem_singleton.2 hcve)
  have hcanonical : Cve.canonical? f.cve = some cve := by rw [Cve.canonical?, hf]; rfl
  simp only [Client.contribute, bind_apply, pure_apply]
  refine ⟨hreached, ?_⟩
  rw [htold, hcanonical]
  exact congrArg (fun s => Except.ok (apply s)) (among_distinct _ List.mem_cons_self)

/-- **Looking up the vulnerabilities of several findings.** -/
theorem Reached.enrich (hr : Reached c h row? done c' h') (hg : GivesRows c.url h row? cves) {fs : List Finding}
    (hfs : ∀ cve ∈ fs.filterMap Finding.resolveCve?, cve ∈ cves) :
    Reached c h row? (done ++ fs.filterMap Finding.resolveCve?) (c'.enrich fs h').1.2 (c'.enrich fs h').2 ∧
      (c'.enrich fs h').1.1 = .ok (fs.map fun f =>
        match f.resolveCve? with
        | none => f
        | some cve => apply (scoreFor c h row? cve) f) := by
  obtain ⟨hreached, htold⟩ := hr.fetch hg (mapM_validate_resolved fs) hfs
  simp only [Client.enrich, bind_apply, pure_apply]
  refine ⟨hreached, ?_⟩
  rw [htold]
  refine congrArg Except.ok (List.map_congr_left fun f hf => ?_)
  cases hcve : f.resolveCve? with
  | none => rfl
  | some cve => exact congrArg (apply · f) (among_distinct _ (List.mem_filterMap.2 ⟨f, hf, hcve⟩))

end Findings

/-! ## Runs -/

/-- The vulnerabilities in `done` have been looked up one call after the other, beginning with the client `c` on the
host `h`: together, for one finding, or for several. -/
inductive Run (c : Client) (h : Host) : List String → Client → Host → Prop
  | start : Run c h [] c h
  | fetch {done new ids : List String} {c' : Client} {h' : Host} (hrun : Run c h done c' h')
      (hids : ids.mapM Cve.validate = .ok new) : Run c h (done ++ new) (c'.fetch ids h').1.2 (c'.fetch ids h').2
  | contribute {done : List String} {c' : Client} {h' : Host} {f : Finding} {cve : String} (hrun : Run c h done c' h')
      (hf : Cve.validate f.cve = .ok cve) : Run c h (done ++ [cve]) (c'.contribute f h').1.2 (c'.contribute f h').2
  | enrich {done : List String} {c' : Client} {h' : Host} (hrun : Run c h done c' h') (fs : List Finding) :
      Run c h (done ++ fs.filterMap Finding.resolveCve?) (c'.enrich fs h').1.2 (c'.enrich fs h').2

/-- **What a run reaches** depends on nothing but the vulnerabilities that were looked up. -/
theorem Run.reached {c c' : Client} {h h' : Host} {row? : String → Option Row} {cves done : List String}
    (hg : GivesRows c.url h row? cves) (hrun : Run c h done c' h') (hdone : ∀ cve ∈ done, cve ∈ cves) :
    Reached c h row? done c' h' := by
  induction hrun with
  | start => exact .start c h row?
  | fetch _ hids ih =>
    obtain ⟨hdone, hnew⟩ := List.forall_mem_append.1 hdone
    exact ((ih hdone).fetch hg hids hnew).1
  | contribute _ hf ih =>
    obtain ⟨hdone, hcve⟩ := List.forall_mem_append.1 hdone
    exact ((ih hdone).contribute hg hf (hcve _ List.mem_cons_self)).1
  | enrich _ fs ih =>
    obtain ⟨hdone, hfs⟩ := List.forall_mem_append.1 hdone
    exact ((ih hdone).enrich hg hfs).1

/-- **Forecasts together or singly.** If the server has a fixed row, or none, for each of the vulnerabilities, then each
of them gets the same forecast whenever and however it is looked up; runs that look up the same vulnerabilities leave
the same in the client and in the cache; and findings that are enriched together get what each of them gets on its
own. -/
theorem forecasts_together_or_singly (c : Client) (h : Host) (row? : String → Option Row) (cves : List String)
    (hg : GivesRows c.url h row? cves) :
    (∀ done c' h', Run c h done c' h' → (∀ cve ∈ done, cve ∈ cves) →
      (∀ ids new, ids.mapM Cve.validate = .ok new → (∀ cve ∈ new, cve ∈ cves) → (c'.fetch ids h').1.1 =
        .ok ((Listing.distinct new).map fun cve => (cve, scoreFor c h row? cve))) ∧
      (∀ f cve, Cve.validate f.cve = .ok cve → cve ∈ cves →
        (c'.contribute f h').1.1 = .ok (apply (scoreFor c h row? cve))) ∧
      ∀ fs : List Finding, (∀ cve ∈ fs.filterMap Finding.resolveCve?, cve ∈ cves) →
        ∃ fs', (c'.enrich fs h').1.1 = .ok fs' ∧ List.Forall₂ (fun f f' =>
          match f.resolveCve? with
          | none => f' = f
          | some cve => ∃ change, (c'.contribute { f with cve } h').1.1 = .ok change ∧ f' = change f) fs fs') ∧
    ∀ done₁ done₂ c₁ c₂ h₁ h₂, Run c h done₁ c₁ h₁ → Run c h done₂ c₂ h₂ → (∀ cve ∈ done₁, cve ∈ cves) →
      (∀ cve, cve ∈ done₁ ↔ cve ∈ done₂) →
      (∀ cve, c₁.known.lookup cve = c₂.known.lookup cve) ∧ ∀ cve, recordFor h₁ cve = recordFor h₂ cve := by
  refine ⟨fun done c' h' hrun hdone => ?_, fun done₁ done₂ c₁ c₂ h₁ h₂ hrun₁ hrun₂ hdone hsame => ?_⟩
  · have hreached := hrun.reached hg hdone
    refine ⟨fun ids new hids hnew => (hreached.fetch hg hids hnew).2,
      fun f cve hf hcve => (hreached.contribute hg hf hcve).2, fun fs hfs => ⟨_, (hreached.enrich hg hfs).2, ?_⟩⟩
    rw [List.forall₂_map_right_iff]
    refine List.forall₂_same.2 fun f hf => ?_
    cases hcve : f.resolveCve? with
    | none => rfl
    | some cve =>
      have hmem : cve ∈ cves := hfs cve (List.mem_filterMap.2 ⟨f, hf, hcve⟩)
      have hchange := (hreached.contribute (f := { f with cve }) hg (validate_of_resolveCve? hcve) hmem).2
      exact ⟨_, hchange, rfl⟩
  · have hreached₁ := hrun₁.reached hg hdone
    have hreached₂ := (hrun₂.reached hg fun cve hcve => hdone cve ((hsame cve).2 hcve)).congr hsame
    refine ⟨fun cve => ?_, hreached₁.recordFor_eq hreached₂⟩
    rw [hreached₁.known, hreached₂.known]

def oneRow (cve : String) : Option Row :=
  if cve = "CVE-2024-0001" then some { cve := "cve-2024-0001", probability := "0.5", percentile := "0.9" } else none

/-- A host with a server that has the row. -/
def oneRowHost : Host where
  now := ⟨0⟩
  cache := some (Cache.Manager.create "c" none)
  network r :=
    .answered 200 (if r.url = defaultUrl ++ "?cve=CVE-2024-0002" then "\x7b\"data\":[]\x7d" else
      "\x7b\"data\":[\x7b\"cve\":\"cve-2024-0001\",\"epss\":\"0.5\",\"percentile\":\"0.9\"\x7d]\x7d") none

theorem givesRows_oneRow : GivesRows defaultUrl oneRowHost oneRow ["CVE-2024-0001", "CVE-2024-0002"] where
  own cve hcve row f hrow hf := by
    unfold oneRow at hrow
    split at hrow
    · rename_i heq
      cases hrow
      simp only [Row.forecast?, Option.bind_eq_bind, Option.bind_eq_some_iff] at hf
      obtain ⟨cve', hcve', p, -, q, -, hf⟩ := hf
      cases hf
      have hcanonical : Cve.canonical? "cve-2024-0001" = some "CVE-2024-0001" := by decide +kernel
      rw [heq]
      exact Option.some.inj (hcve'.symm.trans hcanonical)
    · cases hrow
  rows batch hne hnodup _ hbatch := by
    have hrows {batch : List String} (hbatch : ((responseFor defaultUrl oneRowHost batch).toOption.bind fun body =>
        (Json.decodeText Response.decoder {} body).toOption.map (·.rows)) = some (batch.filterMap oneRow)) :
        ∃ rows, RowsFor defaultUrl oneRowHost batch rows ∧ rows.Perm (batch.filterMap oneRow) := by
      obtain ⟨body, hbody, hmap⟩ := Option.bind_eq_some_iff.1 hbatch
      obtain ⟨response, hresponse, heq⟩ := Option.map_eq_some_iff.1 hmap
      exact ⟨_, ⟨body, response, eq_ok_of_toOption hbody, eq_ok_of_toOption hresponse, heq⟩, .refl _⟩
    have hlength : batch.length ≤ 2 := (List.subperm_of_subset hnodup hbatch).length_le
    obtain _ | ⟨a, _ | ⟨b, _ | ⟨d, batch⟩⟩⟩ := batch
    · exact absurd rfl hne
    · obtain rfl | rfl : a = "CVE-2024-0001" ∨ a = "CVE-2024-0002" := by simpa using hbatch
      · exact hrows (by decide +kernel)
      · exact hrows (by decide +kernel)
    · obtain ⟨rfl | rfl, rfl | rfl⟩ : (a = "CVE-2024-0001" ∨ a = "CVE-2024-0002") ∧
          (b = "CVE-2024-0001" ∨ b = "CVE-2024-0002") := by simpa using hbatch
      · exact absurd hnodup (by decide)
      · exact hrows (by decide +kernel)
      · exact hrows (by decide +kernel)
      · exact absurd hnodup (by decide)
    · exact absurd hlength (by simp)

/-- Two vulnerabilities are looked up together, and one after the other in different case. -/
theorem forecasts_together_or_singly_two :
    GivesRows defaultUrl oneRowHost oneRow ["CVE-2024-0001", "CVE-2024-0002"] ∧
      ∀ cve, (({} : Client).fetch ["CVE-2024-0001", "CVE-2024-0002"] oneRowHost).1.2.known.lookup cve =
        ((({} : Client).contribute { cve := "cve-2024-0002" } oneRowHost).1.2.contribute { cve := "CVE-2024-0001" }
          (({} : Client).contribute { cve := "cve-2024-0002" } oneRowHost).2).1.2.known.lookup cve := by
  refine ⟨givesRows_oneRow, ?_⟩
  have hboth : ["CVE-2024-0001", "CVE-2024-0002"].mapM Cve.validate = .ok ["CVE-2024-0001", "CVE-2024-0002"] := by
    decide +kernel
  have hone : Cve.validate ({ cve := "CVE-2024-0001" } : Finding).cve = .ok "CVE-2024-0001" := by decide +kernel
  have hother : Cve.validate ({ cve := "cve-2024-0002" } : Finding).cve = .ok "CVE-2024-0002" := by decide +kernel
  have hstart : Run {} oneRowHost [] {} oneRowHost := .start
  refine ((forecasts_together_or_singly {} oneRowHost oneRow _ givesRows_oneRow).2 _ _ _ _ _ _ (hstart.fetch hboth)
    ((hstart.contribute hother).contribute hone) (fun _ hcve => hcve) fun cve => ?_).1
  simp [or_comm]

end Triage.Forecasts
