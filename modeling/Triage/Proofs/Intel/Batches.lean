import Triage.Proofs.Cve
import Triage.Proofs.Finding.RoundTrip
import Triage.Proofs.Host.Address
import Triage.Proofs.Intel.ForecastRange

/-!
# Forecasts in batches

What the client of the forecasts asks for, what each vulnerability gets and what the cache keeps. The vulnerabilities
that are neither known nor fresh in the cache are asked for in batches (`InBatches`); each of them gets what comes of
the request for its own batch (`Gets`), and the cache keeps what came of the requests that succeeded (`Saved`,
`Wrote`). Of the rows of a response the last one that gives a forecast for a vulnerability counts (`Row.Gives`,
`Answers`). Main statement: `fetch_in_batches`.
-/
namespace Triage.Forecasts

/-! ## Requests -/

theorem plain_of_isCanonical {cs : List Char} (h : Cve.isCanonical cs = true) : Url.Plain cs := by
  refine Cve.forall_mem_of_isCanonical h (by decide) fun c hc => ?_
  obtain ⟨hlow, hhigh⟩ := Cve.range_of_isDigit hc
  refine ⟨?_, ?_, by omega, by omega⟩
  · rintro rfl
    exact absurd hlow (by decide)
  · rintro rfl
    exact absurd hlow (by decide)

/-- The identifiers of a batch stand in the query as they are. -/
theorem plain_join {batch : List String} (h : ∀ cve ∈ batch, Cve.isCanonical cve.toList = true) :
    Url.Plain ("cve=" ++ Text.join "," batch).toList := by
  have hjoin : Url.Plain (Text.join "," batch).toList := by
    induction batch with
    | nil => exact List.forall_mem_nil _
    | cons cve batch ih =>
      obtain ⟨hcve, hbatch⟩ := List.forall_mem_cons.1 h
      cases batch with
      | nil =>
        rw [Text.join, String.intercalate_singleton]
        exact plain_of_isCanonical hcve
      | cons next batch =>
        rw [Text.join, String.intercalate_cons_cons, String.toList_append, String.toList_append]
        refine List.forall_mem_append.2 ⟨List.forall_mem_append.2 ⟨plain_of_isCanonical hcve, ?_⟩, ih hbatch⟩
        exact List.forall_mem_singleton.2 (by decide)
  have hlead : Url.Plain ['c', 'v', 'e', '='] := by
    simp only [Url.Plain, List.forall_mem_cons]
    exact ⟨by decide, by decide, by decide, by decide, List.forall_mem_nil _⟩
  rw [String.toList_append]
  exact List.forall_mem_append.2 ⟨hlead, hjoin⟩

/-- **A request goes out** for a batch if the address of the client can be read, whatever is in the batch. -/
theorem isSome_request?_iff {url : String} {batch : List String}
    (h : ∀ cve ∈ batch, Cve.isCanonical cve.toList = true) :
    (request? url batch).isSome = true ↔ ∃ u, Url.parse url = .ok u := by
  have hquery := Url.isOk_parse_query url (plain_join h)
  have haddress : url ++ "?" ++ ("cve=" ++ Text.join "," batch) = url ++ "?cve=" ++ Text.join "," batch := by
    have hlead : url ++ "?cve=" = url ++ "?" ++ "cve=" := by rw [String.append_assoc]; rfl
    rw [hlead, ← String.append_assoc]
  rw [haddress] at hquery
  unfold request? Host.requestFor?
  cases hparse : Url.parse (url ++ "?cve=" ++ Text.join "," batch) <;> cases hurl : Url.parse url
  · simp
  · rw [hparse, hurl] at hquery; cases hquery
  · rw [hparse, hurl] at hquery; cases hquery
  · simp

/-! ## Rows of a response -/

/-- What some rows say about a vulnerability: the forecast of the last row that gives one for it, or a blank one. -/
inductive Answers (rows : List Row) (cve : String) : Forecast → Prop
  | row {front back : List Row} {row : Row} {f : Forecast} (hrows : rows = front ++ row :: back)
      (hf : row.Gives f) (hcve : f.cve = cve) (hlast : ∀ r ∈ back, ∀ g, r.Gives g → g.cve ≠ cve) : Answers rows cve f
  | none (hnone : ∀ r ∈ rows, ∀ g, r.Gives g → g.cve ≠ cve) : Answers rows cve { cve }

theorem ofRows_append (rows : List Row) (row : Row) : ofRows (rows ++ [row]) =
    match row.forecast? with
    | some f => Keyed.insert f.cve f (ofRows rows)
    | none => ofRows rows := by
  unfold ofRows Keyed.ofList
  cases hf : row.forecast? <;> simp [hf]

/-- Rows that give no forecast for a vulnerability do not matter to it. -/
theorem lookup_ofRows_append {back : List Row} {cve : String}
    (h : ∀ r ∈ back, ∀ g, r.Gives g → g.cve ≠ cve) (rows : List Row) :
    (ofRows (rows ++ back)).lookup cve = (ofRows rows).lookup cve := by
  induction back using List.reverseRecOn with
  | nil => rw [List.append_nil]
  | append_singleton back row ih =>
    obtain ⟨hback, hrow⟩ := List.forall_mem_append.1 h
    rw [← List.append_assoc, ofRows_append]
    cases hf : row.forecast? with
    | none => exact ih hback
    | some f =>
      have hne : cve ≠ f.cve := Ne.symm (hrow row List.mem_cons_self f (Row.forecast?_eq_some_iff.1 hf))
      exact (Keyed.lookup_insert_of_ne _ _ _ _ hne).trans (ih hback)

theorem Answers.eq_lookup {rows : List Row} {cve : String} {f : Forecast} (h : Answers rows cve f) :
    f = ((ofRows rows).lookup cve).getD { cve } := by
  cases h with
  | @row front back row f hrows hf hcve hlast =>
    have hsplit : front ++ row :: back = (front ++ [row]) ++ back := by simp
    rw [hrows, hsplit, lookup_ofRows_append hlast, ofRows_append, Row.forecast?_eq_some_iff.2 hf]
    dsimp only
    rw [hcve, Keyed.lookup_insert_self, Option.getD_some]
  | none hnone =>
    rw [← List.nil_append rows, lookup_ofRows_append hnone]
    rfl

/-- **Of several rows for a vulnerability the last one counts.** -/
theorem answers_lookup (rows : List Row) (cve : String) :
    Answers rows cve (((ofRows rows).lookup cve).getD { cve }) := by
  induction rows using List.reverseRecOn with
  | nil => exact .none fun _ h => (nomatch h)
  | append_singleton rows row ih =>
    rw [ofRows_append]
    -- The last row gives a forecast for the vulnerability, or else the other rows decide.
    have hothers (hrow : ∀ g, row.Gives g → g.cve ≠ cve) :
        Answers (rows ++ [row]) cve (((ofRows rows).lookup cve).getD { cve }) := by
      generalize ((ofRows rows).lookup cve).getD { cve } = f at ih
      cases ih with
      | @row front back row' f hrows hf hcve hlast =>
        have hsplit : rows ++ [row] = front ++ row' :: (back ++ [row]) := by rw [hrows]; simp
        exact .row hsplit hf hcve (List.forall_mem_append.2 ⟨hlast, List.forall_mem_singleton.2 hrow⟩)
      | none hnone => exact .none (List.forall_mem_append.2 ⟨hnone, List.forall_mem_singleton.2 hrow⟩)
    cases hrow : row.forecast? with
    | none => exact hothers fun g hg => by rw [Row.forecast?_eq_some_iff.2 hg] at hrow; cases hrow
    | some f =>
      dsimp only
      by_cases hcve : f.cve = cve
      · have hsplit : rows ++ [row] = rows ++ row :: [] := rfl
        rw [hcve, Keyed.lookup_insert_self, Option.getD_some]
        exact .row hsplit (Row.forecast?_eq_some_iff.1 hrow) hcve fun _ h => (nomatch h)
      · rw [Keyed.lookup_insert_of_ne _ _ _ _ (Ne.symm hcve)]
        exact hothers fun g hg => by rw [Row.forecast?_eq_some_iff.2 hg] at hrow; cases hrow; exact hcve

/-- What rows say is neither old nor a failure. -/
theorem Answers.clean {rows : List Row} {cve : String} {f : Forecast} (h : Answers rows cve f) :
    f.error = "" ∧ f.stale = false := by
  cases h with
  | none => exact ⟨rfl, rfl⟩
  | row hrows hf => exact ⟨hf.clean, hf.fresh⟩

/-- The rows of the response to the request for a batch, if it succeeds. -/
def RowsFor (url : String) (h : Host) (batch : List String) (rows : List Row) : Prop :=
  ∃ body response, responseFor url h batch = .ok body ∧ Json.decodeText Response.decoder {} body = .ok response ∧
    response.rows = rows

theorem foundFor_eq_ok_iff {url : String} {h : Host} {batch : List String} {found : List (String × Forecast)} :
    foundFor url h batch = .ok found ↔ ∃ rows, RowsFor url h batch rows ∧ ofRows rows = found := by
  unfold foundFor RowsFor
  cases responseFor url h batch with
  | error e => simp
  | ok body =>
    dsimp only
    unfold decode
    cases hdecode : Json.decodeText Response.decoder {} body <;> simp [hdecode]

/-! ## Looking for vulnerabilities -/

/-- The vulnerability has to be asked for: it is not known, and not fresh in the cache. -/
def Missing (c : Client) (h : Host) (cve : String) : Prop := c.known.lookup cve = none ∧ freshFor h cve = none

instance (c : Client) (h : Host) (cve : String) : Decidable (Missing c h cve) :=
  inferInstanceAs (Decidable (_ ∧ _))

/-- What is known and what is to be asked for after looking for some vulnerabilities. -/
structure Looked (c : Client) (h : Host) (cves : List String) (x : Client × Wanted) : Prop where
  known : ∀ cve, x.1.known.lookup cve = (c.known.lookup cve).or (if cve ∈ cves then freshFor h cve else none)
  missing : x.2.cves = cves.filter (Missing c h)

/-- **Looking for one more vulnerability.** -/
theorem Looked.consult {c : Client} {h h' : Host} {cves : List String} {x : Client × Wanted} (hx : Looked c h cves x)
    (hentries : ∀ cve, entryFor h' cve = entryFor h cve) {cve : String} (hcve : cve ∉ cves) :
    Looked c h (cves ++ [cve]) (x.1.consult x.2 cve h').1 := by
  have hself : x.1.known.lookup cve = c.known.lookup cve := by rw [hx.known, if_neg hcve, Option.or_none]
  have hentry : cached? ((Host.bucket sourceName).load cve h').1 = entryFor h cve := hentries cve
  have hothers {other : String} (hne : other ≠ cve) : other ∈ cves ++ [cve] ↔ other ∈ cves := by simp [hne]
  have hmem : cve ∈ cves ++ [cve] := List.mem_append_right _ List.mem_cons_self
  -- Nothing is learnt: the vulnerability is known, or it is not fresh.
  have hkept (hnone : c.known.lookup cve = none → freshFor h cve = none) (other : String) :
      x.1.known.lookup other =
        (c.known.lookup other).or (if other ∈ cves ++ [cve] then freshFor h other else none) := by
    by_cases hne : other = cve
    · rw [hne, hself, if_pos hmem]
      cases hknown : c.known.lookup cve with
      | none => rw [hnone hknown]; rfl
      | some f => rfl
    · rw [hx.known, if_congr (hothers hne) rfl rfl]
  have hasked (hmissing : Missing c h cve) : x.2.cves ++ [cve] = (cves ++ [cve]).filter (Missing c h) := by
    rw [List.filter_append, hx.missing]
    simp [hmissing]
  have hpassed (hnot : ¬ Missing c h cve) : x.2.cves = (cves ++ [cve]).filter (Missing c h) := by
    rw [List.filter_append, hx.missing]
    simp [hnot]
  unfold Client.consult
  rw [hself]
  cases hknown : c.known.lookup cve with
  | some f =>
    have hsome : c.known.lookup cve ≠ none := by simp [hknown]
    exact ⟨hkept fun hnone => absurd hnone hsome, hpassed fun hmissing => hsome hmissing.1⟩
  | none =>
    rw [Option.isSome_none, if_neg Bool.false_ne_true, bind_apply, hentry]
    rcases hfor : entryFor h cve with _ | ⟨f, _ | _⟩
    · have hfresh : freshFor h cve = none := by simp [freshFor, hfor]
      exact ⟨hkept fun _ => hfresh, hasked ⟨hknown, hfresh⟩⟩
    · have hfresh : freshFor h cve = some f := by simp [freshFor, hfor]
      refine ⟨fun other => ?_, hpassed fun hmissing => ?_⟩
      · by_cases hne : other = cve
        · rw [hne, if_pos hmem, hknown, hfresh]
          exact Keyed.lookup_insert_self cve f x.1.known
        · rw [if_congr (hothers hne) rfl rfl, ← hx.known]
          exact Keyed.lookup_insert_of_ne cve other f x.1.known hne
      · rw [hmissing.2] at hfresh
        cases hfresh
    · have hfresh : freshFor h cve = none := by simp [freshFor, hfor]
      exact ⟨hkept fun _ => hfresh, hasked ⟨hknown, hfresh⟩⟩

theorem Looked.consultFrom {c : Client} {h h' : Host} {done cves : List String} {x : Client × Wanted}
    (hx : Looked c h done x) (hconsults : Client.Consults c h x h') (hnodup : (done ++ cves).Nodup) :
    Looked c h (done ++ cves) (Client.consultFrom x cves h').1 := by
  induction cves generalizing done x h' with
  | nil => rw [List.append_nil]; exact hx
  | cons cve cves ih =>
    have hcve : cve ∉ done := fun h =>
      (List.nodup_append.1 hnodup).2.2 cve h cve List.mem_cons_self rfl
    have hsplit : done ++ cve :: cves = (done ++ [cve]) ++ cves := by simp
    rw [hsplit] at hnodup ⊢
    rw [Client.consultFrom_cons]
    exact ih (hx.consult hconsults.entries hcve) (hconsults.consult cve) hnodup

/-! ## What the cache keeps -/

def keptFor (h : Host) (cve : String) : Option Cache.Entry := ((Host.bucket sourceName).load cve h).1

/-- The text that a forecast is kept as. -/
def IsText (f : Forecast) (text : String) : Prop := ∃ j, f.toJson? = some j ∧ j.compact = text

/-- The cache keeps the new texts, all from this moment, and for all other vulnerabilities what it kept before. -/
structure Wrote (new : String → String → Prop) (h h' : Host) : Prop where
  now : h'.now = h.now
  on : h'.cache.isSome = h.cache.isSome
  written : h.cache.isSome = true → ∀ cve text, new cve text →
    ∃ e, keptFor h' cve = some e ∧ e.payload = text ∧ e.fetchedAt = h.now
  unwritten : ∀ cve, (∀ text, ¬ new cve text) → keptFor h' cve = keptFor h cve

namespace Wrote

variable {new new' : String → String → Prop} {h h' h'' : Host}

theorem nothing (hnow : h'.now = h.now) (hon : h'.cache.isSome = h.cache.isSome)
    (hkept : ∀ cve, keptFor h' cve = keptFor h cve) : Wrote (fun _ _ => False) h h' :=
  ⟨hnow, hon, fun _ _ _ hnew => hnew.elim, fun cve _ => hkept cve⟩

theorem congr (hw : Wrote new h h') (hiff : ∀ cve text, new' cve text ↔ new cve text) : Wrote new' h h' := by
  obtain rfl : new' = new := funext fun cve => funext fun text => propext (hiff cve text)
  exact hw

/-- Texts that are kept one after the other, where no two differ about a vulnerability. -/
theorem trans (hw : Wrote new h h') (hw' : Wrote new' h' h'')
    (hagree : ∀ cve text text', new cve text → new' cve text' → text = text') :
    Wrote (fun cve text => new cve text ∨ new' cve text) h h'' where
  now := hw'.now.trans hw.now
  on := hw'.on.trans hw.on
  written hon cve text hnew := by
    have hlater (hnew' : new' cve text) : ∃ e, keptFor h'' cve = some e ∧ e.payload = text ∧ e.fetchedAt = h.now :=
      hw.now ▸ hw'.written (hw.on.trans hon) cve text hnew'
    rcases hnew with hnew | hnew'
    · by_cases hagain : ∃ text', new' cve text'
      · obtain ⟨text', hnew'⟩ := hagain
        exact hlater (hagree cve text text' hnew hnew' ▸ hnew')
      · rw [hw'.unwritten cve (not_exists.1 hagain)]
        exact hw.written hon cve text hnew
    · exact hlater hnew'
  unwritten cve hnot := by
    rw [hw'.unwritten cve fun text hnew => hnot text (.inr hnew),
      hw.unwritten cve fun text hnew => hnot text (.inl hnew)]

end Wrote

theorem wrote_load (cve : String) (h : Host) :
    Wrote (fun _ _ => False) h ((Host.bucket sourceName).load cve h).2 := by
  refine .nothing ?_ ?_ fun other => Cache.load_load other
  · simp only [Host.bucket]
    cases h.cache <;> rfl
  · simp only [Host.bucket]
    cases hc : h.cache <;> simp [hc]

theorem wrote_get (url : String) (h : Host) : Wrote (fun _ _ => False) h (Host.get url "" h).2 := by
  rw [Host.snd_get]
  refine .nothing rfl rfl fun cve => ?_
  simp only [keptFor, Host.bucket]
  cases h.cache <;> rfl

namespace Client

theorem wrote_consultFrom (x : Client × Wanted) (cves : List String) (h : Host) :
    Wrote (fun _ _ => False) h (consultFrom x cves h).2 := by
  induction cves generalizing x h with
  | nil => exact .nothing rfl rfl fun _ => rfl
  | cons cve cves ih =>
    have hstep : Wrote (fun _ _ => False) h (x.1.consult x.2 cve h).2 := by
      unfold consult
      split
      · exact .nothing rfl rfl fun _ => rfl
      · rw [bind_apply]
        rcases cached? ((Host.bucket sourceName).load cve h).1 with _ | ⟨s, _ | _⟩ <;> exact wrote_load cve h
    rw [consultFrom_cons]
    exact (hstep.trans (ih _ _) fun _ _ _ hnew => hnew.elim).congr fun _ _ => (or_self_iff).symm

theorem wrote_keep (c : Client) (cve : String) (f : Forecast) (h : Host) :
    Wrote (fun other text => other = cve ∧ IsText f text) h (c.keep cve f h).2 := by
  unfold keep IsText
  cases hj : f.toJson? with
  | none =>
    refine (Wrote.nothing rfl rfl fun _ => rfl).congr fun other text => ?_
    simp
  | some j =>
    have hvalid := Forecast.isValid_compact hj
    refine ⟨Cache.now_store _ _ _ h, ?_, fun hon other text hnew => ?_, fun other hnot => ?_⟩
    · simp only [bind_apply, Host.bucket]
      cases hc : h.cache <;> simp [hc, pure_apply]
    · obtain ⟨rfl, j', hj', rfl⟩ := hnew
      cases hj'
      obtain ⟨m, hm⟩ := Option.isSome_iff_exists.1 hon
      exact Cache.load_store_self hm hvalid
    · have hne : other ≠ cve := fun he => hnot j.compact ⟨he, j, rfl, rfl⟩
      exact Cache.load_store_of_ne hne

theorem wrote_foldlM_keep (batch : List String) (f : String → Forecast) (c : Client) (h : Host) :
    Wrote (fun cve text => cve ∈ batch ∧ IsText (f cve) text) h
      (batch.foldlM (fun c cve => c.keep cve (f cve)) c h).2 := by
  induction batch generalizing c h with
  | nil =>
    refine (Wrote.nothing rfl rfl fun _ => rfl).congr fun cve text => ?_
    simp
  | cons cve batch ih =>
    rw [List.foldlM_cons, bind_apply]
    refine ((wrote_keep c cve (f cve) h).trans (ih _ _) ?_).congr fun other text => ?_
    · rintro other text text' ⟨rfl, j, hj, rfl⟩ ⟨-, j', hj', rfl⟩
      rw [hj] at hj'
      cases hj'
      rfl
    · rw [List.mem_cons, or_and_right]
      refine or_congr_left (and_congr_right fun he => ?_)
      rw [he]

end Client

/-! ## Batches, one after the other -/

/-- What the cache keeps of a batch whose request succeeds: the forecasts that can be written. -/
def SavedBy (url : String) (h : Host) (batch : List String) (cve text : String) : Prop :=
  cve ∈ batch ∧ ∃ rows f, RowsFor url h batch rows ∧ Answers rows cve f ∧ IsText f text

/-- What the cache keeps of some batches. -/
def Saved (url : String) (h : Host) (batches : List (List String)) (cve text : String) : Prop :=
  ∃ batch ∈ batches, SavedBy url h batch cve text

namespace Client

theorem lookup_foldl_learn (batch : List String) (f : String → Forecast) (c : Client) (cve : String) :
    (batch.foldl (fun c cve => c.learn cve (f cve)) c).known.lookup cve =
      if cve ∈ batch then some (f cve) else c.known.lookup cve := by
  induction batch generalizing c with
  | nil => rfl
  | cons first batch ih =>
    rw [List.foldl_cons, ih]
    by_cases hmem : cve ∈ batch
    · rw [if_pos hmem, if_pos (List.mem_cons_of_mem _ hmem)]
    · rw [if_neg hmem]
      by_cases hfirst : cve = first
      · rw [hfirst, if_pos List.mem_cons_self]
        exact Keyed.lookup_insert_self _ _ _
      · rw [if_neg fun h => (List.mem_cons.1 h).elim hfirst hmem]
        exact Keyed.lookup_insert_of_ne _ _ _ _ hfirst

section Settle

variable {c : Client} {h h' : Host} {old : List (String × Forecast)} {batch : List String}

theorem request_fst (hnetwork : SameNetwork h h') : (c.request batch h').1 = foundFor c.url h batch := by
  rw [request_eq, foundFor, foundFor, responseFor_congr hnetwork]

/-- **A batch is settled**: each of its vulnerabilities gets what comes of the request, and no other gets anything. -/
theorem lookup_settle (hnetwork : SameNetwork h h') (hwanted : ∀ cve ∈ batch, WantedOn h old cve) (cve : String) :
    (settle old c batch h').1.known.lookup cve =
      if cve ∈ batch then some (settledBy c.url h batch cve) else c.known.lookup cve := by
  have hlearn (f : String → Forecast) (hf : ∀ cve ∈ batch, f cve = settledBy c.url h batch cve) :
      (batch.foldl (fun c cve => c.learn cve (f cve)) c).known.lookup cve =
        if cve ∈ batch then some (settledBy c.url h batch cve) else c.known.lookup cve := by
    rw [lookup_foldl_learn]
    by_cases hcve : cve ∈ batch
    · rw [if_pos hcve, if_pos hcve, hf cve hcve]
    · rw [if_neg hcve, if_neg hcve]
  unfold settle
  rw [bind_apply, request_fst hnetwork]
  cases hfound : foundFor c.url h batch with
  | error cause =>
    refine hlearn _ fun cve hcve => ?_
    simp only [fallback, settledBy, hfound, (hwanted cve hcve).old]
  | ok found =>
    dsimp only
    rw [(foldlM_keep_spec batch (fun cve => (found.lookup cve).getD { cve }) c _).1]
    refine hlearn _ fun cve hcve => ?_
    simp only [settledBy, hfound]

/-- **What the cache keeps of a batch.** -/
theorem wrote_settle (hnetwork : SameNetwork h h') (old : List (String × Forecast)) (c : Client)
    (batch : List String) : Wrote (SavedBy c.url h batch) h' (settle old c batch h').2 := by
  have hget : Wrote (fun _ _ => False) h' (c.request batch h').2 := by
    rw [request_eq]
    exact wrote_get _ h'
  unfold settle
  rw [bind_apply, request_fst hnetwork]
  cases hfound : foundFor c.url h batch with
  | error cause =>
    refine hget.congr fun cve text => iff_of_false ?_ id
    rintro ⟨-, rows, -, hrows, -⟩
    rw [foundFor_eq_ok_iff.2 ⟨rows, hrows, rfl⟩] at hfound
    cases hfound
  | ok found =>
    obtain ⟨rows, hrows, rfl⟩ := foundFor_eq_ok_iff.1 hfound
    have hkept := wrote_foldlM_keep batch (fun cve => ((ofRows rows).lookup cve).getD { cve }) c (c.request batch h').2
    refine (hget.trans hkept fun _ _ _ hnew => hnew.elim).congr fun cve text => ?_
    rw [false_or, SavedBy]
    refine and_congr_right fun _ => ⟨?_, fun htext => ⟨rows, _, hrows, answers_lookup rows cve, htext⟩⟩
    rintro ⟨rows', f, hrows', hf, htext⟩
    rw [foundFor_eq_ok_iff.2 ⟨rows', hrows', rfl⟩] at hfound
    rw [hf.eq_lookup, Except.ok.inj hfound] at htext
    exact htext

end Settle

end Client

/-- What is known and kept after some batches, beginning with the client `c` on the host `h`. -/
structure Settled (c : Client) (h : Host) (batches : List (List String)) (c' : Client) (h' : Host) : Prop where
  url : c'.url = c.url
  network : SameNetwork h h'
  learnt : ∀ batch ∈ batches, ∀ cve ∈ batch, c'.known.lookup cve = some (settledBy c.url h batch cve)
  others : ∀ cve, cve ∉ batches.flatten → c'.known.lookup cve = c.known.lookup cve
  wrote : Wrote (Saved c.url h batches) h h'

namespace Settled

variable {c c' : Client} {h h' : Host} {done batches : List (List String)} {old : List (String × Forecast)}

/-- **One more batch.** -/
theorem settle (hs : Settled c h done c' h') {batch : List String} (hwanted : ∀ cve ∈ batch, WantedOn h old cve)
    (hnew : ∀ cve ∈ batch, cve ∉ done.flatten) :
    Settled c h (done ++ [batch]) (Client.settle old c' batch h').1 (Client.settle old c' batch h').2 := by
  obtain ⟨hlearnt, hnetwork⟩ := Client.settle_learnt (.refl c' h) hs.network hwanted
  have hlookup := Client.lookup_settle (c := c') hs.network hwanted
  have hwrote := Client.wrote_settle hs.network old c' batch
  rw [hs.url] at hlookup hwrote
  refine ⟨hlearnt.url.trans hs.url, hnetwork, fun other hother cve hcve => ?_, fun cve hcve => ?_, ?_⟩
  · rw [hlookup]
    rcases List.mem_append.1 hother with hother | hother
    · rw [if_neg fun hmem => hnew cve hmem (List.mem_flatten_of_mem hother hcve)]
      exact hs.learnt other hother cve hcve
    · obtain rfl := List.mem_singleton.1 hother
      rw [if_pos hcve]
  · rw [List.flatten_append, List.mem_append, not_or] at hcve
    rw [hlookup, if_neg fun hmem => hcve.2 (by simpa using hmem)]
    exact hs.others cve hcve.1
  · refine (hs.wrote.trans hwrote ?_).congr fun cve text => ?_
    · rintro cve text text' ⟨other, hother, hcve, -⟩ ⟨hmem, -⟩
      exact absurd (List.mem_flatten_of_mem hother hcve) (hnew cve hmem)
    · simp only [Saved, List.mem_append, List.mem_singleton, or_and_right, exists_or, exists_eq_left]

theorem foldlM (hs : Settled c h done c' h') (hwanted : ∀ batch ∈ batches, ∀ cve ∈ batch, WantedOn h old cve)
    (hnodup : (done ++ batches).flatten.Nodup) :
    Settled c h (done ++ batches) (batches.foldlM (Client.settle old) c' h').1
      (batches.foldlM (Client.settle old) c' h').2 := by
  induction batches generalizing done c' h' with
  | nil => rw [List.append_nil]; exact hs
  | cons batch batches ih =>
    obtain ⟨hbatch, hbatches⟩ := List.forall_mem_cons.1 hwanted
    have hnew : ∀ cve ∈ batch, cve ∉ done.flatten := fun cve hcve hmem => by
      rw [List.flatten_append, List.flatten_cons] at hnodup
      exact (List.nodup_append.1 hnodup).2.2 cve hmem cve (List.mem_append_left _ hcve) rfl
    have hsplit : done ++ batch :: batches = (done ++ [batch]) ++ batches := by simp
    rw [hsplit] at hnodup ⊢
    rw [List.foldlM_cons, bind_apply]
    exact ih (hs.settle hbatch hnew) hbatches hnodup

end Settled

/-! ## What is fetched -/

/-- The vulnerabilities that have to be asked for in batches of a hundred, in the order in which they first occur. -/
structure InBatches (c : Client) (h : Host) (cves : List String) (batches : List (List String)) : Prop where
  mem_iff : ∀ cve, cve ∈ batches.flatten ↔ cve ∈ cves ∧ Missing c h cve
  inOrder : batches.flatten.Pairwise fun a b => cves.idxOf a < cves.idxOf b
  full : ∀ batch ∈ batches.dropLast, batch.length = 100
  last : ∀ batch ∈ batches.getLast?, 1 ≤ batch.length ∧ batch.length ≤ 100

/-- What a vulnerability gets: what is known, or else what is fresh in the cache, or else what comes of the request
for its batch. If that failed, it is the old forecast of the cache, or else a blank one with the failure. -/
inductive Gets (c : Client) (h : Host) (batches : List (List String)) (cve : String) : Forecast → Prop
  | known {f : Forecast} (hf : c.known.lookup cve = some f) : Gets c h batches cve f
  | fresh {f : Forecast} (hknown : c.known.lookup cve = none) (hf : freshFor h cve = some f) : Gets c h batches cve f
  | answered {batch : List String} {rows : List Row} {f : Forecast} (hbatch : batch ∈ batches) (hcve : cve ∈ batch)
      (hrows : RowsFor c.url h batch rows) (hf : Answers rows cve f) : Gets c h batches cve f
  | old {batch : List String} {cause : Failure} {f : Forecast} (hbatch : batch ∈ batches) (hcve : cve ∈ batch)
      (hcause : foundFor c.url h batch = .error cause) (hf : oldFor h cve = some f) : Gets c h batches cve f
  | failed {batch : List String} {cause : Failure} (hbatch : batch ∈ batches) (hcve : cve ∈ batch)
      (hcause : foundFor c.url h batch = .error cause) (hf : oldFor h cve = none) :
      Gets c h batches cve { cve, error := cause.message }

theorem gets_settledBy {c : Client} {h : Host} {batches : List (List String)} {batch : List String}
    (hbatch : batch ∈ batches) {cve : String} (hcve : cve ∈ batch) :
    Gets c h batches cve (settledBy c.url h batch cve) := by
  unfold settledBy
  cases hfound : foundFor c.url h batch with
  | ok found =>
    obtain ⟨rows, hrows, rfl⟩ := foundFor_eq_ok_iff.1 hfound
    exact .answered hbatch hcve hrows (answers_lookup rows cve)
  | error cause =>
    dsimp only
    cases hold : oldFor h cve with
    | some f => exact .old hbatch hcve hfound hold
    | none => exact .failed hbatch hcve hfound hold

/-- What comes of fetching the forecasts for some vulnerabilities. -/
structure FetchedInBatches (c : Client) (h : Host) (cves : List String) (batches : List (List String))
    (forecasts : List (String × Forecast)) (c' : Client) (h' : Host) : Prop where
  nodup : (forecasts.map (·.1)).Nodup
  mem_keys_iff : ∀ cve, cve ∈ forecasts.map (·.1) ↔ cve ∈ cves
  inBatches : InBatches c h cves batches
  gets : ∀ cve f, (cve, f) ∈ forecasts → Gets c h batches cve f
  known : ∀ cve f, (cve, f) ∈ forecasts → c'.known.lookup cve = some f
  others : ∀ cve, cve ∉ cves → c'.known.lookup cve = c.known.lookup cve
  /-- All batches are asked for one after the other, unless the address of the client cannot be read. -/
  sent : h'.sent = (batches.filterMap (request? c.url)).reverse ++ h.sent
  asked : ∀ batch ∈ batches, (request? c.url batch).isSome = true ↔ ∃ u, Url.parse c.url = .ok u
  wrote : Wrote (Saved c.url h batches) h h'
  saved : ∀ cve text, Saved c.url h batches cve text →
    ∃ f, (cve, f) ∈ forecasts ∧ IsText f text ∧ f.error = "" ∧ f.stale = false

theorem inBatches_portions (c : Client) (h : Host) (cves : List String) :
    InBatches c h cves (Listing.portions (batchSize - 1) ((Listing.distinct cves).filter (Missing c h))) := by
  obtain ⟨hfull, hlast⟩ := Listing.length_portions (batchSize - 1) ((Listing.distinct cves).filter (Missing c h))
  refine ⟨fun cve => ?_, ?_, hfull, hlast⟩
  · rw [Listing.flatten_portions, List.mem_filter, Listing.mem_distinct, decide_eq_true_eq]
  · rw [Listing.flatten_portions]
    exact (Listing.pairwise_distinct cves).filter _

theorem settledBy_of_answers {url : String} {h : Host} {batch : List String} {rows : List Row} {cve : String}
    {f : Forecast} (hrows : RowsFor url h batch rows) (hf : Answers rows cve f) : settledBy url h batch cve = f := by
  have hfound : foundFor url h batch = .ok (ofRows rows) := foundFor_eq_ok_iff.2 ⟨rows, hrows, rfl⟩
  simp only [settledBy, hfound]
  exact hf.eq_lookup.symm

/-- What is known in the end is what each vulnerability gets. -/
theorem exists_gets {c c₁ c' : Client} {h h' : Host} {cves : List String} {wanted : Wanted}
    {batches : List (List String)} (hlooked : Looked c h cves (c₁, wanted)) (hurl : c₁.url = c.url)
    (hbatches : ∀ cve, cve ∈ batches.flatten ↔ cve ∈ cves ∧ Missing c h cve)
    (hsettled : Settled c₁ h batches c' h') {cve : String} (hcve : cve ∈ cves) :
    ∃ f, c'.known.lookup cve = some f ∧ Gets c h batches cve f := by
  by_cases hmissing : Missing c h cve
  · obtain ⟨batch, hbatch, hmem⟩ := List.mem_flatten.1 ((hbatches cve).2 ⟨hcve, hmissing⟩)
    exact ⟨_, hsettled.learnt batch hbatch cve hmem, hurl ▸ gets_settledBy hbatch hmem⟩
  · have hkept := hsettled.others cve fun hmem => hmissing ((hbatches cve).1 hmem).2
    rw [hlooked.known, if_pos hcve] at hkept
    rw [hkept]
    cases hknown : c.known.lookup cve with
    | some f => exact ⟨f, rfl, .known hknown⟩
    | none =>
      obtain ⟨f, hf⟩ := Option.ne_none_iff_exists'.1 fun hfresh => hmissing ⟨hknown, hfresh⟩
      exact ⟨f, hf, .fresh hknown hf⟩

/-- **Distinct vulnerabilities** are looked for first, and then those that are missing are settled in batches. -/
theorem settled_fetchCanonical (c : Client) (h : Host) {cves : List String} (hnodup : cves.Nodup)
    {batches : List (List String)} (hbatches : Listing.portions (batchSize - 1) (cves.filter (Missing c h)) = batches) :
    ∃ x : Client × Wanted, Looked c h cves x ∧ x.1.url = c.url ∧
      Settled x.1 h batches (c.fetchCanonical cves h).1.2 (c.fetchCanonical cves h).2 ∧
      (c.fetchCanonical cves h).2.sent = (batches.filterMap (request? c.url)).reverse ++ h.sent := by
  have hbegin : Client.Consults c h (c, {}) h := ⟨.refl c h, nofun, nofun, ⟨rfl, rfl⟩, fun _ => rfl⟩
  have hnone : Looked c h [] (c, {}) := ⟨fun cve => by simp, rfl⟩
  have hconsults := hbegin.consultFrom cves
  have hlooked : Looked c h cves (Client.consultFrom (c, {}) cves h).1 := hnone.consultFrom hbegin hnodup
  have hsent := (Client.consultFrom_spec hnodup (c, {}) h).1
  have hwrote := Client.wrote_consultFrom (c, {}) cves h
  rw [Client.fetchCanonical_eq]
  generalize Client.consultFrom (c, {}) cves h = r at hconsults hlooked hsent hwrote ⊢
  obtain ⟨⟨c₁, wanted⟩, h₁⟩ := r
  dsimp only at hsent hwrote hconsults hlooked ⊢
  have hmissing : wanted.cves = cves.filter (Missing c h) := hlooked.missing
  have hflatten : batches.flatten = cves.filter (Missing c h) := by rw [← hbatches, Listing.flatten_portions]
  rw [hmissing, hbatches]
  have hflat : batches.flatten.Nodup := hflatten ▸ hnodup.filter _
  have hunknown : ∀ cve ∈ batches.flatten, c₁.known.lookup cve = none := fun cve hcve => by
    rw [hflatten, List.mem_filter, decide_eq_true_eq] at hcve
    rw [hlooked.known, hcve.2.1, hcve.2.2, ite_self]
    rfl
  have hwanted : ∀ batch ∈ batches, ∀ cve ∈ batch, WantedOn h wanted.old cve := fun batch hbatch cve hcve => by
    refine hconsults.wanted cve ?_
    rw [hmissing, ← hflatten]
    exact List.mem_flatten_of_mem hbatch hcve
  have hunsettled : Settled c₁ h [] c₁ h₁ := by
    refine ⟨rfl, hconsults.network, fun _ hb => (nomatch hb), fun _ _ => rfl, hwrote.congr fun cve text => ?_⟩
    exact iff_of_false (fun ⟨_, hb, _⟩ => nomatch hb) id
  have hurl : c₁.url = c.url := hconsults.learnt.url
  have hrequests := (Client.foldlM_settle_spec wanted.old hflat hunknown h₁).2
  rw [hurl, hsent] at hrequests
  exact ⟨(c₁, wanted), hlooked, hurl, hunsettled.foldlM hwanted hflat, hrequests⟩

/-- What is known in the end is told. -/
theorem fetchedInBatches_fetchCanonical (c : Client) (h : Host) {cves : List String}
    (hcanonical : ∀ cve ∈ cves, Cve.isCanonical cve.toList = true) :
    ∃ batches, FetchedInBatches c h cves batches (c.fetchCanonical (Listing.distinct cves) h).1.1
      (c.fetchCanonical (Listing.distinct cves) h).1.2 (c.fetchCanonical (Listing.distinct cves) h).2 := by
  have hbatches := inBatches_portions c h cves
  generalize heq : Listing.portions (batchSize - 1) ((Listing.distinct cves).filter (Missing c h)) = batches
    at hbatches
  have hdistinct := Listing.nodup_distinct cves
  obtain ⟨x, hlooked, hurl, hsettled, hsent⟩ := settled_fetchCanonical c h hdistinct heq
  have hmem (cve : String) : cve ∈ batches.flatten ↔ cve ∈ Listing.distinct cves ∧ Missing c h cve := by
    rw [hbatches.mem_iff, Listing.mem_distinct]
  have htold : (c.fetchCanonical (Listing.distinct cves) h).1.1 = (Listing.distinct cves).map fun cve =>
      (cve, ((c.fetchCanonical (Listing.distinct cves) h).1.2.known.lookup cve).getD {}) := rfl
  generalize c.fetchCanonical (Listing.distinct cves) h = s at hsettled hsent htold ⊢
  have hkeys : s.1.1.map (·.1) = Listing.distinct cves := by simp [htold, Function.comp_def]
  have hforecast {cve : String} {f : Forecast} (hf : (cve, f) ∈ s.1.1) :
      s.1.2.known.lookup cve = some f ∧ Gets c h batches cve f := by
    rw [htold] at hf
    obtain ⟨cve, hcve, heq⟩ := List.mem_map.1 hf
    obtain ⟨g, hknown, hgets⟩ := exists_gets hlooked hurl hmem hsettled hcve
    rw [hknown] at heq
    cases heq
    exact ⟨hknown, hgets⟩
  refine ⟨batches, ?_, fun cve => ?_, hbatches, fun cve f hf => (hforecast hf).2, fun cve f hf => (hforecast hf).1,
    fun cve hcve => ?_, hsent, fun batch hbatch => ?_, hurl ▸ hsettled.wrote, fun cve text hsaved => ?_⟩
  · rw [hkeys]
    exact hdistinct
  · rw [hkeys, Listing.mem_distinct]
  · have hnot : cve ∉ Listing.distinct cves := fun hmem => hcve (Listing.mem_distinct.1 hmem)
    rw [hsettled.others cve fun hflat => hnot ((hmem cve).1 hflat).1, hlooked.known, if_neg hnot, Option.or_none]
  · refine isSome_request?_iff fun cve hcve => hcanonical cve ?_
    exact ((hbatches.mem_iff cve).1 (List.mem_flatten_of_mem hbatch hcve)).1
  · obtain ⟨batch, hbatch, hcve, rows, f, hrows, hf, htext⟩ := hsaved
    have hknown := hsettled.learnt batch hbatch cve hcve
    rw [hurl, settledBy_of_answers hrows hf] at hknown
    have hmem := ((hmem cve).1 (List.mem_flatten_of_mem hbatch hcve)).1
    refine ⟨f, ?_, htext, hf.clean⟩
    rw [htold]
    exact List.mem_map.2 ⟨cve, hmem, by rw [hknown]; rfl⟩

end Triage.Forecasts
