import Triage.Intel.World
import Triage.Proofs.Cache.FetchThrough
import Triage.Proofs.Listing

/-!
# Asked once, answered alike

Two clients remember what came of their requests, good or bad, until they are reset: that of the catalog
has one attempt to load it, that of the forecasts has an entry for every vulnerability it was ever asked
for. What is remembered never changes (`Clients.Grows`), and all answers are read off it. So whatever
happens to the network, the cache and the clock between the calls, answers about a vulnerability are the
same each time, and nothing is requested twice.
-/
namespace Triage

/-! ## What is sent -/

namespace Host

/-- The request that goes out for an address, if the address can be read. -/
def requestFor? (url : String) : Option Request :=
  match Url.parse url with
  | .error _ => none
  | .ok u =>
    let u := u.withoutEmptyPort
    some { method := "GET", url := u.text, authorization := u.credentials, accept := "application/json", agent }

/-- Asking for something changes nothing but the list of the requests. -/
theorem snd_get (url : String) (h : Host) :
    (Host.get url "" h).2 = { h with sent := (requestFor? url).toList ++ h.sent } := by
  unfold Host.get requestFor?
  cases Url.parse url with
  | error e => rfl
  | ok u =>
    simp only [bind_apply, if_true, send]
    cases h.reply _ with
    | failed cause => rfl
    | answered code body broken =>
      dsimp only
      split
      · rfl
      · cases broken <;> rfl

/-- What comes of asking depends on the replies of the moment. -/
theorem fst_get_congr {h h' : Host} (hreply : ∀ r, h'.reply r = h.reply r) (url authorization : String) :
    (Host.get url authorization h').1 = (Host.get url authorization h).1 := by
  unfold Host.get
  cases Url.parse url with
  | error e => rfl
  | ok u =>
    simp only [bind_apply, send, hreply]
    cases h.reply _ with
    | failed cause => rfl
    | answered code body broken =>
      dsimp only
      split
      · rfl
      · cases broken <;> rfl

theorem sent_get (url : String) (h : Host) : (Host.get url "" h).2.sent = (requestFor? url).toList ++ h.sent :=
  congrArg Host.sent (snd_get url h)

variable (source key : String)

theorem sent_load (h : Host) : ((bucket source).load key h).2.sent = h.sent := by
  simp only [bucket]
  cases h.cache <;> rfl

theorem reply_load (h : Host) (r : Request) : ((bucket source).load key h).2.reply r = h.reply r := by
  simp only [bucket]
  cases h.cache <;> rfl

theorem sent_store (payload : String) (h : Host) :
    ((bucket source).store key payload h).2.sent = h.sent := by
  simp only [bucket]
  cases h.cache <;> rfl

end Host

/-! ## The catalog -/

namespace ExploitedCatalog

open Client

/-- What a client that has tried to load the catalog says about a vulnerability. -/
def verdict : Option (Except Failure Loaded) → String → ExploitedStatus
  | some (.ok loaded), cve => loaded.index.status loaded.stale cve
  | _, _ => { unknown := true }

namespace Client

variable (c : Client) (h : Host)

theorem sent_fetch : (c.fetch h).2.sent = (Host.requestFor? c.url).toList ++ h.sent :=
  Host.sent_get c.url h

/-- Loading the catalog takes one request at most. -/
theorem sent_attempt :
    ∃ requests, requests.length ≤ 1 ∧ (c.attempt h).2.sent = requests ++ h.sent := by
  have hone : (Host.requestFor? c.url).toList.length ≤ 1 := by cases Host.requestFor? c.url <;> simp
  have hattempt : (c.attempt h).2 =
      ((Host.bucket sourceName).resolve cacheKey c.fetch validate h).2 := by
    unfold attempt
    rw [bind_apply]
    cases ((Host.bucket sourceName).resolve cacheKey c.fetch validate h).1 <;> rfl
  have hfetch : (c.fetch ((Host.bucket sourceName).load cacheKey h).2).2.sent =
      (Host.requestFor? c.url).toList ++ h.sent := by
    rw [sent_fetch, Host.sent_load]
  rw [hattempt, Cache.resolve_eq]
  split
  · exact ⟨[], by simp, Host.sent_load _ _ _⟩
  · refine ⟨_, hone, ?_⟩
    split
    · rw [Host.sent_store]
      exact hfetch
    · split <;> exact hfetch

/-- **One attempt for all**: what came of loading the catalog is remembered, and while it is, nothing is
sent. -/
theorem load_spec :
    (c.load h).1.2 = { c with loaded := some (c.load h).1.1 } ∧
      (c.loaded = some (c.load h).1.1 ∧ (c.load h).2.sent = h.sent ∨
        c.loaded = none ∧ ∃ requests, requests.length ≤ 1 ∧ (c.load h).2.sent = requests ++ h.sent) := by
  unfold load
  cases hl : c.loaded with
  | some result =>
    obtain ⟨url, loaded⟩ := c
    cases hl
    exact ⟨rfl, .inl ⟨rfl, rfl⟩⟩
  | none => exact ⟨rfl, .inr ⟨rfl, sent_attempt c h⟩⟩

theorem lookup_eq (id : String) :
    c.lookup id h =
      match Cve.validate id with
      | .error e => ((.error e, c), h)
      | .ok cve => ((.ok (verdict (some (c.load h).1.1) cve), (c.load h).1.2), (c.load h).2) := by
  unfold lookup
  cases Cve.validate id with
  | error e => rfl
  | ok cve =>
    dsimp only
    rw [bind_apply]
    rcases c.load h with ⟨⟨_ | _, c'⟩, h'⟩ <;> rfl

end Client

end ExploitedCatalog

/-! ## Forecasts -/

namespace Forecasts

def request? (url : String) (batch : List String) : Option Request :=
  Host.requestFor? (url ++ "?cve=" ++ Text.join "," batch)

/-- `c'` knows what `c` knows, and `new` as well. -/
structure Learnt (c c' : Client) (new : List String) : Prop where
  url : c'.url = c.url
  kept : ∀ cve s, c.known.lookup cve = some s → c'.known.lookup cve = some s
  isSome_iff : ∀ cve, (c'.known.lookup cve).isSome ↔ (c.known.lookup cve).isSome ∨ cve ∈ new

namespace Learnt

variable {c c' c'' : Client} {new new' : List String}

theorem refl (c : Client) : Learnt c c [] := ⟨rfl, fun _ _ h => h, by simp⟩

theorem trans (h : Learnt c c' new) (h' : Learnt c' c'' new') : Learnt c c'' (new ++ new') where
  url := h'.url.trans h.url
  kept cve s hs := h'.kept cve s (h.kept cve s hs)
  isSome_iff cve := by rw [h'.isSome_iff, h.isSome_iff, List.mem_append, or_assoc]

theorem of_learn {cve : String} (h : c.known.lookup cve = none) (s : Forecast) :
    Learnt c (c.learn cve s) [cve] where
  url := rfl
  kept other t ht := by
    have hne : other ≠ cve := fun he => by rw [he, h] at ht; cases ht
    rw [Client.learn, Keyed.lookup_insert_of_ne _ _ _ _ hne]
    exact ht
  isSome_iff other := by
    by_cases he : other = cve
    · subst he
      simp [Client.learn, Keyed.lookup_insert_self]
    · simp [Client.learn, Keyed.lookup_insert_of_ne _ _ _ _ he, he]

/-- What is not learnt stays unknown. -/
theorem eq_none (h : Learnt c c' new) {cve : String} (hc : c.known.lookup cve = none) (hnew : cve ∉ new) :
    c'.known.lookup cve = none := by
  rw [← Option.not_isSome_iff_eq_none, h.isSome_iff, not_or]
  exact ⟨by simp [hc], hnew⟩

end Learnt

namespace Client

/-- Looking for a vulnerability finds it in the run, or in the cache, or leaves it to be asked for. -/
theorem consult_spec (c : Client) (wanted : Wanted) (cve : String) (h : Host) :
    (c.consult wanted cve h).2.sent = h.sent ∧
      ((c.known.lookup cve).isSome ∧ (c.consult wanted cve h).1.1 = c ∧
          (c.consult wanted cve h).1.2.cves = wanted.cves ∨
        c.known.lookup cve = none ∧ Learnt c (c.consult wanted cve h).1.1 [cve] ∧
          (c.consult wanted cve h).1.2.cves = wanted.cves ∨
        c.known.lookup cve = none ∧ (c.consult wanted cve h).1.1 = c ∧
          (c.consult wanted cve h).1.2.cves = wanted.cves ++ [cve]) := by
  unfold consult
  split
  · rename_i hk
    exact ⟨rfl, .inl ⟨hk, rfl, rfl⟩⟩
  · rename_i hk
    have hnone : c.known.lookup cve = none := Option.not_isSome_iff_eq_none.1 hk
    have hsent := Host.sent_load sourceName cve h
    rw [bind_apply]
    rcases cached? ((Host.bucket sourceName).load cve h).1 with _ | ⟨s, _ | _⟩
    · exact ⟨hsent, .inr (.inr ⟨hnone, rfl, rfl⟩)⟩
    · exact ⟨hsent, .inr (.inl ⟨hnone, .of_learn hnone s, rfl⟩)⟩
    · exact ⟨hsent, .inr (.inr ⟨hnone, rfl, rfl⟩)⟩

/-- Looking for several vulnerabilities, with what has been found out so far. -/
def consultFrom (x : Client × Wanted) (cves : List String) : Session (Client × Wanted) :=
  cves.foldlM (fun x cve => x.1.consult x.2 cve) x

theorem consultFrom_cons (x : Client × Wanted) (cve : String) (cves : List String) (h : Host) :
    consultFrom x (cve :: cves) h =
      consultFrom (x.1.consult x.2 cve h).1 cves (x.1.consult x.2 cve h).2 := by
  rw [consultFrom, List.foldlM_cons]
  rfl

end Client

/-- `c'` has looked for `cves`: the `missing` ones are unknown, and all others known. -/
structure Consulted (c : Client) (cves : List String) (c' : Client) (missing : List String) : Prop where
  learnt : ∃ found, found ⊆ cves ∧ Learnt c c' found
  sublist : missing.Sublist cves
  unknown : ∀ cve ∈ missing, c'.known.lookup cve = none
  known : ∀ cve ∈ cves, cve ∉ missing → (c'.known.lookup cve).isSome

namespace Consulted

variable {c c₁ c' : Client} {cve : String} {cves missing : List String}

/-- One more vulnerability, which was known or has been learnt. -/
theorem cons_known {found : List String} (hfound : found ⊆ [cve]) (hl : Learnt c c₁ found)
    (hsome : (c₁.known.lookup cve).isSome) (h : Consulted c₁ cves c' missing) :
    Consulted c (cve :: cves) c' missing where
  learnt := by
    obtain ⟨later, hlater, hl'⟩ := h.learnt
    refine ⟨found ++ later, List.append_subset.2 ⟨fun x hx => ?_, fun x hx => ?_⟩, hl.trans hl'⟩
    · exact List.mem_cons.2 (.inl (List.mem_singleton.1 (hfound hx)))
    · exact List.mem_cons_of_mem _ (hlater hx)
  sublist := h.sublist.cons cve
  unknown := h.unknown
  known x hx hnot := by
    rcases List.mem_cons.1 hx with rfl | hx
    · obtain ⟨later, -, hl'⟩ := h.learnt
      exact (hl'.isSome_iff x).2 (.inl hsome)
    · exact h.known x hx hnot

/-- One more vulnerability, which is left to be asked for. -/
theorem cons_missing (hnone : c.known.lookup cve = none) (hcve : cve ∉ cves)
    (h : Consulted c cves c' missing) : Consulted c (cve :: cves) c' (cve :: missing) where
  learnt := by
    obtain ⟨later, hlater, hl'⟩ := h.learnt
    exact ⟨later, fun x hx => List.mem_cons_of_mem _ (hlater hx), hl'⟩
  sublist := h.sublist.cons_cons cve
  unknown x hx := by
    rcases List.mem_cons.1 hx with rfl | hx
    · obtain ⟨later, hlater, hl'⟩ := h.learnt
      exact hl'.eq_none hnone fun hl => hcve (hlater hl)
    · exact h.unknown x hx
  known x hx hnot := by
    rw [List.mem_cons, not_or] at hnot
    exact h.known x ((List.mem_cons.1 hx).resolve_left hnot.1) hnot.2

end Consulted

namespace Client

/-- **Looking for several vulnerabilities** sends nothing. -/
theorem consultFrom_spec {cves : List String} (hnodup : cves.Nodup) (x : Client × Wanted) (h : Host) :
    (consultFrom x cves h).2.sent = h.sent ∧
      ∃ missing, (consultFrom x cves h).1.2.cves = x.2.cves ++ missing ∧
        Consulted x.1 cves (consultFrom x cves h).1.1 missing := by
  induction cves generalizing x h with
  | nil =>
    refine ⟨rfl, [], (List.append_nil _).symm, ⟨[], List.Subset.refl _, .refl _⟩, .slnil, ?_, ?_⟩
    · exact fun cve hcve => absurd hcve List.not_mem_nil
    · exact fun cve hcve => absurd hcve List.not_mem_nil
  | cons cve cves ih =>
    obtain ⟨hcve, hnodup⟩ := List.nodup_cons.1 hnodup
    obtain ⟨hsent, hcases⟩ := x.1.consult_spec x.2 cve h
    rw [consultFrom_cons]
    obtain ⟨hsent', missing, hwanted, hrest⟩ :=
      ih hnodup (x.1.consult x.2 cve h).1 (x.1.consult x.2 cve h).2
    refine ⟨hsent'.trans hsent, ?_⟩
    rcases hcases with ⟨hsome, hc, hw⟩ | ⟨hnone, hl, hw⟩ | ⟨hnone, hc, hw⟩
    · rw [hc] at hrest
      exact ⟨missing, by rw [hwanted, hw], hrest.cons_known (List.nil_subset _) (.refl _) hsome⟩
    · have hsome := (hl.isSome_iff cve).2 (.inr List.mem_cons_self)
      exact ⟨missing, by rw [hwanted, hw], hrest.cons_known (List.Subset.refl _) hl hsome⟩
    · rw [hc] at hrest
      refine ⟨cve :: missing, ?_, hrest.cons_missing hnone hcve⟩
      rw [hwanted, hw, List.append_assoc, List.singleton_append]

/-! ### Batches -/

/-- Learning forecasts for a batch of unknown vulnerabilities, one after the other. -/
theorem learnt_foldl {batch : List String} (hnodup : batch.Nodup) (f : String → Forecast) {c : Client}
    (hunknown : ∀ cve ∈ batch, c.known.lookup cve = none) :
    Learnt c (batch.foldl (fun c cve => c.learn cve (f cve)) c) batch := by
  induction batch generalizing c with
  | nil => exact .refl c
  | cons cve batch ih =>
    obtain ⟨hcve, hnodup⟩ := List.nodup_cons.1 hnodup
    have hl := Learnt.of_learn (hunknown cve List.mem_cons_self) (f cve)
    refine hl.trans (ih hnodup fun other hother => ?_)
    refine hl.eq_none (hunknown other (List.mem_cons_of_mem _ hother)) fun hmem => hcve ?_
    exact List.mem_singleton.1 hmem ▸ hother

/-- Keeping a forecast learns it, and sends nothing. -/
theorem keep_spec (c : Client) (cve : String) (s : Forecast) (h : Host) :
    (c.keep cve s h).1 = c.learn cve s ∧ (c.keep cve s h).2.sent = h.sent := by
  unfold keep
  cases s.toJson? with
  | none => exact ⟨rfl, rfl⟩
  | some j => exact ⟨rfl, Host.sent_store _ _ _ _⟩

theorem foldlM_keep_spec (batch : List String) (f : String → Forecast) (c : Client) (h : Host) :
    (batch.foldlM (fun c cve => c.keep cve (f cve)) c h).1 =
        batch.foldl (fun c cve => c.learn cve (f cve)) c ∧
      (batch.foldlM (fun c cve => c.keep cve (f cve)) c h).2.sent = h.sent := by
  induction batch generalizing c h with
  | nil => exact ⟨rfl, rfl⟩
  | cons cve batch ih =>
    obtain ⟨hc, hsent⟩ := c.keep_spec cve (f cve) h
    rw [List.foldlM_cons, bind_apply, hc]
    obtain ⟨hc', hsent'⟩ := ih (c.learn cve (f cve)) (c.keep cve (f cve) h).2
    exact ⟨hc', hsent'.trans hsent⟩

theorem sent_request (c : Client) (batch : List String) (h : Host) :
    (c.request batch h).2.sent = (request? c.url batch).toList ++ h.sent := by
  have hget := Host.sent_get (c.url ++ "?cve=" ++ Text.join "," batch) h
  unfold request
  rw [bind_apply]
  cases (Host.get (c.url ++ "?cve=" ++ Text.join "," batch) "" h).1 <;> exact hget

/-- **A batch is settled with one request**, whatever comes of it. -/
theorem settle_spec (old : List (String × Forecast)) {batch : List String} (hnodup : batch.Nodup)
    {c : Client} (hunknown : ∀ cve ∈ batch, c.known.lookup cve = none) (h : Host) :
    Learnt c (settle old c batch h).1 batch ∧
      (settle old c batch h).2.sent = (request? c.url batch).toList ++ h.sent := by
  have hsent := sent_request c batch h
  unfold settle
  rw [bind_apply]
  cases (c.request batch h).1 with
  | error cause => exact ⟨learnt_foldl hnodup _ hunknown, hsent⟩
  | ok found =>
    obtain ⟨hc, hkept⟩ := foldlM_keep_spec batch (fun cve => (found.lookup cve).getD { cve }) c
      (c.request batch h).2
    exact ⟨hc ▸ learnt_foldl hnodup _ hunknown, hkept.trans hsent⟩

/-- All batches, one after the other. -/
theorem foldlM_settle_spec (old : List (String × Forecast)) {batches : List (List String)}
    (hnodup : batches.flatten.Nodup) {c : Client}
    (hunknown : ∀ cve ∈ batches.flatten, c.known.lookup cve = none) (h : Host) :
    Learnt c (batches.foldlM (settle old) c h).1 batches.flatten ∧
      (batches.foldlM (settle old) c h).2.sent =
        (batches.filterMap (request? c.url)).reverse ++ h.sent := by
  induction batches generalizing c h with
  | nil => exact ⟨.refl c, rfl⟩
  | cons batch batches ih =>
    rw [List.flatten_cons] at hnodup hunknown ⊢
    obtain ⟨hbatch, hrest, hdisjoint⟩ := List.nodup_append.1 hnodup
    obtain ⟨hl, hsent⟩ := settle_spec old hbatch (fun cve hcve => hunknown cve (List.mem_append_left _ hcve)) h
    rw [List.foldlM_cons, bind_apply]
    obtain ⟨hl', hsent'⟩ := @ih hrest (settle old c batch h).1
      (fun cve hcve => hl.eq_none (hunknown cve (List.mem_append_right _ hcve)) fun hmem =>
        hdisjoint cve hmem cve hcve rfl) (settle old c batch h).2
    refine ⟨hl.trans hl', ?_⟩
    rw [hsent', hsent, hl.url, List.filterMap_cons]
    cases request? c.url batch <;> simp

end Client

/-- Identifiers in canonical form; none if one of them is malformed. -/
def canonicals (ids : List String) : List String := (ids.mapM Cve.validate).toOption.getD []

/-- `c'` has got the forecasts for `cves`, and has asked for those in `batches` on the way. -/
structure Fetched (c c' : Client) (cves : List String) (batches : List (List String)) : Prop where
  url : c'.url = c.url
  kept : ∀ cve s, c.known.lookup cve = some s → c'.known.lookup cve = some s
  known : ∀ cve ∈ cves, (c'.known.lookup cve).isSome
  nonempty : ∀ batch ∈ batches, batch ≠ []
  nodup : batches.flatten.Nodup
  wanted : batches.flatten ⊆ cves
  unknown : ∀ cve ∈ batches.flatten, c.known.lookup cve = none

theorem Fetched.refl (c : Client) : Fetched c c [] [] := by
  constructor <;> simp

/-- Nothing is asked for if all is known. -/
theorem Fetched.batches_eq_nil {c c' : Client} {cves : List String} {batches : List (List String)}
    (h : Fetched c c' cves batches) (hknown : ∀ cve ∈ cves, (c.known.lookup cve).isSome) : batches = [] := by
  cases batches with
  | nil => rfl
  | cons batch batches =>
    obtain ⟨cve, hcve⟩ := List.exists_mem_of_ne_nil batch (h.nonempty batch List.mem_cons_self)
    have hmem : cve ∈ (batch :: batches).flatten := List.mem_append_left _ hcve
    have hsome := hknown cve (h.wanted hmem)
    rw [h.unknown cve hmem] at hsome
    cases hsome

namespace Client

theorem fetchCanonical_eq (c : Client) (cves : List String) (h : Host) :
    c.fetchCanonical cves h =
      let r := consultFrom (c, {}) cves h
      let s := (Listing.portions (batchSize - 1) r.1.2.cves).foldlM (settle r.1.2.old) r.1.1 r.2
      ((cves.map fun cve => (cve, (s.1.known.lookup cve).getD {}), s.1), s.2) := rfl

/-- The forecasts for distinct identifiers: one request for each batch of those that are unknown. -/
theorem fetchCanonical_spec (c : Client) {cves : List String} (hnodup : cves.Nodup) (h : Host) :
    ∃ batches, Fetched c (c.fetchCanonical cves h).1.2 cves batches ∧
      (c.fetchCanonical cves h).2.sent = (batches.filterMap (request? c.url)).reverse ++ h.sent ∧
      (c.fetchCanonical cves h).1.1 =
        cves.map fun cve => (cve, ((c.fetchCanonical cves h).1.2.known.lookup cve).getD {}) := by
  obtain ⟨hsent, missing, hwanted, hconsulted⟩ := consultFrom_spec hnodup (c, {}) h
  rw [fetchCanonical_eq]
  generalize consultFrom (c, {}) cves h = r at hsent hwanted hconsulted ⊢
  obtain ⟨⟨c₁, wanted⟩, h₁⟩ := r
  dsimp only at hsent hwanted hconsulted ⊢
  rw [List.nil_append] at hwanted
  obtain ⟨found, -, hl⟩ := hconsulted.learnt
  have hflatten := Listing.flatten_portions (batchSize - 1) wanted.cves
  have hne := @Listing.ne_nil_of_mem_portions _ (batchSize - 1) wanted.cves
  generalize Listing.portions (batchSize - 1) wanted.cves = batches at hflatten hne ⊢
  rw [hwanted] at hflatten
  have hbatches : batches.flatten.Nodup := hflatten ▸ hconsulted.sublist.nodup hnodup
  obtain ⟨hl', hsent'⟩ := foldlM_settle_spec wanted.old hbatches
    (fun cve hcve => hconsulted.unknown cve (hflatten ▸ hcve)) h₁
  have hall := hl.trans hl'
  refine ⟨batches, ⟨hall.url, hall.kept, fun cve hcve => ?_, fun batch => hne, hbatches, ?_, ?_⟩, ?_, rfl⟩
  · by_cases hm : cve ∈ missing
    · exact (hl'.isSome_iff cve).2 (.inr (hflatten ▸ hm))
    · exact (hl'.isSome_iff cve).2 (.inl (hconsulted.known cve hcve hm))
  · exact hflatten ▸ hconsulted.sublist.subset
  · intro cve hcve
    rw [← Option.not_isSome_iff_eq_none]
    intro hsome
    have hkept := (hl.isSome_iff cve).2 (.inl hsome)
    rw [hconsulted.unknown cve (hflatten ▸ hcve)] at hkept
    cases hkept
  · rw [hsent', hl.url, hsent]

/-- **Fetching forecasts.** All of them are known then, what was known stays, and only what was unknown is
asked for. -/
theorem fetch_spec (c : Client) (ids : List String) (h : Host) :
    ∃ batches, Fetched c (c.fetch ids h).1.2 (canonicals ids) batches ∧
      (c.fetch ids h).2.sent = (batches.filterMap (request? c.url)).reverse ++ h.sent ∧
      (c.fetch ids h).1.1 = (ids.mapM Cve.validate).map fun cves =>
        (Listing.distinct cves).map fun cve => (cve, ((c.fetch ids h).1.2.known.lookup cve).getD {}) := by
  unfold fetch canonicals
  cases ids.mapM Cve.validate with
  | error e => exact ⟨[], .refl c, rfl, rfl⟩
  | ok cves =>
    obtain ⟨batches, hfetched, hsent, hresult⟩ := fetchCanonical_spec c (Listing.nodup_distinct cves) h
    dsimp only
    rw [bind_apply]
    refine ⟨batches, ?_, hsent, congrArg Except.ok hresult⟩
    exact { hfetched with
      known := fun cve hcve => hfetched.known cve (Listing.mem_distinct.2 hcve)
      wanted := fun cve hcve => Listing.mem_distinct.1 (hfetched.wanted hcve) }

end Client

end Forecasts

end Triage
