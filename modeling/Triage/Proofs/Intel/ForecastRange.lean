import Triage.Proofs.Cve.Spelling
import Triage.Proofs.Finding.Finite
import Triage.Proofs.Intel.Calls

/-!
# Where forecasts come from, and which of them are in range

A forecast that is fetched comes from one of three places (`Offered`): it is one of zero, because there was nothing to
be had; or what a row of a response gives, brought into the range from zero to one (`Row.Gives`); or what the cache
has for the vulnerability. A row is in range and can be written unless one of its texts spells NaN, which is brought
into no range. What the cache has is taken as it stands. It can always be written, but nothing makes sure that it is
in range, or that it is about the vulnerability at all.

Main statement: this is so for every forecast of every call between two resets, whatever the network and the cache
are at each of them (`forecasts_of_calls`).
-/
namespace Triage

open Number (isFinite)

/-! ## Numbers -/

namespace Forecasts

/-- `y` is the number from zero to one that is nearest to `x`. NaN stays what it is. -/
inductive Clamped (x : Float) : Float → Prop
  | nan (h : x.isNaN = true) : Clamped x x
  | low (h : x ≤ 0) : Clamped x 0
  | within (hlow : 0 < x) (hhigh : x < 1) : Clamped x x
  | high (h : 1 ≤ x) : Clamped x 1

theorem clamped_clamp (x : Float) : Clamped x (clamp x) := by
  unfold clamp
  split_ifs with hlow hhigh
  · exact .low hlow
  · exact .high hhigh
  · cases hx : x.isNaN with
    | true => exact .nan hx
    | false =>
      have hzero : (0 : Float).isNaN = false := by decide +kernel
      have hone : (1 : Float).isNaN = false := by decide +kernel
      rw [Number.le_iff_place hx hzero, not_le, ← Number.lt_iff_place hzero hx] at hlow
      rw [Number.le_iff_place hone hx, not_le, ← Number.lt_iff_place hx hone] at hhigh
      exact .within hlow hhigh

theorem clamped_iff {x y : Float} : Clamped x y ↔ y = clamp x := by
  refine ⟨fun h => ?_, fun h => h ▸ clamped_clamp x⟩
  unfold clamp
  cases h with
  | nan h =>
    have hlow : ¬ x ≤ 0 := fun hx => Bool.false_ne_true ((Number.isNaN_of_le hx).1.symm.trans h)
    have hhigh : ¬ 1 ≤ x := fun hx => Bool.false_ne_true ((Number.isNaN_of_le hx).2.symm.trans h)
    rw [if_neg hlow, if_neg hhigh]
  | low h => rw [if_pos h]
  | within hlow hhigh => rw [if_neg (Number.not_le_of_lt hlow), if_neg (Number.not_le_of_lt hhigh)]
  | high h =>
    have hlow : ¬ x ≤ 0 := fun hx => absurd (Number.le_of_le_of_le h hx) (by decide +kernel)
    rw [if_neg hlow, if_pos h]

/-- **A number brought into range** is in range, unless it is NaN. -/
theorem Clamped.range {x y : Float} (h : Clamped x y) :
    x.isNaN = true ∧ y.isNaN = true ∨ x.isNaN = false ∧ 0 ≤ y ∧ y ≤ 1 := by
  cases h with
  | nan h => exact .inl ⟨h, h⟩
  | low h => exact .inr ⟨(Number.isNaN_of_le h).1, by decide +kernel, by decide +kernel⟩
  | within hlow hhigh => exact .inr ⟨(Number.isNaN_of_lt hlow).2, Number.le_of_lt hlow, Number.le_of_lt hhigh⟩
  | high h => exact .inr ⟨(Number.isNaN_of_le h).2, by decide +kernel, by decide +kernel⟩

/-! ## Rows of a response -/

/-- A row gives a forecast if it names an identifier and both its numbers can be read. The forecast is for the
identifier in upper case and has the numbers brought into range, and the date of the row. -/
structure Row.Gives (r : Row) (f : Forecast) : Prop where
  names : ∃ id, Text.Stripped r.cve id ∧ Cve.Spells id ∧ f.cve = id.toUpper
  probability : ∃ x, Number.readFloat? r.probability = some x ∧ Clamped x f.probability
  percentile : ∃ x, Number.readFloat? r.percentile = some x ∧ Clamped x f.percentile
  date : f.date = r.date
  fresh : f.stale = false
  clean : f.error = ""

theorem Row.forecast?_eq_some_iff {r : Row} {f : Forecast} : r.forecast? = some f ↔ r.Gives f := by
  simp only [Row.forecast?, Option.bind_eq_bind, Option.bind_eq_some_iff, Option.pure_def, Option.some.injEq]
  constructor
  · rintro ⟨cve, hcve, p, hp, q, hq, rfl⟩
    obtain ⟨hspells, hupper⟩ := Cve.canonical?_eq_some_iff.1 hcve
    exact ⟨⟨_, Text.stripped_iff.2 rfl, hspells, hupper⟩, ⟨p, hp, clamped_clamp p⟩, ⟨q, hq, clamped_clamp q⟩, rfl, rfl,
      rfl⟩
  · rintro ⟨⟨id, hid, hspells, hupper⟩, ⟨p, hp, hprobability⟩, ⟨q, hq, hpercentile⟩, hdate, hfresh, hclean⟩
    obtain rfl := Text.stripped_iff.1 hid
    refine ⟨f.cve, Cve.canonical?_eq_some_iff.2 ⟨hspells, hupper⟩, p, hp, q, hq, ?_⟩
    rw [← clamped_iff.1 hprobability, ← clamped_iff.1 hpercentile, ← hdate]
    cases f
    cases hfresh
    cases hclean
    rfl

def Row.SpellsNaN (r : Row) : Prop := Number.SpellsNaN r.probability ∨ Number.SpellsNaN r.percentile

/-- **A row that gives a forecast** gives one that is in range and can be written, unless a number of it is NaN. -/
theorem Row.Gives.sound_iff {r : Row} {f : Forecast} (h : r.Gives f) :
    (f.Sound f.cve ↔ ¬ r.SpellsNaN) ∧ (f.toJson?.isSome = true ↔ ¬ r.SpellsNaN) := by
  obtain ⟨p, hp, hprobability⟩ := h.probability
  obtain ⟨q, hq, hpercentile⟩ := h.percentile
  have hrange {x y : Float} {s : String} (hx : Number.readFloat? s = some x) (hxy : Clamped x y)
      (hs : ¬ Number.SpellsNaN s) : 0 ≤ y ∧ y ≤ 1 := by
    rcases hxy.range with ⟨hnan, -⟩ | ⟨-, hrange⟩
    · exact absurd ((Number.isNaN_iff_spellsNaN hx).1 hnan) hs
    · exact hrange
  have hnan {x y : Float} {s : String} (hx : Number.readFloat? s = some x) (hxy : Clamped x y)
      (hs : Number.SpellsNaN s) : isFinite y = false := by
    rcases hxy.range with ⟨-, hclamp⟩ | ⟨hnot, -⟩
    · cases hfinite : isFinite y with
      | false => rfl
      | true => rw [Number.isNaN_of_isFinite hfinite] at hclamp; cases hclamp
    · rw [(Number.isNaN_iff_spellsNaN hx).2 hs] at hnot
      cases hnot
  -- Both statements follow from this chain: neither is NaN, hence in range, hence finite, hence neither is NaN.
  have hsound : ¬ r.SpellsNaN → f.Sound f.cve := fun hs =>
    ⟨rfl, hrange hp hprobability fun h => hs (.inl h), hrange hq hpercentile fun h => hs (.inr h)⟩
  have hfinite : f.Finite → ¬ r.SpellsNaN := by
    rintro ⟨hp', hq'⟩ (hs | hs)
    · rw [hnan hp hprobability hs] at hp'
      cases hp'
    · rw [hnan hq hpercentile hs] at hq'
      cases hq'
  rw [Forecast.isSome_toJson?_iff]
  exact ⟨⟨fun h => hfinite h.finite, hsound⟩, ⟨hfinite, fun hs => (hsound hs).finite⟩⟩

/-! ## What a host offers -/

/-- The body of the response to the request for a batch, if there is one. -/
def responseFor (url : String) (h : Host) (batch : List String) : Except Failure String :=
  (Host.get (url ++ "?cve=" ++ Text.join "," batch) "" h).1

def foundFor (url : String) (h : Host) (batch : List String) : Except Failure (List (String × Forecast)) :=
  match responseFor url h batch with
  | .error e => .error (.context "EPSS request failed" e)
  | .ok body => decode body

def entryFor (h : Host) (cve : String) : Option (Forecast × Bool) :=
  cached? ((Host.bucket sourceName).load cve h).1

def freshFor (h : Host) (cve : String) : Option Forecast :=
  match entryFor h cve with
  | some (f, false) => some f
  | _ => none

def oldFor (h : Host) (cve : String) : Option Forecast :=
  match entryFor h cve with
  | some (f, true) => some { f with stale := true }
  | _ => none

/-- What a vulnerability gets from the request for a batch. -/
def settledBy (url : String) (h : Host) (batch : List String) (cve : String) : Forecast :=
  match foundFor url h batch with
  | .ok found => (found.lookup cve).getD { cve }
  | .error cause => (oldFor h cve).getD { cve, error := cause.message }

/-- What a vulnerability gets on a host: what is fresh in the cache, or else what comes of a request. -/
inductive Offered (url : String) (h : Host) (cve : String) : Forecast → Prop
  | fresh {f : Forecast} : freshFor h cve = some f → Offered url h cve f
  | settled {batch : List String} : freshFor h cve = none → cve ∈ batch →
      Offered url h cve (settledBy url h batch cve)

/-- Two hosts with the same network. -/
structure SameNetwork (h h' : Host) : Prop where
  network : h'.network = h.network
  canceled : h'.canceled = h.canceled

theorem SameNetwork.trans {h h' h'' : Host} (hs : SameNetwork h h') (hs' : SameNetwork h' h'') : SameNetwork h h'' :=
  ⟨hs'.network.trans hs.network, hs'.canceled.trans hs.canceled⟩

theorem responseFor_congr {h h' : Host} (hs : SameNetwork h h') (url : String) (batch : List String) :
    responseFor url h' batch = responseFor url h batch :=
  Host.fst_get_congr (fun r => by rw [Host.reply, Host.reply, hs.canceled, hs.network]) _ _

theorem sameNetwork_get (url : String) (h : Host) : SameNetwork h (Host.get url "" h).2 := by
  rw [Host.snd_get]
  exact ⟨rfl, rfl⟩

theorem sameNetwork_load (key : String) (h : Host) : SameNetwork h ((Host.bucket sourceName).load key h).2 := by
  simp only [Host.bucket]
  cases h.cache <;> exact ⟨rfl, rfl⟩

theorem sameNetwork_store (key payload : String) (h : Host) :
    SameNetwork h ((Host.bucket sourceName).store key payload h).2 := by
  simp only [Host.bucket]
  cases h.cache <;> exact ⟨rfl, rfl⟩

/-- Looking for one vulnerability in the cache changes nothing for the others. -/
theorem entryFor_load (key cve : String) (h : Host) :
    entryFor ((Host.bucket sourceName).load key h).2 cve = entryFor h cve :=
  congrArg cached? (Cache.load_load cve)

/-! ## What a client learns -/

/-- All that `c'` knows, `c` knew or the host `h` offers. -/
structure LearntFrom (c : Client) (h : Host) (c' : Client) : Prop where
  url : c'.url = c.url
  known : ∀ cve s, c'.known.lookup cve = some s → c.known.lookup cve = some s ∨ Offered c.url h cve s

/-- The vulnerability is to be asked for, and `old` has what is old in the cache for it. -/
structure WantedOn (h : Host) (old : List (String × Forecast)) (cve : String) : Prop where
  fresh : freshFor h cve = none
  old : old.lookup cve = oldFor h cve

namespace LearntFrom

variable {c c' : Client} {h h' : Host}

theorem refl (c : Client) (h : Host) : LearntFrom c h c := ⟨rfl, fun _ _ hs => .inl hs⟩

theorem learn (hc : LearntFrom c h c') {cve : String} {s : Forecast} (hs : Offered c.url h cve s) :
    LearntFrom c h (c'.learn cve s) := by
  refine ⟨hc.url, fun other t ht => ?_⟩
  by_cases he : other = cve
  · rw [he, Client.learn, Keyed.lookup_insert_self] at ht
    cases ht
    exact .inr (he ▸ hs)
  · rw [Client.learn, Keyed.lookup_insert_of_ne _ _ _ _ he] at ht
    exact hc.known other t ht

theorem foldl_learn {batch : List String} {f : String → Forecast}
    (hf : ∀ cve ∈ batch, Offered c.url h cve (f cve)) (hc : LearntFrom c h c') :
    LearntFrom c h (batch.foldl (fun c cve => c.learn cve (f cve)) c') := by
  induction batch generalizing c' with
  | nil => exact hc
  | cons cve batch ih =>
    obtain ⟨hcve, hbatch⟩ := List.forall_mem_cons.1 hf
    exact ih hbatch (hc.learn hcve)

end LearntFrom

namespace Client

/-! ### The cache -/

/-- What has come of looking for vulnerabilities, beginning with the client `c` on the host `h`. -/
structure Consults (c : Client) (h : Host) (x : Client × Wanted) (h' : Host) : Prop where
  learnt : LearntFrom c h x.1
  wanted : ∀ cve ∈ x.2.cves, WantedOn h x.2.old cve
  old : ∀ cve s, x.2.old.lookup cve = some s → oldFor h cve = some s
  network : SameNetwork h h'
  entries : ∀ cve, entryFor h' cve = entryFor h cve

/-- **Looking for one more vulnerability.** -/
theorem Consults.consult {c : Client} {h h' : Host} {x : Client × Wanted} (hx : Consults c h x h') (cve : String) :
    Consults c h (x.1.consult x.2 cve h').1 (x.1.consult x.2 cve h').2 := by
  unfold Client.consult
  split
  · exact hx
  · have hentry : cached? ((Host.bucket sourceName).load cve h').1 = entryFor h cve := hx.entries cve
    have hnetwork := hx.network.trans (sameNetwork_load cve h')
    have hentries (other : String) : entryFor ((Host.bucket sourceName).load cve h').2 other = entryFor h other :=
      (entryFor_load cve other h').trans (hx.entries other)
    rw [bind_apply, hentry]
    rcases hkept : entryFor h cve with _ | ⟨s, _ | _⟩
    · have hold : oldFor h cve = none := by simp [oldFor, hkept]
      have hlookup : x.2.old.lookup cve = none := by
        rw [Option.eq_none_iff_forall_ne_some]
        intro s hs
        rw [hx.old cve s hs] at hold
        cases hold
      refine ⟨hx.learnt, fun other hother => ?_, hx.old, hnetwork, hentries⟩
      rcases List.mem_append.1 hother with hother | hother
      · exact hx.wanted other hother
      · rw [List.mem_singleton.1 hother]
        exact ⟨by simp [freshFor, hkept], hlookup.trans hold.symm⟩
    · exact ⟨hx.learnt.learn (.fresh (by simp [freshFor, hkept])), hx.wanted, hx.old, hnetwork, hentries⟩
    · have hold : oldFor h cve = some { s with stale := true } := by simp [oldFor, hkept]
      have hlookup : ((cve, { s with stale := true }) :: x.2.old).lookup cve = oldFor h cve := by
        rw [List.lookup_cons_self, hold]
      have hothers {other : String} (hne : other ≠ cve) :
          ((cve, { s with stale := true }) :: x.2.old).lookup other = x.2.old.lookup other := by
        rw [List.lookup_cons, beq_false_of_ne hne]
      refine ⟨hx.learnt, fun other hother => ?_, fun other s' hs' => ?_, hnetwork, hentries⟩
      · by_cases hne : other = cve
        · rw [hne]
          exact ⟨by simp [freshFor, hkept], hlookup⟩
        · have hbefore : other ∈ x.2.cves :=
            (List.mem_append.1 hother).resolve_right fun h => hne (List.mem_singleton.1 h)
          exact ⟨(hx.wanted other hbefore).fresh, (hothers hne).trans (hx.wanted other hbefore).old⟩
      · by_cases hne : other = cve
        · rw [hne] at hs' ⊢
          exact hlookup.symm.trans hs'
        · exact hx.old other s' ((hothers hne).symm.trans hs')

theorem Consults.consultFrom {c : Client} {h h' : Host} {x : Client × Wanted} (hx : Consults c h x h')
    (cves : List String) : Consults c h (consultFrom x cves h').1 (consultFrom x cves h').2 := by
  induction cves generalizing x h' with
  | nil => exact hx
  | cons cve cves ih =>
    rw [consultFrom_cons]
    exact ih (hx.consult cve)

/-! ### Batches -/

theorem sameNetwork_keep (c : Client) (cve : String) (s : Forecast) (h : Host) : SameNetwork h (c.keep cve s h).2 := by
  unfold keep
  cases s.toJson? with
  | none => exact ⟨rfl, rfl⟩
  | some j => exact sameNetwork_store cve j.compact h

theorem sameNetwork_foldlM_keep (batch : List String) (f : String → Forecast) (c : Client) (h : Host) :
    SameNetwork h (batch.foldlM (fun c cve => c.keep cve (f cve)) c h).2 := by
  induction batch generalizing c h with
  | nil => exact ⟨rfl, rfl⟩
  | cons cve batch ih =>
    rw [List.foldlM_cons, bind_apply]
    exact (sameNetwork_keep c cve (f cve) h).trans (ih _ _)

theorem request_eq (c : Client) (batch : List String) (h : Host) :
    c.request batch h =
      (foundFor c.url h batch, (Host.get (c.url ++ "?cve=" ++ Text.join "," batch) "" h).2) := by
  unfold request foundFor responseFor
  rw [bind_apply]
  cases (Host.get (c.url ++ "?cve=" ++ Text.join "," batch) "" h).1 <;> rfl

/-- **A batch is settled** with one request, whatever comes of it. -/
theorem settle_learnt {c c' : Client} {h h' : Host} {old : List (String × Forecast)} (hc : LearntFrom c h c')
    (hnetwork : SameNetwork h h') {batch : List String} (hwanted : ∀ cve ∈ batch, WantedOn h old cve) :
    LearntFrom c h (settle old c' batch h').1 ∧ SameNetwork h (settle old c' batch h').2 := by
  have hrequest : (c'.request batch h').1 = foundFor c.url h batch := by
    rw [request_eq, hc.url, foundFor, foundFor, responseFor_congr hnetwork]
  have hget : SameNetwork h (c'.request batch h').2 := by
    rw [request_eq]
    exact hnetwork.trans (sameNetwork_get _ h')
  have hsettled : ∀ f : String → Forecast, (∀ cve ∈ batch, f cve = settledBy c.url h batch cve) →
      LearntFrom c h (batch.foldl (fun c cve => c.learn cve (f cve)) c') := fun f hf =>
    hc.foldl_learn fun cve hcve => hf cve hcve ▸ .settled (hwanted cve hcve).fresh hcve
  unfold settle
  rw [bind_apply, hrequest]
  cases hfound : foundFor c.url h batch with
  | error cause =>
    refine ⟨hsettled _ fun cve hcve => ?_, hget⟩
    simp only [fallback, settledBy, hfound, (hwanted cve hcve).old]
  | ok found =>
    refine ⟨?_, hget.trans (sameNetwork_foldlM_keep batch _ c' _)⟩
    rw [(foldlM_keep_spec batch (fun cve => (found.lookup cve).getD { cve }) c' _).1]
    refine hsettled _ fun cve hcve => ?_
    simp only [settledBy, hfound]

theorem foldlM_settle_learnt {c c' : Client} {h h' : Host} {old : List (String × Forecast)}
    (hc : LearntFrom c h c') (hnetwork : SameNetwork h h') {batches : List (List String)}
    (hwanted : ∀ batch ∈ batches, ∀ cve ∈ batch, WantedOn h old cve) :
    LearntFrom c h (batches.foldlM (settle old) c' h').1 := by
  induction batches generalizing c' h' with
  | nil => exact hc
  | cons batch batches ih =>
    obtain ⟨hbatch, hbatches⟩ := List.forall_mem_cons.1 hwanted
    obtain ⟨hc', hnetwork'⟩ := settle_learnt hc hnetwork hbatch
    rw [List.foldlM_cons, bind_apply]
    exact ih hc' hnetwork' hbatches

/-- **Fetching forecasts** learns what the host offers. -/
theorem fetch_learnt (c : Client) (ids : List String) (h : Host) : LearntFrom c h (c.fetch ids h).1.2 := by
  unfold fetch
  cases ids.mapM Cve.validate with
  | error e => exact .refl c h
  | ok cves =>
    have hbegin : Consults c h (c, {}) h := ⟨.refl c h, nofun, nofun, ⟨rfl, rfl⟩, fun _ => rfl⟩
    have hconsulted := hbegin.consultFrom (Listing.distinct cves)
    dsimp only
    rw [bind_apply, fetchCanonical_eq]
    refine foldlM_settle_learnt hconsulted.learnt hconsulted.network fun batch hbatch cve hcve => ?_
    refine hconsulted.wanted cve ?_
    rw [← Listing.flatten_portions (batchSize - 1) (consultFrom (c, {}) (Listing.distinct cves) h).1.2.cves]
    exact List.mem_flatten_of_mem hbatch hcve

end Client

/-! ## What is fetched -/

theorem Offered.of_sent {url : String} {h : Host} {sent : List Request} {cve : String} {f : Forecast}
    (hf : Offered url { h with sent } cve f) : Offered url h cve f := by
  have hsame : SameNetwork { h with sent } h := ⟨rfl, rfl⟩
  have hentry : entryFor { h with sent } cve = entryFor h cve := by
    simp only [entryFor, Host.bucket]
    cases h.cache <;> rfl
  cases hf with
  | fresh hfresh => exact .fresh (by rw [← hfresh, freshFor, freshFor, hentry])
  | @settled batch hfresh hcve =>
    have hsettled : settledBy url { h with sent } batch cve = settledBy url h batch cve := by
      simp only [settledBy, foundFor, oldFor, hentry, responseFor_congr hsame]
    rw [hsettled]
    exact .settled (by rw [← hfresh, freshFor, freshFor, hentry]) hcve

/-- A row of the response to a request that asks for the vulnerability. -/
def RowFor (url : String) (h : Host) (cve : String) (row : Row) : Prop :=
  ∃ batch body response, cve ∈ batch ∧ responseFor url h batch = .ok body ∧
    Json.decodeText Response.decoder {} body = .ok response ∧ row ∈ response.rows

/-- The forecasts that come of a request are rows of its response. -/
theorem exists_row {url : String} {h : Host} {batch : List String} {found : List (String × Forecast)}
    (hfound : foundFor url h batch = .ok found) {cve : String} (hcve : cve ∈ batch) {f : Forecast}
    (hf : found.lookup cve = some f) : ∃ row, RowFor url h cve row ∧ row.forecast? = some f ∧ f.cve = cve := by
  unfold foundFor at hfound
  split at hfound
  · cases hfound
  · rename_i body hbody
    unfold decode at hfound
    split at hfound
    · rename_i response hresponse
      cases hfound
      obtain ⟨front, back, hsplit, -⟩ := List.lookup_eq_some_iff.1 hf
      have hmem : (cve, f) ∈ ofRows response.rows := by rw [hsplit]; simp
      obtain ⟨g, hg, heq⟩ := List.mem_map.1 (Keyed.mem_of_mem_ofList hmem)
      cases heq
      obtain ⟨row, hrow, hforecast⟩ := List.mem_filterMap.1 hg
      exact ⟨row, ⟨batch, body, response, hcve, hbody, hresponse, hrow⟩, hforecast, rfl⟩
    · cases hfound

/-- **Where a forecast comes from**: it is blank, a row of a response, or what the cache has. -/
theorem Offered.origin {url : String} {h : Host} {cve : String} {f : Forecast} (hf : Offered url h cve f) :
    f = { cve, error := f.error } ∨ (∃ row, RowFor url h cve row ∧ row.forecast? = some f ∧ f.cve = cve) ∨
      ∃ kept old, entryFor h cve = some (kept, old) ∧ f = { kept with stale := kept.stale || old } := by
  cases hf with
  | fresh hfresh =>
    unfold freshFor at hfresh
    split at hfresh
    · rename_i hentry
      cases hfresh
      exact .inr (.inr ⟨f, false, hentry, by simp⟩)
    · cases hfresh
  | @settled batch hfresh hcve =>
    cases hfound : foundFor url h batch with
    | ok found =>
      have hsettled : settledBy url h batch cve = (found.lookup cve).getD { cve } := by
        simp only [settledBy, hfound]
      rw [hsettled]
      cases hlookup : found.lookup cve with
      | none => exact .inl rfl
      | some f => exact .inr (.inl (exists_row hfound hcve hlookup))
    | error cause =>
      have hsettled : settledBy url h batch cve = (oldFor h cve).getD { cve, error := cause.message } := by
        simp only [settledBy, hfound]
      rw [hsettled]
      cases hold : oldFor h cve with
      | none => exact .inl rfl
      | some f =>
        unfold oldFor at hold
        split at hold
        · rename_i kept hentry
          cases hold
          exact .inr (.inr ⟨kept, true, hentry, by simp⟩)
        · cases hold

/-- What the cache has for a vulnerability has finite numbers. -/
theorem finite_of_entryFor {h : Host} {cve : String} {f : Forecast} {old : Bool}
    (hentry : entryFor h cve = some (f, old)) : f.Finite := by
  simp only [entryFor, cached?, Option.bind_eq_bind, Option.bind_eq_some_iff] at hentry
  obtain ⟨entry, -, f', hdecode, heq⟩ := hentry
  cases heq
  refine Forecast.finite_of_decodeText (s := entry.payload) ?_
  cases hresult : Json.decodeText Forecast.decoder {} entry.payload with
  | error e =>
    rw [hresult] at hdecode
    cases hdecode
  | ok f =>
    rw [hresult] at hdecode
    cases hdecode
    rfl

/-- What the client of the forecasts knows after some calls, it knew before or one of the hosts offered it. -/
theorem offered_of_after (c : Clients) (steps : List Step) {cve : String} {f : Forecast}
    (hf : (c.after steps).forecasts.known.lookup cve = some f) :
    c.forecasts.known.lookup cve = some f ∨ ∃ s ∈ steps, Offered c.forecasts.url s.host cve f := by
  induction steps generalizing c with
  | nil => exact .inl hf
  | cons s steps ih =>
    have hstep : LearntFrom c.forecasts { s.host with sent := [] } (c.make s).1.2.forecasts := by
      cases hcall : s.call.ofCatalog with
      | true =>
        have hsame : (c.make s).1.2.forecasts = c.forecasts := (Call.run_catalog c _ hcall).2.2.1
        rw [hsame]
        exact .refl _ _
      | false =>
        obtain ⟨a, hrun, -⟩ := Call.run_eq_fetch c { s.host with sent := [] } hcall
        rw [Clients.make, hrun]
        exact Client.fetch_learnt _ _ _
    rcases ih (c.make s).1.2 hf with hknown | ⟨s', hs', hoffered⟩
    · rcases hstep.known cve f hknown with hbefore | hoffered
      · exact .inl hbefore
      · exact .inr ⟨s, List.mem_cons_self, hoffered.of_sent⟩
    · exact .inr ⟨s', List.mem_cons_of_mem _ hs', hstep.url ▸ hoffered⟩

/-- A finding with a forecast attached can be written exactly if the forecast can, provided its other numbers are
finite. -/
theorem isSome_toJson?_apply {g : Finding} (hg : g.Measured) (f : Forecast) :
    (apply f g).toJson?.isSome = true ↔ f.toJson?.isSome = true := by
  obtain ⟨new, happly⟩ := exists_apply f g
  rw [happly, Finding.isSome_toJson?_iff]
  exact ⟨fun h => h.2 f rfl, fun hf => ⟨hg, fun s hs => by cases hs; exact hf⟩⟩

/-- All findings that a forecast is attached to can be written, or none of them can. -/
theorem isSome_listToJson?_apply {gs : List Finding} (hgs : ∀ g ∈ gs, g.Measured) (f : Forecast) :
    (Finding.listToJson? (gs.map (apply f))).isSome = true ↔ gs = [] ∨ f.toJson?.isSome = true := by
  rw [Finding.isSome_listToJson?_iff, List.forall_mem_map]
  cases gs with
  | nil => simp
  | cons g gs =>
    constructor
    · intro hall
      exact .inr ((isSome_toJson?_apply (hgs g List.mem_cons_self) f).1 (hall g List.mem_cons_self))
    · intro hf g' hg'
      exact (isSome_toJson?_apply (hgs g' hg') f).2 (hf.resolve_left (List.cons_ne_nil g gs))

/-- **Forecasts that are fetched.** Between two resets, whatever the network and the cache are at each call: for valid
identifiers there is a forecast for each of the vulnerabilities. It is what a host offered at one of the calls, fresh
from the cache or else from a request, and so it is
- blank and in range, or
- a row of a response for the vulnerability, in range and fit to be written exactly if neither of its numbers is
  spelled as NaN, or
- what the cache has for the vulnerability, fit to be written, but taken as it stands.

A forecast in range is fit to be written. The findings that one is attached to can be written exactly if it is fit to
be, all of them or none. -/
theorem forecasts_of_calls (c : Clients) (steps : List Step) {x : Seen} (hx : x ∈ c.reset.seen steps)
    {ids cves : List String} (hcall : x.call = .forecasts ids) (hids : ids.mapM Cve.validate = .ok cves) :
    ∃ forecasts, x.answer = .forecasts (.ok forecasts) ∧ forecasts.map (·.1) = Listing.distinct cves ∧
      ∀ cve f, (cve, f) ∈ forecasts →
        (∃ s ∈ steps, Offered c.forecasts.url s.host cve f ∧
          (f = { cve, error := f.error } ∧ f.Sound cve ∨
          (∃ row, RowFor c.forecasts.url s.host cve row ∧ row.forecast? = some f ∧ f.cve = cve ∧
            (f.Sound cve ↔ ¬ row.SpellsNaN) ∧ (f.toJson?.isSome = true ↔ ¬ row.SpellsNaN)) ∨
          ∃ kept old, entryFor s.host cve = some (kept, old) ∧ f = { kept with stale := kept.stale || old } ∧
            f.toJson?.isSome = true)) ∧
        (f.Sound cve → f.toJson?.isSome = true) ∧
        ∀ gs : List Finding, (∀ g ∈ gs, g.Measured) →
          ((Finding.listToJson? (gs.map (apply f))).isSome = true ↔ gs = [] ∨ f.toJson?.isSome = true) := by
  have hanswer := Clients.answer_of_mem_seen (.refl _) hx
  rw [hcall, Call.answer, hids] at hanswer
  refine ⟨_, hanswer, by simp [Function.comp_def], fun cve f hf => ?_⟩
  obtain ⟨cve', hcve, heq⟩ := List.mem_map.1 hf
  cases heq
  refine ⟨?_, fun hsound => (Forecast.isSome_toJson?_iff _).2 hsound.finite,
    fun gs hgs => isSome_listToJson?_apply hgs _⟩
  have hknown : ((c.reset.after steps).forecasts.known.lookup cve).isSome := by
    refine Clients.isSome_known_of_call (Clients.call_of_mem_seen hx) (by rw [hcall]; rfl) ?_
    rw [hcall]
    simpa [canonicals, Call.ids, hids, Except.toOption] using Listing.mem_distinct.1 hcve
  obtain ⟨f, hf⟩ := Option.isSome_iff_exists.1 hknown
  have hscore : (c.reset.after steps).score cve = f := by rw [Clients.score, hf]; rfl
  rw [hscore]
  rcases offered_of_after c.reset steps hf with hnone | ⟨s, hs, hoffered⟩
  · cases hnone
  · refine ⟨s, hs, hoffered, ?_⟩
    rcases hoffered.origin with hblank | ⟨row, hrow, hforecast, hself⟩ | ⟨kept, old, hentry, rfl⟩
    · exact .inl ⟨hblank, hblank ▸ Forecast.sound_blank cve f.error⟩
    · obtain ⟨hsound, hwritten⟩ := (Row.forecast?_eq_some_iff.1 hforecast).sound_iff
      exact .inr (.inl ⟨row, hrow, hforecast, hself, hself ▸ hsound, hwritten⟩)
    · have hfinite : kept.Finite := finite_of_entryFor hentry
      exact .inr (.inr ⟨kept, old, hentry, rfl, (Forecast.isSome_toJson?_iff _).2 hfinite⟩)

/-- A server that gives NaN for one vulnerability, and a cache with a forecast for another one that is about neither
of them and out of range. -/
def oddHost : Host where
  now := ⟨0⟩
  disk := ⟨[("c/epss/epss_cache.json",
    ⟨"\x7b\"CVE-2024-0002\":\x7b\"cve\":\"CVE-1999-0001\",\"epss_score\":7,\"epss_percentile\":-1\x7d\x7d", ⟨0⟩⟩)]⟩
  cache := some (Cache.Manager.create "c" none)
  network _ :=
    .answered 200 "\x7b\"data\":[\x7b\"cve\":\"CVE-2024-0001\",\"epss\":\"NaN\",\"percentile\":\"0x1p-1\"\x7d]\x7d" none

/-- The forecasts for two vulnerabilities are asked for, in any case of letters. -/
def oddStep : Step := ⟨.forecasts ["cve-2024-0001", "CVE-2024-0002", "CVE-2024-0001"], oddHost⟩

theorem forecasts_of_odd_call :
    ∃ forecasts, (({} : Clients).reset.observe oddStep).answer = .forecasts (.ok forecasts) ∧
      forecasts.map (·.1) = ["CVE-2024-0001", "CVE-2024-0002"] ∧
      ∀ cve f, (cve, f) ∈ forecasts → Offered defaultUrl oddHost cve f := by
  have hids : ["cve-2024-0001", "CVE-2024-0002", "CVE-2024-0001"].mapM Cve.validate =
      .ok ["CVE-2024-0001", "CVE-2024-0002", "CVE-2024-0001"] := by decide +kernel
  obtain ⟨forecasts, hanswer, hkeys, hall⟩ :=
    forecasts_of_calls {} [oddStep] (x := ({} : Clients).reset.observe oddStep) List.mem_cons_self rfl hids
  refine ⟨forecasts, hanswer, hkeys.trans (by decide +kernel), fun cve f hf => ?_⟩
  obtain ⟨⟨s, hs, hoffered, -⟩, -⟩ := hall cve f hf
  rw [List.mem_singleton.1 hs] at hoffered
  exact hoffered

/-- **Forecasts that are out of range.** NaN is passed on and cannot be written, nor can a list with a finding that has
it. What the cache has is passed on as well, whichever vulnerability it is about and however large its numbers are. -/
theorem forecasts_out_of_range :
    (({} : Client).fetch ["CVE-2024-0001", "CVE-2024-0002"] oddHost).1.1.toOption.map (fun forecasts =>
        (forecasts.map fun p => (p.1, p.2.cve, p.2.probability.isNaN, p.2.toJson?.isSome),
          forecasts.map fun p => (p.2.probability == 7, p.2.percentile == -1),
          (Finding.listToJson? (forecasts.map fun p => apply p.2 { cve := p.1 })).isSome)) =
      some ([("CVE-2024-0001", "CVE-2024-0001", true, false), ("CVE-2024-0002", "CVE-1999-0001", false, true)],
        [(false, false), (true, true)], false) := by
  decide +kernel

end Forecasts

end Triage
