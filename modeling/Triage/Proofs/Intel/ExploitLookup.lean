import Triage.Intel.Exploits
import Triage.Proofs.Finding.RoundTrip
import Triage.Proofs.Host.Address
import Triage.Proofs.Intel.OncePerRun

/-!
# Looking up exploits

What comes of looking a vulnerability up in the index of exploits (`Looked`): a fresh record of the cache; or what the
index answers, which then goes into the cache; or a failure if the index rejects the credentials, also when there is
an old record; or else the old record, or a placeholder that tells what went wrong. Every record of the index can be
written and read back (`decode_summary`), so that what was fetched always passes validation. Main statement:
`exploits_looked_up`.
-/
namespace Triage.Exploits

/-! ## Records that are written -/

theorem ofName?_name (m : Maturity) : Maturity.ofName? m.name = some m := by
  cases m <;> rfl

theorem source_foldl_addListed (records : List Listed) (e : ExploitRecord × Maturity) :
    (records.foldl addListed e).1.source = e.1.source := by
  induction records generalizing e with
  | nil => rfl
  | cons r records ih => exact ih (addListed e r)

theorem source_summary (cve : String) (records : List Listed) : (summary cve records).source = sourceName :=
  source_foldl_addListed _ _

theorem decode_eq_ok_iff {payload : String} {r : ExploitRecord} :
    decode payload = .ok r ↔ Json.decodeText ExploitRecord.decoder {} payload = .ok r ∧
      r.source = sourceName ∧ (Maturity.ofName? r.maturity).isSome = true := by
  unfold decode
  cases Json.decodeText ExploitRecord.decoder {} payload with
  | error e => exact iff_of_false (fun h => nomatch h) (fun h => nomatch h.1)
  | ok r' =>
    simp only [bind, Except.bind, Except.mapError, throw, throwThe, MonadExceptOf.throw, pure, Except.pure]
    split
    · rename_i hsource
      refine iff_of_false (fun h => nomatch h) fun h => hsource ?_
      cases h.1
      exact h.2.1
    · rename_i hsource
      split
      · rename_i hmaturity
        refine iff_of_false (fun h => nomatch h) fun h => ?_
        cases h.1
        rw [Option.isNone_iff_eq_none.1 hmaturity] at h
        cases h.2.2
      · rename_i hmaturity
        constructor
        · rintro ⟨⟩
          exact ⟨rfl, not_not.1 hsource, by simpa [Option.isSome_iff_ne_none] using hmaturity⟩
        · rintro ⟨⟨⟩, -⟩
          rfl

theorem parse_toJson (r : ExploitRecord) : Json.parse r.toJson.compact = some r.toJson :=
  Json.Printed.parse (.inl rfl) (r.codes 0).written (by decide)

/-- **What the index says can be written and read back.** -/
theorem decode_summary (cve : String) (records : List Listed) :
    decode (summary cve records).toJson.compact = .ok (summary cve records) := by
  refine decode_eq_ok_iff.2 ⟨?_, source_summary cve records, ?_⟩
  · rw [Json.decodeText, parse_toJson]
    dsimp only
    rw [((summary cve records).codes 0).read]
  · exact Option.isSome_iff_exists.2 ⟨_, ofName?_name _⟩

theorem validate_eq_ok_iff {payload : String} : validate payload = .ok () ↔ ∃ r, decode payload = .ok r :=
  map_unit_eq_ok_iff

/-! ## The request -/

/-- What goes wrong on the way to a server and back tells no status. A status comes with an answer. -/
def StatusesAreAnswers (h : Host) : Prop :=
  ∀ r, (∀ cause, h.network r = .failed cause → cause.find? asStatus? = none) ∧
    ∀ code body cause, h.network r = .answered code body (some cause) → cause.find? asStatus? = none

/-- The request for a vulnerability, if the address of the client can be read. -/
def Client.request? (c : Client) (cve : String) : Option Request :=
  match Url.parse (c.url ++ "?cve=" ++ cve) with
  | .error _ => none
  | .ok u =>
    some
      { method := "GET", url := u.withoutEmptyPort.text, authorization := "Bearer " ++ c.key
        accept := "application/json", agent := Host.agent }

/-- What comes back for the request. -/
def Client.reply? (c : Client) (h : Host) (cve : String) : Option Reply := (c.request? cve).map h.reply

/-- The request for a vulnerability is answered with a status that rejects the credentials. -/
def Rejects (c : Client) (h : Host) (cve : String) (code : Int) : Prop :=
  ∃ body broken, c.reply? h cve = some (.answered code body broken) ∧ (code = 401 ∨ code = 403)

/-- The request for a vulnerability is answered with records of the index. -/
def Answers (c : Client) (h : Host) (cve : String) (records : List Listed) : Prop :=
  ∃ body, c.reply? h cve = some (.answered 200 body none) ∧ Json.decodeText responseDecoder [] body = .ok records

/-- What a fetch brings: the record of the index, or that the credentials are rejected, or another failure. -/
inductive Fetches (c : Client) (h : Host) (cve : String) : Except Failure String → Prop
  | answered {records : List Listed} (hanswers : Answers c h cve records) :
      Fetches c h cve (.ok (summary cve records).toJson.compact)
  | rejected {code : Int} {url : String} (hrejects : Rejects c h cve code) : Fetches c h cve (.error (.status code url))
  | failed {cause : Failure} (hcause : rejection? cause = none) (hanswers : ∀ records, ¬ Answers c h cve records)
      (hrejects : ∀ code, ¬ Rejects c h cve code) : Fetches c h cve (.error cause)

section Fetching

variable {c : Client} {h : Host} {cve : String} {records : List Listed} {code : Int} {cause : Failure}

theorem Rejects.not_answers (hr : Rejects c h cve code) : ¬ Answers c h cve records := by
  rintro ⟨body', hreply', -⟩
  obtain ⟨body, broken, hreply, hcode⟩ := hr
  cases hreply.symm.trans hreply'
  omega

theorem Rejects.unauthorized (hr : Rejects c h cve code) : code = 401 ∨ code = 403 := by
  obtain ⟨-, -, -, hcode⟩ := hr
  exact hcode

theorem Rejects.unique {code' : Int} (hr : Rejects c h cve code) (hr' : Rejects c h cve code') : code' = code := by
  obtain ⟨body, broken, hreply, -⟩ := hr
  obtain ⟨body', broken', hreply', -⟩ := hr'
  cases hreply.symm.trans hreply'
  rfl

theorem Answers.unique {records' : List Listed} (ha : Answers c h cve records) (ha' : Answers c h cve records') :
    records' = records := by
  obtain ⟨body, hreply, hdecode⟩ := ha
  obtain ⟨body', hreply', hdecode'⟩ := ha'
  cases hreply.symm.trans hreply'
  cases hdecode.symm.trans hdecode'
  rfl

theorem find?_context (text : String) (cause : Failure) :
    (Failure.context text cause).find? asStatus? = cause.find? asStatus? := rfl

theorem find?_transport (method url : String) (cause : Failure) :
    (Failure.transport method url cause).find? asStatus? = cause.find? asStatus? := rfl

theorem rejection?_unavailable (key : String) (cause : Failure) :
    rejection? (.unavailable key cause) = rejection? cause := rfl

theorem rejection?_of_find? (hcause : cause.find? asStatus? = none) : rejection? cause = none := by
  rw [rejection?, hcause]
  rfl

theorem rejection?_status (code : Int) (url : String) :
    rejection? (.status code url) = if code = 401 ∨ code = 403 then some (.auth sourceName code) else none := by
  change ((some code).filter Status.isUnauthorized).map _ = _
  rw [Option.filter_some]
  simp only [Status.isUnauthorized, Bool.or_eq_true, beq_iff_eq]
  split <;> rfl

/-- A fetch without an answer, or with one of no use, fails for other reasons than the credentials. -/
theorem Fetches.of_reply {reply : Option Reply} (hreply : c.reply? h cve = reply) (hcause : rejection? cause = none)
    (hcode : ∀ code body broken, reply = some (.answered code body broken) → ¬ (code = 401 ∨ code = 403))
    (hbody : ∀ body, reply = some (.answered 200 body none) → ∀ records,
      Json.decodeText responseDecoder [] body ≠ .ok records) : Fetches c h cve (.error cause) := by
  subst hreply
  refine .failed hcause ?_ ?_
  · rintro records ⟨body, hreply, hdecode⟩
    exact hbody body hreply records hdecode
  · rintro code ⟨body, broken, hreply, hunauthorized⟩
    exact hcode code body broken hreply hunauthorized

theorem find?_of_reply (hnetwork : StatusesAreAnswers h) {r : Request} (hr : h.reply r = .failed cause) :
    cause.find? asStatus? = none := by
  unfold Host.reply at hr
  split at hr
  · cases hr
    rfl
  · exact (hnetwork r).1 cause hr

theorem find?_of_broken (hnetwork : StatusesAreAnswers h) {r : Request} {body : String}
    (hr : h.reply r = .answered code body (some cause)) : cause.find? asStatus? = none := by
  unfold Host.reply at hr
  split at hr
  · cases hr
  · exact (hnetwork r).2 code body cause hr

theorem find?_of_decodeText {α : Type} {d : Json.Decoder α} {zero : α} {body : String}
    (hd : Json.decodeText d zero body = .error cause) : cause.find? asStatus? = none := by
  unfold Json.decodeText at hd
  split at hd
  · cases hd
    rfl
  · split at hd
    · cases hd
      rfl
    · cases hd

theorem bearer_ne (key : String) : "Bearer " ++ key ≠ "" := by
  intro heq
  have hlength := congrArg (fun s => s.toList.length) heq
  rw [String.toList_append, List.length_append] at hlength
  exact absurd hlength (by simp)

/-- **A fetch** sends one request and nothing else happens. -/
theorem snd_fetch (c : Client) (cve : String) (h : Host) :
    (c.fetch cve h).2 = { h with sent := (c.request? cve).toList ++ h.sent } := by
  unfold Client.fetch Client.request?
  rw [bind_apply]
  unfold Host.get
  cases Url.parse (c.url ++ "?cve=" ++ cve) with
  | error e => rfl
  | ok u =>
    dsimp only
    rw [if_neg (bearer_ne c.key), bind_apply]
    simp only [Host.send]
    cases h.reply _ with
    | failed cause => rfl
    | answered code body broken =>
      dsimp only
      split
      · rfl
      · cases broken with
        | some cause => rfl
        | none =>
          simp only [pure_apply]
          cases Json.decodeText responseDecoder [] body <;> rfl

theorem fetches_fetch (hnetwork : StatusesAreAnswers h) : Fetches c h cve (c.fetch cve h).1 := by
  have hreply? : c.reply? h cve = (c.request? cve).map h.reply := rfl
  unfold Client.fetch
  unfold Client.request? at hreply?
  rw [bind_apply]
  unfold Host.get
  cases hparse : Url.parse (c.url ++ "?cve=" ++ cve) with
  | error e =>
    rw [hparse] at hreply?
    obtain ⟨part, text, rfl⟩ := Url.exists_of_parse_error hparse
    refine .of_reply hreply? (rejection?_of_find? rfl) ?_ ?_
    · rintro _ _ _ ⟨⟩
    · rintro _ ⟨⟩
  | ok u =>
    rw [hparse] at hreply?
    dsimp only at hreply? ⊢
    rw [if_neg (bearer_ne c.key), bind_apply]
    simp only [Host.send]
    rw [Option.map_some] at hreply?
    cases hreply : h.reply _ with
    | failed cause =>
      rw [hreply] at hreply?
      refine .of_reply hreply? (rejection?_of_find? ?_) ?_ ?_
      · rw [find?_context, find?_transport, find?_of_reply hnetwork hreply]
      · rintro _ _ _ ⟨⟩
      · rintro _ ⟨⟩
    | answered code body broken =>
      rw [hreply] at hreply?
      dsimp only
      split
      · rename_i hcode
        by_cases hunauthorized : code = 401 ∨ code = 403
        · exact .rejected ⟨body, broken, hreply?, hunauthorized⟩
        · refine .of_reply hreply? (by rw [rejection?_status, if_neg hunauthorized]) ?_ ?_
          · rintro _ _ _ ⟨⟩
            exact hunauthorized
          · rintro _ ⟨⟩
            exact absurd rfl hcode
      · rename_i hcode
        obtain rfl := not_not.1 hcode
        cases broken with
        | some cause =>
          refine .of_reply hreply? (rejection?_of_find? ?_) ?_ ?_
          · rw [find?_context, find?_of_broken hnetwork hreply]
          · rintro _ _ _ ⟨⟩
            decide
          · rintro _ ⟨⟩
        | none =>
          simp only [pure_apply]
          cases hdecode : Json.decodeText responseDecoder [] body with
          | error e =>
            refine .of_reply hreply? (rejection?_of_find? ?_) ?_ ?_
            · rw [find?_context, find?_of_decodeText hdecode]
            · rintro _ _ _ ⟨⟩
              decide
            · rintro _ ⟨⟩ records hok
              cases hdecode.symm.trans hok
          | ok records => exact .answered ⟨body, hreply?, hdecode⟩

end Fetching

/-! ## What comes of a lookup -/

def cached (h : Host) (cve : String) : Option Cache.Entry := ((Host.bucket sourceName).load cve h).1

def asked (c : Client) (h : Host) (cve : String) : Host :=
  { ((Host.bucket sourceName).load cve h).2 with
    sent := (c.request? cve).toList ++ ((Host.bucket sourceName).load cve h).2.sent }

/-- What comes of looking up `cve` with a key, and the host that it leaves. -/
inductive Looked (c : Client) (h : Host) (cve : String) : Except Failure ExploitRecord × Host → Prop
  /-- A fresh record of the cache is the answer. -/
  | fresh {e : Cache.Entry} {r : ExploitRecord} (hcached : cached h cve = some e) (hfresh : e.stale = false)
      (hdecode : decode e.payload = .ok r) : Looked c h cve (.ok r, ((Host.bucket sourceName).load cve h).2)
  /-- What the index says is the answer, and goes into the cache. -/
  | answered {records : List Listed} (hready : ¬ Cache.Ready validate (cached h cve))
      (hanswers : Answers c h cve records) :
      Looked c h cve (.ok (summary cve records),
        ((Host.bucket sourceName).store cve (summary cve records).toJson.compact (asked c h cve)).2)
  /-- Rejected credentials are a failure, whatever the cache holds. -/
  | rejected {code : Int} (hready : ¬ Cache.Ready validate (cached h cve)) (hrejects : Rejects c h cve code) :
      Looked c h cve (.error (.auth sourceName code), asked c h cve)
  /-- After any other failure an old record of the cache is the answer. -/
  | old {e : Cache.Entry} {r : ExploitRecord} (hready : ¬ Cache.Ready validate (cached h cve))
      (hanswers : ∀ records, ¬ Answers c h cve records) (hrejects : ∀ code, ¬ Rejects c h cve code)
      (hcached : cached h cve = some e) (hdecode : decode e.payload = .ok r) : Looked c h cve (.ok r, asked c h cve)
  /-- Without one, the answer tells what went wrong. -/
  | unavailable {cause : Failure} (hready : ¬ Cache.Ready validate (cached h cve))
      (hanswers : ∀ records, ¬ Answers c h cve records) (hrejects : ∀ code, ¬ Rejects c h cve code)
      (hcached : ∀ e, cached h cve = some e → ∀ r, decode e.payload ≠ .ok r) :
      Looked c h cve (.ok (unavailable cause), asked c h cve)

section Lookup

variable {c : Client} {h : Host} {cve id : String}

theorem network_load (source key : String) (h : Host) :
    ((Host.bucket source).load key h).2.network = h.network := by
  unfold Host.bucket
  dsimp only
  cases h.cache <;> rfl

theorem reply?_load : c.reply? ((Host.bucket sourceName).load cve h).2 cve = c.reply? h cve :=
  congrArg (fun reply => (c.request? cve).map reply) (funext (Host.reply_load sourceName cve h))

theorem answers_load {records : List Listed} :
    Answers c ((Host.bucket sourceName).load cve h).2 cve records ↔ Answers c h cve records := by
  unfold Answers
  rw [reply?_load]

theorem rejects_load {code : Int} :
    Rejects c ((Host.bucket sourceName).load cve h).2 cve code ↔ Rejects c h cve code := by
  unfold Rejects
  rw [reply?_load]

theorem Fetches.of_load {fetched : Except Failure String}
    (hf : Fetches c ((Host.bucket sourceName).load cve h).2 cve fetched) : Fetches c h cve fetched := by
  cases hf with
  | answered hanswers => exact .answered (answers_load.1 hanswers)
  | rejected hrejects => exact .rejected (rejects_load.1 hrejects)
  | failed hcause hanswers hrejects =>
    exact .failed hcause (fun records => mt answers_load.2 (hanswers records))
      fun code => mt rejects_load.2 (hrejects code)

theorem validate_summary (cve : String) (records : List Listed) :
    validate (summary cve records).toJson.compact = .ok () :=
  validate_eq_ok_iff.2 ⟨_, decode_summary cve records⟩

theorem Fetches.of_ok {payload : String} (hf : Fetches c h cve (.ok payload)) :
    ∃ records, Answers c h cve records ∧ payload = (summary cve records).toJson.compact := by
  cases hf with
  | answered hanswers => exact ⟨_, hanswers, rfl⟩

/-- What was fetched passes validation, so that a fetch is of no use only if it failed. -/
theorem Fetches.of_blame {fetched : Except Failure String} (hf : Fetches c h cve fetched) {cause : Failure}
    (hblame : Cache.Blame validate cve fetched cause) :
    (∃ code, Rejects c h cve code ∧ rejection? cause = some (.auth sourceName code)) ∨
      rejection? cause = none ∧ (∀ records, ¬ Answers c h cve records) ∧ ∀ code, ¬ Rejects c h cve code := by
  obtain rfl | ⟨payload, e, rfl, hinvalid, -⟩ := hblame
  · cases hf with
    | @rejected code url hrejects =>
      refine .inl ⟨code, hrejects, ?_⟩
      rw [rejection?_status, if_pos hrejects.unauthorized]
    | failed hcause hanswers hrejects => exact .inr ⟨hcause, hanswers, hrejects⟩
  · obtain ⟨records, -, rfl⟩ := hf.of_ok
    cases hinvalid.symm.trans (validate_summary cve records)

/-- Rejected credentials are a failure even if there is an old copy. -/
theorem conclude_stale {payload : String} {cause e : Failure} (hcause : rejection? cause = some e) :
    conclude (.ok ⟨payload, .stale cause⟩) = .error e := by
  dsimp only [conclude, Cache.Origin.cause?, Option.bind]
  rw [hcause]

/-- A payload that was served is read, unless the index rejected the credentials. -/
theorem conclude_served {payload : String} {origin : Cache.Origin} {r : ExploitRecord}
    (hcause : origin.cause?.bind rejection? = none) (hr : decode payload = .ok r) :
    conclude (.ok ⟨payload, origin⟩) = .ok r := by
  rw [conclude, hcause, hr]
  rfl

/-- **The ways of a lookup** with a key. -/
theorem looked_lookup (hnetwork : StatusesAreAnswers h) (hid : Cve.validate id = .ok cve)
    (hkey : c.configured = true) : Looked c h cve (c.lookup id h) := by
  have hlookup : c.lookup id h = (conclude ((Host.bucket sourceName).resolve cve (c.fetch cve) validate h).1,
      ((Host.bucket sourceName).resolve cve (c.fetch cve) validate h).2) := by
    rw [Client.lookup, hid]
    dsimp only
    rw [hkey]
    rfl
  have hfetched : Fetches c h cve (c.fetch cve ((Host.bucket sourceName).load cve h).2).1 := by
    refine Fetches.of_load (fetches_fetch fun r => ?_)
    rw [network_load]
    exact hnetwork r
  have hasked : (c.fetch cve ((Host.bucket sourceName).load cve h).2).2 = asked c h cve := snd_fetch _ _ _
  have hresolved := Cache.resolved_resolve (Host.bucket sourceName) cve (c.fetch cve) validate h
  rw [hlookup]
  generalize (Host.bucket sourceName).resolve cve (c.fetch cve) validate h = after at hresolved
  cases hresolved with
  | fresh hload hvalid hfresh =>
    obtain ⟨r, hr⟩ := validate_eq_ok_iff.1 hvalid
    rw [conclude_served rfl hr]
    exact .fresh hload hfresh hr
  | fetched hready hfetch =>
    rw [hfetch] at hfetched
    obtain ⟨records, hanswers, rfl⟩ := hfetched.of_ok
    rw [hasked, conclude_served rfl (decode_summary cve records)]
    exact .answered hready hanswers
  | @stale e cause hready hblame hload hvalid =>
    rw [hasked]
    obtain ⟨code, hrejects, hrejection⟩ | ⟨hcause, hanswers, hrejects⟩ := hfetched.of_blame hblame
    · rw [conclude_stale hrejection]
      exact .rejected hready hrejects
    · obtain ⟨r, hr⟩ := validate_eq_ok_iff.1 hvalid
      rw [conclude_served (show (Cache.Origin.stale cause).cause?.bind rejection? = none from hcause) hr]
      exact .old hready hanswers hrejects hload hr
  | @unavailable cause hready hblame hload =>
    rw [hasked, conclude, rejection?_unavailable]
    obtain ⟨code, hrejects, hrejection⟩ | ⟨hcause, hanswers, hrejects⟩ := hfetched.of_blame hblame
    · rw [hrejection]
      exact .rejected hready hrejects
    · rw [hcause]
      exact .unavailable hready hanswers hrejects fun e he r hr => hload e he (validate_eq_ok_iff.2 ⟨r, hr⟩)

/-- The identifier is good, there is a key, and the cache has no fresh record: the index has to be asked. -/
def Asks (c : Client) (id : String) (h : Host) (cve : String) : Prop :=
  Cve.validate id = .ok cve ∧ c.configured = true ∧
    ¬ ∃ e r, cached h cve = some e ∧ e.stale = false ∧ decode e.payload = .ok r

theorem ready_iff : Cache.Ready validate (cached h cve) ↔
    ∃ e r, cached h cve = some e ∧ e.stale = false ∧ decode e.payload = .ok r := by
  constructor
  · rintro ⟨e, he, hvalid, hfresh⟩
    obtain ⟨r, hr⟩ := validate_eq_ok_iff.1 hvalid
    exact ⟨e, r, he, hfresh, hr⟩
  · rintro ⟨e, r, he, hfresh, hr⟩
    exact ⟨e, he, validate_eq_ok_iff.2 ⟨r, hr⟩, hfresh⟩

/-- What a lookup answers and what it leaves behind. -/
structure LookedUp (c : Client) (id : String) (h : Host) (result : Except Failure ExploitRecord) (h' : Host) :
    Prop where
  /-- It fails exactly if the identifier is malformed, or the index was asked and rejected the credentials. -/
  error_iff : ∀ e, result = .error e ↔ Cve.validate id = .error e ∨
    ∃ cve code, Asks c id h cve ∧ Rejects c h cve code ∧ e = .auth sourceName code
  /-- What the index says is the answer, if it was asked. -/
  answered : ∀ cve records, Asks c id h cve → Answers c h cve records → result = .ok (summary cve records)
  /-- An answer says that there is no key, or is a record that can be read, of the cache or of the index, or is a
  placeholder. -/
  record : ∀ r, result = .ok r →
    c.configured = false ∧ r = unconfigured ∨
    (∃ cve e, Cve.validate id = .ok cve ∧ cached h cve = some e ∧ decode e.payload = .ok r) ∨
    (∃ cve records, Asks c id h cve ∧ Answers c h cve records ∧ decode (summary cve records).toJson.compact = .ok r) ∨
    ∃ cve cause, Asks c id h cve ∧ (∀ records, ¬ Answers c h cve records) ∧ r = unavailable cause ∧
      r.weaponized = false ∧ r.maturity = Maturity.unknown.name
  /-- One request is sent if the index has to be asked, and otherwise none. -/
  sent : (∀ cve, Asks c id h cve → h'.sent = (c.request? cve).toList ++ h.sent) ∧
    ((∀ cve, ¬ Asks c id h cve) → h'.sent = h.sent)
  /-- What the index says is stored for the vulnerability, and nothing else changes. -/
  stored : ∀ cve records, Asks c id h cve → Answers c h cve records → ∀ m, h.cache = some m →
    Cache.StoredAt sourceName cve (summary cve records).toJson.compact m h h'
  /-- Without an answer of the index the cache stays as it is. -/
  untouched : (∀ cve records, Asks c id h cve → ¬ Answers c h cve records) ∨ h.cache = none → Cache.Untouched h h'

theorem Asks.unique {cve' : String} (ha : Asks c id h cve) (hid : Cve.validate id = .ok cve') : cve' = cve :=
  Except.ok.inj (hid.symm.trans ha.1)

/-- A lookup that does not ask the index leaves all as it is. -/
theorem LookedUp.of_not_asks {result : Except Failure ExploitRecord} (hasks : ∀ cve, ¬ Asks c id h cve)
    (herror : ∀ e, result = .error e ↔ Cve.validate id = .error e)
    (hrecord : ∀ r, result = .ok r → c.configured = false ∧ r = unconfigured ∨
      ∃ cve e, Cve.validate id = .ok cve ∧ cached h cve = some e ∧ decode e.payload = .ok r)
    {h' : Host} (hsent : h'.sent = h.sent) (huntouched : Cache.Untouched h h') : LookedUp c id h result h' where
  error_iff e := by
    rw [herror e, or_iff_left]
    rintro ⟨cve, code, hasks', -⟩
    exact hasks cve hasks'
  answered cve records hasks' := absurd hasks' (hasks cve)
  record r hr := by
    obtain hkey | hcached := hrecord r hr
    · exact .inl hkey
    · exact .inr (.inl hcached)
  sent := ⟨fun cve hasks' => absurd hasks' (hasks cve), fun _ => hsent⟩
  stored cve records hasks' := absurd hasks' (hasks cve)
  untouched _ := huntouched

theorem sent_asked : (asked c h cve).sent = (c.request? cve).toList ++ h.sent := by
  unfold asked Host.bucket
  dsimp only
  cases h.cache <;> rfl

theorem untouched_asked : Cache.Untouched h (asked c h cve) := Cache.untouched_of_load rfl rfl

/-- A lookup that asks the index in vain leaves the cache as it is. -/
theorem LookedUp.of_not_answers {result : Except Failure ExploitRecord} (hasks : Asks c id h cve)
    (hanswers : ∀ records, ¬ Answers c h cve records)
    (herror : ∀ e, result = .error e ↔ ∃ code, Rejects c h cve code ∧ e = .auth sourceName code)
    (hrecord : ∀ r, result = .ok r → (∃ e, cached h cve = some e ∧ decode e.payload = .ok r) ∨
      ∃ cause, r = unavailable cause) : LookedUp c id h result (asked c h cve) where
  error_iff e := by
    rw [herror e, hasks.1]
    constructor
    · rintro ⟨code, hcode⟩
      exact .inr ⟨cve, code, hasks, hcode⟩
    · rintro (hid | ⟨cve', code, hasks', hcode⟩)
      · cases hid
      · rw [hasks.unique hasks'.1] at hcode
        exact ⟨code, hcode⟩
  answered cve' records hasks' hanswers' := by
    rw [hasks.unique hasks'.1] at hanswers'
    exact absurd hanswers' (hanswers records)
  record r hr := by
    obtain ⟨e, he⟩ | ⟨cause, rfl⟩ := hrecord r hr
    · exact .inr (.inl ⟨cve, e, hasks.1, he⟩)
    · exact .inr (.inr (.inr ⟨cve, cause, hasks, hanswers, rfl, rfl, rfl⟩))
  sent := by
    refine ⟨fun cve' hasks' => ?_, fun hnot => absurd hasks (hnot cve)⟩
    rw [hasks.unique hasks'.1, sent_asked]
  stored cve' records hasks' hanswers' := by
    rw [hasks.unique hasks'.1] at hanswers'
    exact absurd hanswers' (hanswers records)
  untouched _ := untouched_asked

theorem isValid_compact (r : ExploitRecord) : Json.isValid r.toJson.compact = true := by
  rw [Json.isValid, parse_toJson]
  rfl

/-- A lookup that the index answers stores what it says. -/
theorem LookedUp.of_answers {records : List Listed} (hasks : Asks c id h cve) (hanswers : Answers c h cve records) :
    LookedUp c id h (.ok (summary cve records))
      ((Host.bucket sourceName).store cve (summary cve records).toJson.compact (asked c h cve)).2 where
  error_iff e := by
    rw [hasks.1]
    refine iff_of_false nofun ?_
    rintro (hid | ⟨cve', code, hasks', hrejects, -⟩)
    · cases hid
    · rw [hasks.unique hasks'.1] at hrejects
      exact hrejects.not_answers hanswers
  answered cve' records' hasks' hanswers' := by
    obtain rfl := hasks.unique hasks'.1
    rw [hanswers.unique hanswers']
  record r hr := by
    cases hr
    exact .inr (.inr (.inl ⟨cve, records, hasks, hanswers, decode_summary cve records⟩))
  sent := by
    refine ⟨fun cve' hasks' => ?_, fun hnot => absurd hasks (hnot cve)⟩
    rw [hasks.unique hasks'.1, Host.sent_store, sent_asked]
  stored cve' records' hasks' hanswers' m hm := by
    obtain rfl := hasks.unique hasks'.1
    rw [hanswers.unique hanswers']
    exact Cache.storedAt_store hm rfl rfl (isValid_compact _)
  untouched hnot := by
    obtain hnot | hnone := hnot
    · exact absurd hanswers (hnot cve records hasks)
    · have hcache : (asked c h cve).cache = none := by
        simp only [asked, Host.bucket, hnone]
      have hstore : ((Host.bucket sourceName).store cve (summary cve records).toJson.compact (asked c h cve)).2 =
          asked c h cve := by
        simp only [Host.bucket, hcache]
      rw [hstore]
      exact untouched_asked

/-- What comes of asking with a key is as `LookedUp` says, in each of the ways. -/
theorem Looked.lookedUp {after : Except Failure ExploitRecord × Host} (hl : Looked c h cve after)
    (hid : Cve.validate id = .ok cve) (hkey : c.configured = true) : LookedUp c id h after.1 after.2 := by
  cases hl with
  | @fresh e r hcached hfresh hdecode =>
    refine .of_not_asks ?_ ?_ ?_ (Host.sent_load _ _ _) (Cache.untouched_of_load rfl rfl)
    · rintro cve' ⟨hid', -, hnot⟩
      cases hid.symm.trans hid'
      exact hnot ⟨e, r, hcached, hfresh, hdecode⟩
    · intro failure
      rw [hid]
      refine iff_of_false ?_ ?_
      · rintro ⟨⟩
      · rintro ⟨⟩
    · rintro _ ⟨⟩
      exact .inr ⟨cve, e, hid, hcached, hdecode⟩
  | answered hready hanswers => exact .of_answers ⟨hid, hkey, mt ready_iff.2 hready⟩ hanswers
  | @rejected code hready hrejects =>
    refine .of_not_answers ⟨hid, hkey, mt ready_iff.2 hready⟩ (fun _ => hrejects.not_answers) (fun e => ?_) ?_
    · constructor
      · rintro ⟨⟩
        exact ⟨code, hrejects, rfl⟩
      · rintro ⟨code', hrejects', rfl⟩
        rw [hrejects.unique hrejects']
    · rintro _ ⟨⟩
  | @old e r hready hanswers hrejects hcached hdecode =>
    refine .of_not_answers ⟨hid, hkey, mt ready_iff.2 hready⟩ hanswers (fun e => ?_) ?_
    · refine iff_of_false ?_ ?_
      · rintro ⟨⟩
      · rintro ⟨code, hcode, -⟩
        exact hrejects code hcode
    · rintro _ ⟨⟩
      exact .inl ⟨e, hcached, hdecode⟩
  | @unavailable cause hready hanswers hrejects hcached =>
    refine .of_not_answers ⟨hid, hkey, mt ready_iff.2 hready⟩ hanswers (fun e => ?_) ?_
    · refine iff_of_false ?_ ?_
      · rintro ⟨⟩
      · rintro ⟨code, hcode, -⟩
        exact hrejects code hcode
    · rintro _ ⟨⟩
      exact .inr ⟨cause, rfl⟩

/-- **Exploits looked up.** What the index says can always be written and read back. A lookup fails exactly if the
identifier is malformed or the index, which was asked once, rejected the credentials, even if there is an old record.
Every other answer is a record that can be read or a placeholder, and the cache changes only if the index answered
with records, and only at the vulnerability. -/
theorem exploits_looked_up (c : Client) (id : String) (h : Host) (hnetwork : StatusesAreAnswers h) :
    (∀ cve records, decode (summary cve records).toJson.compact = .ok (summary cve records)) ∧
      LookedUp c id h (c.lookup id h).1 (c.lookup id h).2 := by
  refine ⟨decode_summary, ?_⟩
  cases hid : Cve.validate id with
  | error e =>
    have hlookup : c.lookup id h = (.error e, h) := by
      rw [Client.lookup, hid]
      rfl
    rw [hlookup]
    refine .of_not_asks (fun cve hasks => nomatch hid.symm.trans hasks.1) (fun e' => ?_) ?_ rfl (.refl h)
    · rw [hid, Except.error.injEq, Except.error.injEq]
    · rintro r ⟨⟩
  | ok cve =>
    cases hkey : c.configured with
    | false =>
      have hlookup : c.lookup id h = (.ok unconfigured, h) := by
        rw [Client.lookup, hid]
        dsimp only
        rw [hkey]
        rfl
      rw [hlookup]
      refine .of_not_asks (fun cve hasks => nomatch hkey.symm.trans hasks.2.1) (fun e' => ?_) ?_ rfl (.refl h)
      · rw [hid]
        exact iff_of_false nofun nofun
      · rintro _ ⟨⟩
        exact .inl ⟨hkey, rfl⟩
    | true => exact (looked_lookup hnetwork hid hkey).lookedUp hid hkey

end Lookup

/-- A host that has an old record of a vulnerability, while the index rejects the credentials. -/
def deniedHost : Host where
  now := ⟨1000000000000000⟩
  disk := ⟨[("c/vulncheck/vulncheck_cache.json",
    ⟨"\x7b\"CVE-2024-0001\":\x7b\"payload\":\x7b\"exploit_available\":true,\"exploit_maturity\":\"poc\"," ++
      "\"source\":\"vulncheck\"\x7d,\"fetched_at\":\"1970-01-01T00:00:00Z\"\x7d\x7d", ⟨0⟩⟩)]⟩
  cache := some (Cache.Manager.create "c" none)
  network _ := .answered 403 "" none

/-- Rejected credentials are a failure although there is an old record that can be read. -/
theorem exploits_looked_up_denied :
    (∃ e r, cached deniedHost "CVE-2024-0001" = some e ∧ e.stale = true ∧ decode e.payload = .ok r) ∧
      StatusesAreAnswers deniedHost ∧
      (({ key := "k" } : Client).lookup " cve-2024-0001 " deniedHost).1 = .error (.auth sourceName 403) := by
  have hnetwork : StatusesAreAnswers deniedHost := by
    refine fun r => ⟨?_, ?_⟩
    · rintro cause ⟨⟩
    · rintro code body cause ⟨⟩
  have hcached : (cached deniedHost "CVE-2024-0001").map (fun e => (e.stale, decode e.payload)) =
      some (true, .ok { available := true, maturity := "poc", source := sourceName }) := by decide +kernel
  obtain ⟨e, he, hentry⟩ := Option.map_eq_some_iff.1 hcached
  rw [Prod.mk.injEq] at hentry
  refine ⟨⟨e, _, he, hentry.1, hentry.2⟩, hnetwork, ?_⟩
  have hasks : Asks { key := "k" } " cve-2024-0001 " deniedHost "CVE-2024-0001" := by
    refine ⟨by decide +kernel, by decide, ?_⟩
    rintro ⟨e', r', he', hfresh, -⟩
    cases he.symm.trans he'
    cases hentry.1.symm.trans hfresh
  have hreply : ({ key := "k" } : Client).reply? deniedHost "CVE-2024-0001" = some (.answered 403 "" none) := by
    decide +kernel
  exact ((exploits_looked_up _ _ deniedHost hnetwork).2.error_iff _).2
    (.inr ⟨_, 403, hasks, ⟨"", none, hreply, .inr rfl⟩, rfl⟩)

end Triage.Exploits
