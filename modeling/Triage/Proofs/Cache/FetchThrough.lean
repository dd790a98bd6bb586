import Mathlib.Logic.Basic
import Triage.Cache.Resolve
import Triage.Proofs.Activities
import Triage.Proofs.Cache.Bucket

/-!
# Fetching through the cache

What `resolve` does, told from what the store holds and what a fetch brings. `Policy` says it for every
store; how often a source was asked and what was handed to the store is told by running `resolve` with a
trace. For the bucket of a source it follows that a payload that was served once keeps being served, as
long as fetches of its key fail or bring nothing valid (`served_again`).
-/
namespace Triage.Cache

variable {σ : Type}

/-! ## A trace of what happens -/

/-- What happens on the way to a payload: how often it is fetched, and what is handed to the store. -/
structure Trace where
  fetches : Nat := 0
  stored : List (String × String) := []
  deriving Repr, DecidableEq

/-- A store that keeps a trace of what is handed to it. -/
def Store.traced (s : Store σ) : Store (σ × Trace) where
  load key := fun (st, t) =>
    let (entry, st) := s.load key st
    (entry, (st, t))
  store key payload := fun (st, t) =>
    let (result, st) := s.store key payload st
    (result, (st, { t with stored := t.stored ++ [(key, payload)] }))

/-- A fetch that keeps a trace of being made. -/
def tracedFetch (fetch : StateM σ (Except Failure String)) : StateM (σ × Trace) (Except Failure String) :=
  fun (st, t) =>
    let (result, st) := fetch st
    (result, (st, { t with fetches := t.fetches + 1 }))

/-! ## What `resolve` does -/

theorem isOk_iff {ε : Type} (x : Except ε Unit) : x.isOk = true ↔ x = .ok () := by
  cases x <;> simp [Except.isOk, Except.toBool]

/-- An entry is usable exactly if it passes validation. -/
theorem usable?_eq_some_iff {validate : Validator} {entry : Option Entry} {e : Entry} :
    usable? validate entry = some e ↔ entry = some e ∧ validate e.payload = .ok () := by
  rw [usable?, Option.filter_eq_some_iff, isOk_iff]

/-- What keeps a fetch from being of use: its failure, or what is wrong with what it brought. -/
def Blame (validate : Validator) (key : String) (fetched : Except Failure String) (cause : Failure) : Prop :=
  fetched = .error cause ∨ ∃ payload e, fetched = .ok payload ∧ validate payload = .error e ∧
    cause = .context ("invalid payload for " ++ key) e

theorem accepted_eq_ok_iff {validate : Validator} {key : String} {fetched : Except Failure String}
    {payload : String} :
    accepted validate key fetched = .ok payload ↔ fetched = .ok payload ∧ validate payload = .ok () := by
  cases fetched with
  | error e => simp [accepted, bind, Except.bind]
  | ok p =>
    cases hv : validate p with
    | error e =>
      simp only [accepted, bind, Except.bind, hv]
      constructor
      · intro h; cases h
      · rintro ⟨h, hok⟩
        cases h
        rw [hv] at hok
        cases hok
    | ok u =>
      simp only [accepted, bind, Except.bind, hv]
      constructor
      · intro h; cases h; exact ⟨rfl, hv⟩
      · rintro ⟨h, -⟩; cases h; rfl

theorem accepted_eq_error_iff {validate : Validator} {key : String} {fetched : Except Failure String}
    {cause : Failure} :
    accepted validate key fetched = .error cause ↔ Blame validate key fetched cause := by
  cases fetched with
  | error e => simp [accepted, bind, Except.bind, Blame]
  | ok p =>
    cases hv : validate p with
    | error e => simp [accepted, bind, Except.bind, hv, Blame, throw, throwThe, MonadExceptOf.throw, eq_comm]
    | ok u => simp [accepted, bind, Except.bind, hv, Blame, pure, Except.pure]

/-- The steps of `resolve`, for any store. -/
theorem resolve_eq (s : Store σ) (key : String) (fetch : StateM σ (Except Failure String))
    (validate : Validator) (st : σ) :
    s.resolve key fetch validate st =
      match (usable? validate (s.load key st).1).filter (!·.stale) with
      | some e => (.ok ⟨e.payload, .fresh⟩, (s.load key st).2)
      | none =>
        match accepted validate key (fetch (s.load key st).2).1 with
        | .ok payload =>
          (.ok ⟨payload, .fetched⟩, (s.store key payload (fetch (s.load key st).2).2).2)
        | .error cause =>
          match usable? validate (s.load key st).1 with
          | some e => (.ok ⟨e.payload, .stale cause⟩, (fetch (s.load key st).2).2)
          | none => (.error (.unavailable key cause), (fetch (s.load key st).2).2) := by
  rw [Store.resolve, bind_apply]
  cases (usable? validate (s.load key st).1).filter (!·.stale) with
  | some e => rfl
  | none =>
    dsimp only
    rw [bind_apply]
    cases accepted validate key (fetch (s.load key st).2).1 with
    | ok payload => rfl
    | error cause => cases usable? validate (s.load key st).1 <;> rfl

/-! ## The policy -/

/-- The store holds an entry that can be served at once. -/
def Ready (validate : Validator) (entry : Option Entry) : Prop :=
  ∃ e, entry = some e ∧ validate e.payload = .ok () ∧ e.stale = false

/-- The fetch-through policy: `result` is what comes of a key for which the store had `entry` and a
fetch brings `fetched`, and `trace` what happens on the way. -/
structure Policy (validate : Validator) (key : String) (entry : Option Entry)
    (fetched : Except Failure String) (result : Except Failure Served) (trace : Trace) : Prop where
  /-- A fresh copy is served exactly if there is one that passes validation. -/
  fresh_iff : ∀ payload, result = .ok ⟨payload, .fresh⟩ ↔
    ∃ e, entry = some e ∧ validate e.payload = .ok () ∧ e.stale = false ∧ e.payload = payload
  /-- Then nothing is fetched, and otherwise there is one fetch. -/
  fetches : trace.fetches = 0 ∧ Ready validate entry ∨ trace.fetches = 1 ∧ ¬ Ready validate entry
  /-- What was fetched is served exactly if it passes validation. -/
  fetched_iff : ∀ payload, result = .ok ⟨payload, .fetched⟩ ↔
    ¬ Ready validate entry ∧ fetched = .ok payload ∧ validate payload = .ok ()
  /-- An old copy is served exactly if it passes validation and the fetch is of no use. -/
  stale_iff : ∀ payload cause, result = .ok ⟨payload, .stale cause⟩ ↔
    ¬ Ready validate entry ∧ Blame validate key fetched cause ∧
      ∃ e, entry = some e ∧ validate e.payload = .ok () ∧ e.stale = true ∧ e.payload = payload
  /-- There is a failure in exactly the remaining case. -/
  error_iff : ∀ failure, result = .error failure ↔
    (¬ ∃ e, entry = some e ∧ validate e.payload = .ok ()) ∧
      ∃ cause, Blame validate key fetched cause ∧ failure = .unavailable key cause ∧
        failure.chain = failure :: cause.chain
  /-- Nothing that fails validation is served. -/
  served_valid : ∀ served, result = .ok served → validate served.payload = .ok ()
  /-- Only what was fetched and passes validation is handed to the store. -/
  stored_iff : ∀ k payload, (k, payload) ∈ trace.stored ↔ k = key ∧ result = .ok ⟨payload, .fetched⟩

theorem filter_stale_eq_some_iff {validate : Validator} {entry : Option Entry} {e : Entry} :
    (usable? validate entry).filter (!·.stale) = some e ↔
      entry = some e ∧ validate e.payload = .ok () ∧ e.stale = false := by
  rw [Option.filter_eq_some_iff, usable?_eq_some_iff, Bool.not_eq_true', and_assoc]

theorem filter_stale_eq_none_iff {validate : Validator} {entry : Option Entry} :
    (usable? validate entry).filter (!·.stale) = none ↔ ¬ Ready validate entry := by
  rw [← not_iff_not, not_not, ← ne_eq, Option.ne_none_iff_exists']
  exact exists_congr fun e => filter_stale_eq_some_iff

/-- The ways of `resolve`, each with the state that it leaves. -/
inductive Resolved (s : Store σ) (key : String) (fetch : StateM σ (Except Failure String)) (validate : Validator)
    (st : σ) : Except Failure Served × σ → Prop
  | fresh {e : Entry} (hload : (s.load key st).1 = some e) (hvalid : validate e.payload = .ok ())
      (hfresh : e.stale = false) : Resolved s key fetch validate st (.ok ⟨e.payload, .fresh⟩, (s.load key st).2)
  | fetched {payload : String} (hready : ¬ Ready validate (s.load key st).1)
      (hfetch : (fetch (s.load key st).2).1 = .ok payload) (hvalid : validate payload = .ok ()) :
      Resolved s key fetch validate st
        (.ok ⟨payload, .fetched⟩, (s.store key payload (fetch (s.load key st).2).2).2)
  | stale {e : Entry} {cause : Failure} (hready : ¬ Ready validate (s.load key st).1)
      (hblame : Blame validate key (fetch (s.load key st).2).1 cause) (hload : (s.load key st).1 = some e)
      (hvalid : validate e.payload = .ok ()) :
      Resolved s key fetch validate st (.ok ⟨e.payload, .stale cause⟩, (fetch (s.load key st).2).2)
  | unavailable {cause : Failure} (hready : ¬ Ready validate (s.load key st).1)
      (hblame : Blame validate key (fetch (s.load key st).2).1 cause)
      (hload : ∀ e, (s.load key st).1 = some e → validate e.payload ≠ .ok ()) :
      Resolved s key fetch validate st (.error (.unavailable key cause), (fetch (s.load key st).2).2)

theorem resolved_resolve (s : Store σ) (key : String) (fetch : StateM σ (Except Failure String))
    (validate : Validator) (st : σ) :
    Resolved s key fetch validate st (s.resolve key fetch validate st) := by
  rw [resolve_eq]
  cases hready : (usable? validate (s.load key st).1).filter (!·.stale) with
  | some e =>
    obtain ⟨hload, hvalid, hfresh⟩ := filter_stale_eq_some_iff.1 hready
    exact .fresh hload hvalid hfresh
  | none =>
    have hready := filter_stale_eq_none_iff.1 hready
    cases haccepted : accepted validate key (fetch (s.load key st).2).1 with
    | ok payload =>
      obtain ⟨hfetch, hvalid⟩ := accepted_eq_ok_iff.1 haccepted
      exact .fetched hready hfetch hvalid
    | error cause =>
      have hblame := accepted_eq_error_iff.1 haccepted
      cases husable : usable? validate (s.load key st).1 with
      | some e =>
        obtain ⟨hload, hvalid⟩ := usable?_eq_some_iff.1 husable
        exact .stale hready hblame hload hvalid
      | none =>
        refine .unavailable hready hblame fun e hload hvalid => ?_
        cases husable.symm.trans (usable?_eq_some_iff.2 ⟨hload, hvalid⟩)

/-- What is served has passed validation. -/
theorem valid_of_resolve {s : Store σ} {key : String} {fetch : StateM σ (Except Failure String)}
    {validate : Validator} {st : σ} {served : Served} (h : (s.resolve key fetch validate st).1 = .ok served) :
    validate served.payload = .ok () := by
  have hresolved := resolved_resolve s key fetch validate st
  generalize s.resolve key fetch validate st = after at hresolved h
  cases hresolved with
  | fresh _ hvalid => cases h; exact hvalid
  | fetched _ _ hvalid => cases h; exact hvalid
  | stale _ _ _ hvalid => cases h; exact hvalid
  | unavailable => cases h

section Cases

variable {validate : Validator} {key payload : String} {entry : Option Entry} {e : Entry}
  {fetched : Except Failure String} {cause : Failure} {trace : Trace}

theorem not_blame (h : validate payload = .ok ()) (cause : Failure) :
    ¬ Blame validate key (.ok payload) cause := by
  intro hb
  rw [← accepted_eq_error_iff, accepted_eq_ok_iff.2 ⟨rfl, h⟩] at hb
  cases hb

/-- A fetch is of no use for one reason only. -/
theorem Blame.unique {cause' : Failure} (h : Blame validate key fetched cause)
    (h' : Blame validate key fetched cause') : cause' = cause := by
  rw [← accepted_eq_error_iff] at h h'
  rw [h] at h'
  exact (Except.error.inj h').symm

theorem Blame.not_valid (h : Blame validate key fetched cause) :
    ¬ (fetched = .ok payload ∧ validate payload = .ok ()) := by
  intro hv
  rw [← accepted_eq_error_iff, accepted_eq_ok_iff.2 hv] at h
  cases h

theorem Policy.of_fresh (hvalid : validate e.payload = .ok ()) (hfresh : e.stale = false) :
    Policy validate key (some e) fetched (.ok ⟨e.payload, .fresh⟩) {} := by
  have hr : Ready validate (some e) := ⟨e, rfl, hvalid, hfresh⟩
  constructor
  case fresh_iff => simp [hvalid, hfresh]
  case fetches => exact .inl ⟨rfl, hr⟩
  case fetched_iff => simp [hr]
  case stale_iff => simp [hr]
  case error_iff => simp [hvalid]
  case served_valid => rintro _ ⟨⟩; exact hvalid
  case stored_iff => simp

theorem Policy.of_fetched (hr : ¬ Ready validate entry) (hvalid : validate payload = .ok ()) :
    Policy validate key entry (.ok payload) (.ok ⟨payload, .fetched⟩)
      { fetches := 1, stored := [(key, payload)] } := by
  constructor
  case fresh_iff =>
    intro p
    constructor
    · intro h; cases h
    · rintro ⟨e, he, hv, hs, -⟩; exact absurd ⟨e, he, hv, hs⟩ hr
  case fetches => exact .inr ⟨rfl, hr⟩
  case fetched_iff =>
    intro p
    constructor
    · rintro ⟨⟩; exact ⟨hr, rfl, hvalid⟩
    · rintro ⟨-, ⟨⟩, -⟩; rfl
  case stale_iff => simp [not_blame hvalid]
  case error_iff => simp [not_blame hvalid]
  case served_valid => rintro _ ⟨⟩; exact hvalid
  case stored_iff => simp [eq_comm]

theorem Policy.of_stale (hr : ¬ Ready validate (some e)) (hvalid : validate e.payload = .ok ())
    (hblame : Blame validate key fetched cause) :
    Policy validate key (some e) fetched (.ok ⟨e.payload, .stale cause⟩) { fetches := 1 } := by
  have hstale : e.stale = true := by
    cases hs : e.stale with
    | true => rfl
    | false => exact absurd ⟨e, rfl, hvalid, hs⟩ hr
  constructor
  case fresh_iff => simp [hstale]
  case fetches => exact .inr ⟨rfl, hr⟩
  case fetched_iff => simp [hblame.not_valid]
  case stale_iff =>
    intro payload cause'
    constructor
    · rintro ⟨⟩; exact ⟨hr, hblame, e, rfl, hvalid, hstale, rfl⟩
    · rintro ⟨-, hb, e', ⟨⟩, -, -, rfl⟩
      rw [hblame.unique hb]
  case error_iff => simp [hvalid]
  case served_valid => rintro _ ⟨⟩; exact hvalid
  case stored_iff => simp

theorem Policy.of_nothing (hnone : ¬ ∃ e, entry = some e ∧ validate e.payload = .ok ())
    (hblame : Blame validate key fetched cause) :
    Policy validate key entry fetched (.error (.unavailable key cause)) { fetches := 1 } := by
  constructor
  case fresh_iff =>
    intro p
    constructor
    · intro h; cases h
    · rintro ⟨e, he, hv, -⟩; exact absurd ⟨e, he, hv⟩ hnone
  case fetches => exact .inr ⟨rfl, fun ⟨e, he, hv, _⟩ => hnone ⟨e, he, hv⟩⟩
  case fetched_iff => simp [hblame.not_valid]
  case stale_iff =>
    intro p cause'
    constructor
    · intro h; cases h
    · rintro ⟨-, -, e, he, hv, -⟩; exact absurd ⟨e, he, hv⟩ hnone
  case error_iff =>
    intro failure
    constructor
    · rintro ⟨⟩; exact ⟨hnone, cause, hblame, rfl, rfl⟩
    · rintro ⟨-, cause', hb, rfl, -⟩
      rw [hblame.unique hb]
  case served_valid => intro _ h; cases h
  case stored_iff => simp

end Cases

/-- **Every store obeys the policy.** -/
theorem policy (s : Store σ) (key : String) (fetch : StateM σ (Except Failure String))
    (validate : Validator) (st : σ) :
    Policy validate key (s.load key st).1 (fetch (s.load key st).2).1
      (s.traced.resolve key (tracedFetch fetch) validate (st, {})).1
      (s.traced.resolve key (tracedFetch fetch) validate (st, {})).2.2 := by
  have hload : s.traced.load key (st, {}) = ((s.load key st).1, (s.load key st).2, {}) := rfl
  have hfetch : tracedFetch fetch ((s.load key st).2, {}) =
    ((fetch (s.load key st).2).1, (fetch (s.load key st).2).2, { fetches := 1 }) := rfl
  rw [resolve_eq, hload, hfetch]
  dsimp only
  generalize (s.load key st).1 = entry
  generalize (fetch (s.load key st).2).1 = fetched
  cases hready : (usable? validate entry).filter (!·.stale) with
  | some e =>
    obtain ⟨rfl, hvalid, hfresh⟩ := filter_stale_eq_some_iff.1 hready
    exact .of_fresh hvalid hfresh
  | none =>
    have hr := filter_stale_eq_none_iff.1 hready
    cases haccepted : accepted validate key fetched with
    | ok payload =>
      obtain ⟨rfl, hvalid⟩ := accepted_eq_ok_iff.1 haccepted
      exact .of_fetched hr hvalid
    | error cause =>
      have hblame := accepted_eq_error_iff.1 haccepted
      cases hu : usable? validate entry with
      | some e =>
        obtain ⟨rfl, hvalid⟩ := usable?_eq_some_iff.1 hu
        exact .of_stale hr hvalid hblame
      | none =>
        refine .of_nothing (fun ⟨e, he⟩ => ?_) hblame
        rw [← usable?_eq_some_iff, hu] at he
        cases he

/-- The trace changes nothing else. -/
theorem resolve_traced (s : Store σ) (key : String) (fetch : StateM σ (Except Failure String))
    (validate : Validator) (st : σ) (t : Trace) :
    (s.traced.resolve key (tracedFetch fetch) validate (st, t)).1 =
        (s.resolve key fetch validate st).1 ∧
      (s.traced.resolve key (tracedFetch fetch) validate (st, t)).2.1 =
        (s.resolve key fetch validate st).2 := by
  have hload : s.traced.load key (st, t) = ((s.load key st).1, (s.load key st).2, t) := rfl
  have hfetch : tracedFetch fetch ((s.load key st).2, t) =
    ((fetch (s.load key st).2).1, (fetch (s.load key st).2).2, { t with fetches := t.fetches + 1 }) := rfl
  rw [resolve_eq, resolve_eq, hload, hfetch]
  dsimp only
  cases (usable? validate (s.load key st).1).filter (!·.stale) with
  | some e => exact ⟨rfl, rfl⟩
  | none =>
    cases accepted validate key (fetch (s.load key st).2).1 with
    | ok payload => exact ⟨rfl, rfl⟩
    | error cause => cases usable? validate (s.load key st).1 <;> exact ⟨rfl, rfl⟩

/-- Unless something was fetched and served, nothing happens to the store but that it is read. -/
theorem resolve_state (s : Store σ) (key : String) (fetch : StateM σ (Except Failure String))
    (validate : Validator) (st : σ)
    (h : ∀ payload, (s.resolve key fetch validate st).1 ≠ .ok ⟨payload, .fetched⟩) :
    (Ready validate (s.load key st).1 → (s.resolve key fetch validate st).2 = (s.load key st).2) ∧
      (¬ Ready validate (s.load key st).1 →
        (s.resolve key fetch validate st).2 = (fetch (s.load key st).2).2) := by
  rw [resolve_eq] at h ⊢
  cases hready : (usable? validate (s.load key st).1).filter (!·.stale) with
  | some e => exact ⟨fun _ => rfl, fun hr => absurd ⟨e, filter_stale_eq_some_iff.1 hready⟩ hr⟩
  | none =>
    rw [hready] at h
    refine ⟨fun hr => absurd hr (filter_stale_eq_none_iff.1 hready), fun _ => ?_⟩
    cases hacc : accepted validate key (fetch (s.load key st).2).1 with
    | ok payload => rw [hacc] at h; exact absurd rfl (h payload)
    | error cause => cases usable? validate (s.load key st).1 <;> rfl

/-! ## The bucket of a source -/

/-- The bucket of a source is open and holds a payload at a key. -/
def Keeps (source key payload : String) (h : Host) : Prop :=
  ∃ c rs r, h.cache = some c ∧ (c.bucket source).records = some rs ∧ rs.lookup key = some r ∧
    r.payload = payload

section Bucket

variable {source key payload : String} {h : Host} {c : Manager}

theorem load_eq (hc : h.cache = some c) (key : String) :
    (Host.bucket source).load key h =
      ((c.bucket source).load h.machine key,
        { h with cache := some (c.withBucket source ((c.bucket source).opened h.machine)) }) := by
  simp only [Host.bucket, hc, Manager.load]

theorem store_eq (hc : h.cache = some c) (hv : Json.isValid payload = true) (key : String) :
    ((Host.bucket source).store key payload h).2.cache = some (c.withBucket source
      { c.bucket source with
        records := some (Keyed.insert key ⟨payload, ⟨h.now, 0⟩⟩ ((c.bucket source).held h.machine)) }) := by
  simp [Host.bucket, hc, Manager.store, Bucket.store, hv]
  rfl

theorem disk_store (hc : h.cache = some c) (hv : Json.isValid payload = true) (key : String) :
    ((Host.bucket source).store key payload h).2.disk = ((c.bucket source).flush h.machine
      (Keyed.insert key ⟨payload, ⟨h.now, 0⟩⟩ ((c.bucket source).held h.machine))).2 := by
  simp [Host.bucket, hc, Manager.store, Bucket.store, hv]
  rfl

/-- Looking at one key changes nothing for the others. -/
theorem load_load (other : String) : ((Host.bucket source).load other ((Host.bucket source).load key h).2).1 =
    ((Host.bucket source).load other h).1 := by
  cases hc : h.cache with
  | none => simp only [Host.bucket, hc]
  | some c =>
    rw [load_eq hc, load_eq rfl, load_eq hc, bucket_withBucket]
    rfl

theorem now_store (source key payload : String) (h : Host) :
    ((Host.bucket source).store key payload h).2.now = h.now := by
  simp only [Host.bucket]
  cases h.cache <;> rfl

/-- What there is after a payload was stored. -/
theorem load_store (hc : h.cache = some c) (hv : Json.isValid payload = true) (other : String) :
    ((Host.bucket source).load other ((Host.bucket source).store key payload h).2).1 =
      ((Keyed.insert key ⟨payload, ⟨h.now, 0⟩⟩ ((c.bucket source).held h.machine)).lookup other).map fun r =>
        ⟨r.payload, r.fetchedAt.instant, (c.bucket source).ttl.nanos < (h.now.since r.fetchedAt.instant).nanos⟩ := by
  rw [load_eq (store_eq hc hv key), bucket_withBucket, ← now_store source key payload h]
  rfl

/-- What was stored is there. -/
theorem load_store_self (hc : h.cache = some c) (hv : Json.isValid payload = true) :
    ∃ e, ((Host.bucket source).load key ((Host.bucket source).store key payload h).2).1 = some e ∧
      e.payload = payload ∧ e.fetchedAt = h.now := by
  rw [load_store hc hv, Keyed.lookup_insert_self]
  exact ⟨_, rfl, rfl, rfl⟩

/-- Storing at one key changes nothing for the others. -/
theorem load_store_of_ne {other : String} (hne : other ≠ key) :
    ((Host.bucket source).load other ((Host.bucket source).store key payload h).2).1 =
      ((Host.bucket source).load other h).1 := by
  cases hc : h.cache with
  | none => simp only [Host.bucket, hc]
  | some c =>
    cases hv : Json.isValid payload with
    | true =>
      rw [load_store hc hv, load_eq hc, Keyed.lookup_insert_of_ne _ _ _ _ hne]
      rfl
    | false =>
      have hstore : ((Host.bucket source).store key payload h).2 =
          { h with cache := some (c.withBucket source (c.bucket source)) } := by
        simp [Host.bucket, hc, Manager.store, Bucket.store, hv, Host.machine]
      rw [hstore, load_eq rfl, load_eq hc, bucket_withBucket]
      rfl

/-- What a bucket has depends on the cache, the disk and the clock. -/
theorem load_congr {h' : Host} (hcache : h'.cache = h.cache) (hmachine : h'.machine = h.machine)
    (source key : String) : ((Host.bucket source).load key h').1 = ((Host.bucket source).load key h).1 := by
  simp only [Host.bucket, hcache, hmachine]
  cases h.cache <;> rfl

/-- Looking at a bucket changes nothing for the other ones. -/
theorem load_load_of_ne {other : String} (hne : other ≠ source) (key' : String) :
    ((Host.bucket other).load key' ((Host.bucket source).load key h).2).1 = ((Host.bucket other).load key' h).1 := by
  cases hc : h.cache with
  | none => simp only [Host.bucket, hc]
  | some c =>
    rw [load_eq hc, load_eq rfl, load_eq hc, bucket_withBucket_of_ne hne]
    rfl

/-- Nothing has changed on the disk or for a lookup in the cache. -/
structure Untouched (h h' : Host) : Prop where
  disk : h'.disk = h.disk
  entries : ∀ source key, ((Host.bucket source).load key h').1 = ((Host.bucket source).load key h).1

theorem Untouched.refl (h : Host) : Untouched h h := ⟨rfl, fun _ _ => rfl⟩

theorem machine_load (source key : String) (h : Host) : ((Host.bucket source).load key h).2.machine = h.machine := by
  unfold Host.bucket
  dsimp only
  cases h.cache <;> rfl

/-- Looking at a key, with other things going on, leaves the cache untouched. -/
theorem untouched_of_load {h' : Host} (hcache : h'.cache = ((Host.bucket source).load key h).2.cache)
    (hmachine : h'.machine = ((Host.bucket source).load key h).2.machine) : Untouched h h' := by
  refine ⟨congrArg Machine.disk (hmachine.trans (machine_load source key h)), fun other key' => ?_⟩
  rw [load_congr hcache hmachine]
  by_cases hne : other = source
  · rw [hne, load_load]
  · exact load_load_of_ne hne key'

/-- A payload has been stored at a key of a source, in a cache that was `m` before, and nothing else has
changed. -/
structure StoredAt (source key payload : String) (m : Manager) (h h' : Host) : Prop where
  /-- The payload is there, with the present time. -/
  self : ∃ e, ((Host.bucket source).load key h').1 = some e ∧ e.payload = payload ∧ e.fetchedAt = h.now
  /-- The other keys have what they had. -/
  keys : ∀ other, other ≠ key →
    ((Host.bucket source).load other h').1 = ((Host.bucket source).load other h).1
  /-- The other buckets are what they were. -/
  buckets : ∃ m', h'.cache = some m' ∧ ∀ other, other ≠ source → m'.bucket other = m.bucket other
  /-- If the file of the source was written, it has the same records at the other keys. -/
  file : ∃ rs written, (∀ other, other ≠ key → rs.lookup other = ((m.bucket source).held h.machine).lookup other) ∧
    Flushed (m.bucket source) h.machine rs (written, h'.disk)
  /-- All other files are what they were. -/
  files : ∀ path, Disk.place path ≠ Disk.place (m.bucket source).path →
    Disk.place path ≠ Disk.place ((m.bucket source).path ++ ".tmp") → h'.disk.get? path = h.disk.get? path

theorem storedAt_store {h' : Host} (hc : h.cache = some c)
    (hcache : h'.cache = ((Host.bucket source).load key h).2.cache)
    (hmachine : h'.machine = ((Host.bucket source).load key h).2.machine) (hv : Json.isValid payload = true) :
    StoredAt source key payload c h ((Host.bucket source).store key payload h').2 := by
  rw [load_eq hc] at hcache
  rw [machine_load] at hmachine
  have hnow : h'.now = h.now := congrArg Machine.now hmachine
  have huntouched : Untouched h h' := by
    refine untouched_of_load (hcache.trans ?_) (hmachine.trans (machine_load source key h).symm)
    rw [load_eq hc]
  have hflushed := flushed_flush (c.bucket source) h.machine
    (Keyed.insert key ⟨payload, ⟨h.now, 0⟩⟩ ((c.bucket source).held h.machine))
  have hdisk : ((Host.bucket source).store key payload h').2.disk = ((c.bucket source).flush h.machine
      (Keyed.insert key ⟨payload, ⟨h.now, 0⟩⟩ ((c.bucket source).held h.machine))).2 := by
    rw [disk_store hcache hv key, bucket_withBucket, hmachine, hnow]
    rfl
  rw [← Prod.eta (Bucket.flush _ _ _), ← hdisk] at hflushed
  refine ⟨?_, fun other hne => ?_, ?_, ⟨_, _, fun other hne => ?_, hflushed⟩, fun path => hflushed.get?_of_ne⟩
  · rw [← hnow]
    exact load_store_self hcache hv
  · rw [load_store_of_ne hne, huntouched.entries]
  · refine ⟨_, store_eq hcache hv key, fun other hne => ?_⟩
    rw [bucket_withBucket_of_ne hne, bucket_withBucket_of_ne hne]
  · exact Keyed.lookup_insert_of_ne _ _ _ _ hne

/-- What a bucket served it holds from then on. -/
theorem keeps_of_load {e : Entry} (hl : ((Host.bucket source).load key h).1 = some e) :
    Keeps source key e.payload ((Host.bucket source).load key h).2 := by
  cases hc : h.cache with
  | none => simp [Host.bucket, hc] at hl
  | some c =>
    rw [load_eq hc] at hl ⊢
    obtain ⟨r, hr, rfl⟩ := Option.map_eq_some_iff.1 hl
    exact ⟨_, _, r, rfl, by rw [bucket_withBucket]; rfl, hr, rfl⟩

/-- What was stored a bucket holds from then on. -/
theorem keeps_of_store (hc : h.cache = some c) (hv : Json.isValid payload = true) :
    Keeps source key payload ((Host.bucket source).store key payload h).2 :=
  ⟨_, _, _, store_eq hc hv key, by rw [bucket_withBucket], Keyed.lookup_insert_self _ _ _, rfl⟩

theorem Keeps.held (hk : Keeps source key payload h) (hc : h.cache = some c) :
    ∃ r, ((c.bucket source).held h.machine).lookup key = some r ∧ r.payload = payload := by
  obtain ⟨c', rs, r, hc', hrs, hr, hp⟩ := hk
  rw [hc] at hc'
  cases hc'
  exact ⟨r, by rw [Bucket.held, hrs]; exact hr, hp⟩

theorem Keeps.load (hk : Keeps source key payload h) (key' : String) :
    Keeps source key payload ((Host.bucket source).load key' h).2 := by
  obtain ⟨c, -, -, hc, -⟩ := id hk
  obtain ⟨r, hr, hp⟩ := hk.held hc
  rw [load_eq hc]
  exact ⟨_, _, r, rfl, by rw [bucket_withBucket]; rfl, hr, hp⟩

theorem Keeps.load_eq_some (hk : Keeps source key payload h) :
    ∃ e, ((Host.bucket source).load key h).1 = some e ∧ e.payload = payload := by
  obtain ⟨c, -, -, hc, -⟩ := id hk
  obtain ⟨r, hr, hp⟩ := hk.held hc
  rw [load_eq hc]
  exact ⟨_, by rw [Bucket.load, hr]; rfl, hp⟩

/-- Storing at another key does not matter. -/
theorem Keeps.store_of_ne (hk : Keeps source key payload h) {key' : String} (hne : key ≠ key')
    (payload' : String) : Keeps source key payload ((Host.bucket source).store key' payload' h).2 := by
  obtain ⟨c, rs, r₀, hc, hrs, hr₀, hp₀⟩ := id hk
  cases hv : Json.isValid payload' with
  | true =>
    obtain ⟨r, hr, hp⟩ := hk.held hc
    refine ⟨_, _, r, store_eq hc hv key', by rw [bucket_withBucket], ?_, hp⟩
    rw [Keyed.lookup_insert_of_ne _ _ _ _ hne]
    exact hr
  | false =>
    refine ⟨c.withBucket source (c.bucket source), rs, r₀, ?_, by rw [bucket_withBucket]; exact hrs, hr₀, hp₀⟩
    simp [Host.bucket, hc, Manager.store, Bucket.store, hv]

theorem Keeps.congr (hk : Keeps source key payload h) {h' : Host} (hc : h'.cache = h.cache) :
    Keeps source key payload h' := by
  obtain ⟨c, rs, r, hcache, hrest⟩ := hk
  exact ⟨c, rs, r, hc.trans hcache, hrest⟩

end Bucket

/-! ## One call after the other -/

/-- A call of `resolve`, with what happens to the host before it. -/
structure Call where
  key : String
  fetch : Session (Except Failure String)
  validate : Validator
  /-- Time passes, and what else may happen. -/
  before : Host → Host

namespace Call

def run (source : String) (c : Call) (h : Host) : Except Failure Served × Host :=
  (Host.bucket source).resolve c.key c.fetch c.validate (c.before h)

/-- Only `resolve` itself acts on the cache. The disk, the clock and the network may change as they
like. -/
def LeavesCache (c : Call) : Prop :=
  ∀ h, (c.before h).cache = h.cache ∧ (c.fetch h).2.cache = h.cache

/-- The fetch fails, or what it brings does not pass validation. -/
def Fails (c : Call) : Prop := ∀ h, ∃ cause, Blame c.validate c.key (c.fetch h).1 cause

def runAll (source : String) : List Call → Host → List (Call × Except Failure Served)
  | [], _ => []
  | c :: cs, h => (c, (c.run source h).1) :: runAll source cs (c.run source h).2

end Call

section Calls

variable {source key payload : String} {h : Host} {c : Call}

/-- What is served from the cache, or could be stored, the bucket holds from then on. -/
theorem keeps_of_run (hc : c.LeavesCache) {origin : Origin}
    (hr : (c.run source h).1 = .ok ⟨payload, origin⟩)
    (hf : origin = .fetched → h.cache.isSome = true ∧ Json.isValid payload = true) :
    Keeps source c.key payload (c.run source h).2 := by
  unfold Call.run at hr ⊢
  rw [resolve_eq] at hr ⊢
  generalize hload : (Host.bucket source).load c.key (c.before h) = loaded at hr ⊢
  have hkeeps : ∀ e, loaded.1 = some e → Keeps source c.key e.payload loaded.2 := by
    intro e he
    rw [← hload] at he ⊢
    exact keeps_of_load he
  cases hready : (usable? c.validate loaded.1).filter (!·.stale) with
  | some e =>
    rw [hready] at hr
    cases hr
    exact hkeeps e (filter_stale_eq_some_iff.1 hready).1
  | none =>
    rw [hready] at hr
    cases hacc : accepted c.validate c.key (c.fetch loaded.2).1 with
    | ok p =>
      rw [hacc] at hr
      cases hr
      obtain ⟨hsome, hv⟩ := hf rfl
      obtain ⟨m, hm⟩ := Option.isSome_iff_exists.1 hsome
      have hcache : (c.fetch loaded.2).2.cache.isSome = true := by
        rw [(hc loaded.2).2, ← hload, load_eq ((hc h).1.trans hm)]
        rfl
      obtain ⟨m', hm'⟩ := Option.isSome_iff_exists.1 hcache
      exact keeps_of_store hm' hv
    | error cause =>
      rw [hacc] at hr
      cases hu : usable? c.validate loaded.1 with
      | some e =>
        simp only [hu] at hr
        cases hr
        exact (hkeeps e (usable?_eq_some_iff.1 hu).1).congr (hc loaded.2).2
      | none =>
        simp only [hu] at hr
        cases hr

/-- A call does not make the bucket lose what it holds, unless it fetches something better. -/
theorem Keeps.run (hk : Keeps source key payload h) (hc : c.LeavesCache)
    (hfails : c.key = key → c.Fails) : Keeps source key payload (c.run source h).2 := by
  unfold Call.run
  rw [resolve_eq]
  have hloaded := (hk.congr (hc h).1).load c.key
  generalize (Host.bucket source).load c.key (c.before h) = loaded at hloaded ⊢
  cases (usable? c.validate loaded.1).filter (!·.stale) with
  | some e => exact hloaded
  | none =>
    have hfetched := hloaded.congr (hc loaded.2).2
    cases hacc : accepted c.validate c.key (c.fetch loaded.2).1 with
    | ok p =>
      refine hfetched.store_of_ne (fun heq => ?_) p
      obtain ⟨cause, hb⟩ := hfails heq.symm loaded.2
      rw [← accepted_eq_error_iff, hacc] at hb
      cases hb
    | error cause => cases usable? c.validate loaded.1 <;> exact hfetched

/-- What a bucket holds is served if the fetch fails. -/
theorem Keeps.served (hk : Keeps source c.key payload h) (hc : c.LeavesCache) (hfails : c.Fails)
    (hv : c.validate payload = .ok ()) :
    ∃ origin, (c.run source h).1 = .ok ⟨payload, origin⟩ ∧ origin ≠ .fetched := by
  unfold Call.run
  rw [resolve_eq]
  obtain ⟨e, he, hp⟩ := (hk.congr (hc h).1).load_eq_some
  have hu : usable? c.validate ((Host.bucket source).load c.key (c.before h)).1 = some e :=
    usable?_eq_some_iff.2 ⟨he, hp ▸ hv⟩
  generalize (Host.bucket source).load c.key (c.before h) = loaded at hu ⊢
  obtain ⟨cause, hb⟩ := hfails loaded.2
  rw [hu, accepted_eq_error_iff.2 hb]
  cases hs : e.stale with
  | false =>
    have hfilter : (some e).filter (!·.stale) = some e := by simp [Option.filter, hs]
    exact ⟨.fresh, by rw [hfilter, ← hp], by simp⟩
  | true =>
    have hfilter : (some e).filter (!·.stale) = none := by simp [Option.filter, hs]
    exact ⟨.stale cause, by rw [hfilter, ← hp], by simp⟩

/-- **What a bucket holds keeps being served** through any calls in which the fetches of its key fail or
bring nothing valid. -/
theorem Keeps.served_again {calls : List Call} (hk : Keeps source key payload h)
    (hcalls : ∀ c ∈ calls, c.LeavesCache ∧
      (c.key = key → c.Fails ∧ c.validate payload = .ok ())) :
    ∀ cr ∈ Call.runAll source calls h, cr.1.key = key →
      ∃ origin, cr.2 = .ok ⟨payload, origin⟩ ∧ origin ≠ .fetched := by
  induction calls generalizing h with
  | nil => intro cr hcr; cases hcr
  | cons c calls ih =>
    obtain ⟨hleaves, hfails⟩ := hcalls c (by simp)
    intro cr hcr hkey
    rcases List.mem_cons.1 hcr with rfl | hcr
    · obtain rfl := hkey
      exact hk.served hleaves (hfails rfl).1 (hfails rfl).2
    · exact ih (hk.run hleaves fun heq => (hfails heq).1) (fun c' hc' => hcalls c' (by simp [hc'])) cr hcr hkey

end Calls

/-- **Fetching through the cache.** Every store obeys the policy: fresh copies are served without a
fetch, otherwise there is one fetch, and its payload is served and handed to the store if it passes
validation, whatever becomes of storing it; else an old copy is served if there is one that passes
validation. Unless something was fetched the store is only read. So a payload that was served for a key
of a source, from its bucket or after a fetch, keeps being served by any further calls in which the
fetches of that key fail or bring nothing valid, whatever else the host goes through. -/
theorem fetch_through :
    (∀ {σ : Type} (s : Store σ) (key : String) (fetch : StateM σ (Except Failure String))
      (validate : Validator) (st : σ),
      Policy validate key (s.load key st).1 (fetch (s.load key st).2).1
        (s.resolve key fetch validate st).1
        (s.traced.resolve key (tracedFetch fetch) validate (st, {})).2.2 ∧
      ((∀ payload, (s.resolve key fetch validate st).1 ≠ .ok ⟨payload, .fetched⟩) →
        (Ready validate (s.load key st).1 → (s.resolve key fetch validate st).2 = (s.load key st).2) ∧
        (¬ Ready validate (s.load key st).1 →
          (s.resolve key fetch validate st).2 = (fetch (s.load key st).2).2))) ∧
    ∀ (source : String) (h : Host) (c : Call) (payload : String) (origin : Origin) (calls : List Call),
      c.LeavesCache → (c.run source h).1 = .ok ⟨payload, origin⟩ →
      (origin = .fetched → h.cache.isSome = true ∧ Json.isValid payload = true) →
      (∀ c' ∈ calls, c'.LeavesCache ∧
        (c'.key = c.key → c'.Fails ∧ c'.validate payload = .ok ())) →
      ∀ cr ∈ Call.runAll source calls (c.run source h).2, cr.1.key = c.key →
        ∃ origin', cr.2 = .ok ⟨payload, origin'⟩ ∧ origin' ≠ .fetched := by
  constructor
  · intro σ s key fetch validate st
    have hpolicy := policy s key fetch validate st
    rw [(resolve_traced s key fetch validate st {}).1] at hpolicy
    exact ⟨hpolicy, resolve_state s key fetch validate st⟩
  · intro source h c payload origin calls hc hr hf hcalls
    exact (keeps_of_run hc hr hf).served_again hcalls

/-- A host with an empty disk, at the beginning of time. -/
def emptyHost : Host where
  now := ⟨0⟩
  cache := some (Manager.create "cache" none)
  network _ := .failed .timeout

/-- A call that fetches a document. -/
def fruitfulCall : Call := ⟨"key", fun h => (.ok "[1]", h), .any, id⟩

/-- A call a year later whose fetch fails, with a disk that has been emptied. -/
def lateCall : Call :=
  ⟨"key", fun h => (.error .timeout, h), .any, fun h => { h with now := ⟨31536000000000000⟩, disk := {} }⟩

theorem fetch_through_late :
    (fruitfulCall.run "source" emptyHost).1 = .ok ⟨"[1]", .fetched⟩ ∧
      ∀ cr ∈ Call.runAll "source" [lateCall, lateCall] (fruitfulCall.run "source" emptyHost).2,
        ∃ origin, cr.2 = .ok ⟨"[1]", origin⟩ ∧ origin ≠ .fetched := by
  have hrun : (fruitfulCall.run "source" emptyHost).1 = .ok ⟨"[1]", .fetched⟩ := by
    rw [Call.run, resolve_eq]
    rfl
  have hvalid : Json.isValid "[1]" = true := by decide +kernel
  refine ⟨hrun, fun cr hcr => ?_⟩
  have hkey : cr.1.key = fruitfulCall.key := by
    simp only [Call.runAll, List.mem_cons, List.not_mem_nil, or_false] at hcr
    rcases hcr with rfl | rfl <;> rfl
  refine fetch_through.2 "source" emptyHost fruitfulCall "[1]" .fetched [lateCall, lateCall]
    (fun _ => ⟨rfl, rfl⟩) hrun (fun _ => ⟨rfl, hvalid⟩) (fun c hc => ?_) cr hcr hkey
  have hlate : c = lateCall := by simpa using hc
  subst hlate
  exact ⟨fun _ => ⟨rfl, rfl⟩, fun _ => ⟨fun _ => ⟨.timeout, .inl rfl⟩, rfl⟩⟩

end Triage.Cache
