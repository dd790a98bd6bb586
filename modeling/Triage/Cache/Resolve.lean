import Triage.Host.Basic

/-!
# Fetching through the cache

A payload is served from the cache while it is fresh. Otherwise it is fetched and stored, and if that
fails the old copy is served. A payload that does not pass validation counts as absent, wherever it
came from, and is neither served nor stored.
-/
namespace Triage.Cache

/-- A place for payloads by their keys, as a part of a larger state. -/
structure Store (σ : Type) where
  load : String → StateM σ (Option Entry)
  store : String → String → StateM σ (Except Failure Unit)

/-- The store that keeps nothing. -/
def Store.nothing (σ : Type) : Store σ := ⟨fun _ => pure none, fun _ _ => pure (.ok ())⟩

/-- Where a payload came from: from the cache, from a fetch, or from the cache although it is old
because of what came in the way of the fetch. -/
inductive Origin where
  | fresh
  | fetched
  | stale (cause : Failure)
  deriving Repr, DecidableEq

namespace Origin

def name : Origin → String
  | fresh => "fresh"
  | fetched => "fetched"
  | stale _ => "stale"

/-- What came in the way of a fetch. -/
def cause? : Origin → Option Failure
  | stale cause => some cause
  | _ => none

/-- The payload is an old copy. -/
def isStale (o : Origin) : Bool := o.cause?.isSome

end Origin

/-- A payload and where it came from. -/
structure Served where
  payload : String
  origin : Origin
  deriving Repr, DecidableEq

/-- Says what is wrong with a payload, if anything. -/
abbrev Validator := String → Except Failure Unit

/-- The validator that every payload passes. -/
def Validator.any : Validator := fun _ => .ok ()

/-- What the cache has to offer: an entry that passes validation. -/
def usable? (validate : Validator) (entry : Option Entry) : Option Entry :=
  entry.filter fun e => (validate e.payload).isOk

/-- A fetched payload that passes validation, or what went wrong. -/
def accepted (validate : Validator) (key : String) (fetched : Except Failure String) :
    Except Failure String := do
  let payload ← fetched
  match validate payload with
  | .ok () => return payload
  | .error e => throw (.context ("invalid payload for " ++ key) e)

/-- The payload for a key, through the store. Failing to store what was fetched does no harm. -/
def Store.resolve {σ : Type} (s : Store σ) (key : String) (fetch : StateM σ (Except Failure String))
    (validate : Validator) : StateM σ (Except Failure Served) := do
  let cached := usable? validate (← s.load key)
  match cached.filter (!·.stale) with
  | some entry => return .ok ⟨entry.payload, .fresh⟩
  | none =>
    match accepted validate key (← fetch) with
    | .ok payload =>
      let _ ← s.store key payload
      return .ok ⟨payload, .fetched⟩
    | .error cause =>
      match cached with
      | some entry => return .ok ⟨entry.payload, .stale cause⟩
      | none => return .error (.unavailable key cause)

end Triage.Cache

namespace Triage.Host

def bucket (source : String) : Cache.Store Host where
  load key := fun h =>
    match h.cache with
    | none => (none, h)
    | some c =>
      let (entry, c) := c.load h.machine source key
      (entry, { h with cache := some c })
  store key payload := fun h =>
    match h.cache with
    | none => (.ok (), h)
    | some c =>
      let (result, c, disk) := c.store h.machine source key payload
      (result, { h with cache := some c, disk })

end Triage.Host
