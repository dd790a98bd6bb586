import Triage.Cache.Manager
import Triage.Host.Network

/-!
# The host

What the sources share and what is outside of them: the disk, the clock, the network, and the cache.
An activity on the host (`Session`) sees it as it is and leaves it changed.
-/
namespace Triage

open Time (Instant)

/-- The world that sources run in. -/
structure Host where
  disk : Disk := {}
  faults : Faults := {}
  now : Instant
  /-- The cache on the disk; none if caching is off. -/
  cache : Option Cache.Manager
  /-- What the network answers. -/
  network : Request → Reply
  /-- The current activity has been called off. -/
  canceled : Bool := false
  /-- The requests that have been sent, the last one first. -/
  sent : List Request := []

abbrev Session (α : Type) := StateM Host α

namespace Host

/-- The part of the host that the cache needs. -/
def machine (h : Host) : Cache.Machine := ⟨h.disk, h.faults, h.now⟩

def reply (h : Host) (r : Request) : Reply :=
  if h.canceled then .failed .canceled else h.network r

/-- Sends a request. It counts as sent even if the activity has been called off. -/
def send (r : Request) : Session Reply := fun h =>
  (h.reply r, { h with sent := r :: h.sent })

/-- How the program introduces itself to servers. -/
def agent : String := "riskrelay/1.0 (+https://github.com/jfeddern/RiskRelay)"

/-- The body of the reply that a server gives for an address, if the status is 200. -/
def get (url authorization : String) : Session (Except Failure String) :=
  match Url.parse url with
  | .error e => return .error (.context "failed to build request" e)
  | .ok u => do
    let u := u.withoutEmptyPort
    let authorization := if authorization = "" then u.credentials else authorization
    match ← send { method := "GET", url := u.text, authorization, accept := "application/json", agent } with
    | .failed cause =>
      return .error (.context s!"request to {url} failed" (.transport "Get" u.discreet cause))
    | .answered code body broken =>
      if code ≠ 200 then return .error (.status code url)
      else
        match broken with
        | some cause => return .error (.context "failed to read response body" cause)
        | none => return .ok body

end Host

end Triage
