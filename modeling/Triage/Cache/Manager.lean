import Triage.Cache.Bucket

/-!
# The cache

All buckets of one root directory. The bucket of a source has its file in a directory of its own:
`<root>/<source>/<source>_cache.json`.
-/
namespace Triage.Cache

open Time (Duration)

/-- The cache below one root directory, with the buckets that have been used. -/
structure Manager where
  root : String
  ttl : Duration
  buckets : List (String × Bucket) := []
  deriving Repr, DecidableEq

namespace Manager

/-- The root directory that is used when none is given. -/
def defaultRoot : String := ".bazel-cache"

/-- How long entries are fresh unless something else is asked for. -/
def defaultTtl : Duration := Duration.ofHours 24

/-- A cache with nothing in memory. A lifetime that is not positive is passed over. -/
def create (root : String) (ttl : Option Duration) : Manager :=
  { root := if root = "" then defaultRoot else root
    ttl := (ttl.filter fun d => 0 < d.nanos).getD defaultTtl }

/-- The file of the bucket of a source. -/
def pathOf (c : Manager) (source : String) : String :=
  Path.join [c.root, source, source ++ "_cache.json"]

def bucket (c : Manager) (source : String) : Bucket :=
  (c.buckets.lookup source).getD { source, path := c.pathOf source, ttl := c.ttl }

/-- The cache with a bucket put back. -/
def withBucket (c : Manager) (source : String) (b : Bucket) : Manager :=
  { c with buckets := Keyed.insert source b c.buckets }

def load (c : Manager) (m : Machine) (source key : String) : Option Entry × Manager :=
  let b := c.bucket source
  (b.load m key, c.withBucket source (b.opened m))

/-- How many entries there are for a source. -/
def size (c : Manager) (m : Machine) (source : String) : Nat × Manager :=
  let b := c.bucket source
  (b.size m, c.withBucket source (b.opened m))

def store (c : Manager) (m : Machine) (source key payload : String) :
    Except Failure Unit × Manager × Disk :=
  let (result, b, disk) := (c.bucket source).store m key payload
  (result, c.withBucket source b, disk)

/-- Removes the root directory and forgets all that is in memory. -/
def clear (c : Manager) (m : Machine) : Except Failure Unit × Manager × Disk :=
  match m.disk.removeAll m.faults c.root with
  | .error e => (.error (.context s!"failed to remove cache dir {c.root}" e), c, m.disk)
  | .ok disk => (.ok (), { c with buckets := [] }, disk)

/-- The same cache with nothing in memory. -/
def reopened (c : Manager) : Manager := { c with buckets := [] }

end Manager

end Triage.Cache
