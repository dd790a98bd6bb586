import Triage.Cache.Record

/-!
# Buckets

A bucket is the cache of one source, kept in one file. The file is read when the bucket is first
used and held in memory from then on. Storing a payload rewrites the whole file: the new text goes
to a file beside it, which then takes its place, so a failure on the way leaves the file as it was.
-/
namespace Triage.Cache

open Time (Duration Instant)

/-- What a bucket needs of the host: its disk, the operations that fail, and the time. -/
structure Machine where
  disk : Disk
  faults : Faults
  now : Instant

/-- The cache of one source. `records` is absent until the file has been read. -/
structure Bucket where
  source : String
  path : String
  ttl : Duration
  records : Option Records := none
  deriving Repr, DecidableEq

structure Entry where
  payload : String
  fetchedAt : Instant
  stale : Bool
  deriving Repr, DecidableEq

namespace Bucket

/-- The records of the file; none if it cannot be read. -/
def readFile (b : Bucket) (m : Machine) : Records :=
  match m.disk.stat m.faults b.path, m.disk.read m.faults b.path with
  | .ok modified, .ok data => Records.ofFile ⟨data, modified⟩
  | _, _ => []

/-- The records of the bucket, read from the file at the first use. -/
def held (b : Bucket) (m : Machine) : Records := b.records.getD (b.readFile m)

def opened (b : Bucket) (m : Machine) : Bucket := { b with records := some (b.held m) }

/-- The entry for a key, marked stale when it is older than the bucket allows. -/
def load (b : Bucket) (m : Machine) (key : String) : Option Entry :=
  ((b.held m).lookup key).map fun r =>
    let fetchedAt := r.fetchedAt.instant
    ⟨r.payload, fetchedAt, b.ttl.nanos < (m.now.since fetchedAt).nanos⟩

/-- How many entries the bucket holds. -/
def size (b : Bucket) (m : Machine) : Nat := (b.held m).length

/-- Writes records to the file. The disk that is left when this fails may have the file beside it. -/
def flush (b : Bucket) (m : Machine) (rs : Records) : Except Failure Unit × Disk :=
  match m.disk.makeDirectory m.faults with
  | .error e => (.error e, m.disk)
  | .ok disk =>
    match rs.toText with
    | .error e => (.error e, disk)
    | .ok text =>
      match disk.write m.faults (b.path ++ ".tmp") text m.now with
      | .error e => (.error e, disk)
      | .ok disk =>
        match disk.rename m.faults (b.path ++ ".tmp") b.path with
        | .error e => (.error e, disk)
        | .ok disk => (.ok (), disk)

/-- Stores a payload at a key. A payload that is not JSON is refused; otherwise the bucket holds it
even if the file cannot be written. -/
def store (b : Bucket) (m : Machine) (key payload : String) : Except Failure Unit × Bucket × Disk :=
  if !Json.isValid payload then
    (.error (.plain ("refusing to cache invalid JSON for " ++ key)), b, m.disk)
  else
    let rs := Keyed.insert key ⟨payload, ⟨m.now, 0⟩⟩ (b.held m)
    let (written, disk) := b.flush m rs
    (written.mapError (.context s!"failed to write {b.source} cache"), { b with records := some rs }, disk)

end Bucket

end Triage.Cache
