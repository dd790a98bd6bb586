import Triage.Proofs.Cache.Bucket

/-!
# The cache is a map

A cache is used, cleared, left alone and opened again, in any order, and writing may fail at every step.
What it holds for a source is told by a `View`, which knows nothing of buckets and files: what was stored
since the cache was opened or cleared, what the file held when it was first read, and what was last saved.
Main statement: in every scene that can come up, the cache answers as the view tells (`refines_run`). What an
event does to the view is shown once (`Tracks.step`); all that a view tells follows from that (`Tracks.refines`).
-/
namespace Triage.Cache

open Time (Duration Instant)
open Json (SameDocument)

/-! ## What can happen to a cache -/

/-- A cache on its disk at a moment. -/
structure Scene where
  cache : Manager
  disk : Disk
  now : Instant

/-- What can happen. The faults are those of writing; reading does not fail. -/
inductive Event where
  | load (source key : String)
  | store (source key payload : String) (faults : Faults)
  | clear (faults : Faults)
  | wait (time : Duration)
  | reopen (ttl : Option Duration)

namespace Scene

/-- What the buckets see of the host. -/
def machine (s : Scene) (faults : Faults) : Machine :=
  ⟨s.disk, { faults with stat := false, read := false }, s.now⟩

def load (s : Scene) (source key : String) : Option Entry × Scene :=
  let (entry, cache) := s.cache.load (s.machine {}) source key
  (entry, { s with cache })

def store (s : Scene) (source key payload : String) (faults : Faults) : Except Failure Unit × Scene :=
  let (result, cache, disk) := s.cache.store (s.machine faults) source key payload
  (result, { s with cache, disk })

def clear (s : Scene) (faults : Faults) : Except Failure Unit × Scene :=
  let (result, cache, disk) := s.cache.clear (s.machine faults)
  (result, { s with cache, disk })

/-- The program is started again on the same disk. -/
def reopened (s : Scene) (ttl : Option Duration) : Scene :=
  { s with cache := Manager.create s.cache.root ttl }

def step (s : Scene) : Event → Scene
  | .load source key => (s.load source key).2
  | .store source key payload faults => (s.store source key payload faults).2
  | .clear faults => (s.clear faults).2
  | .wait time => { s with now := s.now.add time }
  | .reopen ttl => s.reopened ttl

/-- The program is started for the first time. -/
def opening (root : String) (ttl : Option Duration) (disk : Disk) (now : Instant) : Scene :=
  ⟨Manager.create root ttl, disk, now⟩

def run (s : Scene) (events : List Event) : Scene := events.foldl step s

/-- The records that the bucket of a source holds, in memory or else on the disk. -/
def held (s : Scene) (source : String) : Records := (s.cache.bucket source).held (s.machine {})

def filed (s : Scene) (source : String) : Records := recordsAt s.disk (s.cache.pathOf source)

/-- A record as it is handed out at this moment. -/
def entry (s : Scene) (r : Record) : Entry :=
  ⟨r.payload, r.fetchedAt.instant, s.cache.ttl.nanos < (s.now.since r.fetchedAt.instant).nanos⟩

end Scene

/-! ## What a cache should hold -/

/-- What there is to know of one source. -/
structure View where
  /-- What was stored since the cache was opened or cleared, the last first. -/
  stored : List (String × Record) := []
  /-- What the file held when it was first read since then. -/
  found : Option Records := none
  /-- What was saved by the last store that succeeded, or was there from the beginning. -/
  saved : String → Option Record

namespace View

/-- The record for a key: the last one stored, or else the one found in the file. -/
def get (v : View) (file : Records) (key : String) : Option Record :=
  (v.stored.lookup key).or ((v.found.getD file).lookup key)

/-- The file is read, if it has not been read. -/
def opened (v : View) (file : Records) : View := { v with found := some (v.found.getD file) }

def put (v : View) (key : String) (r : Record) : View := { v with stored := (key, r) :: v.stored }

/-- All that is in memory is forgotten. -/
def forgotten (v : View) : View := { saved := v.saved }

/-- The view of a source before anything happens. -/
def start (source : String) (s : Scene) : View := { saved := fun key => (s.filed source).lookup key }

/-- What happens changes the view of a source. -/
def step (source : String) (s : Scene) (v : View) : Event → View
  | .load other _ => if other = source then v.opened (s.filed source) else v
  | .store other key payload faults =>
    if other = source ∧ Json.isValid payload = true then
      let v := (v.opened (s.filed source)).put key ⟨payload, ⟨s.now, 0⟩⟩
      match (s.store source key payload faults).1 with
      | .ok _ => { v with saved := v.get [] }
      | .error _ => v
    else v
  | .clear faults =>
    if faults.remove then v
    else if Disk.covers s.cache.root (s.cache.pathOf source) then { saved := fun _ => none }
    else v.forgotten
  | .wait _ => v
  | .reopen _ => v.forgotten

def run (source : String) : Scene → View → List Event → View
  | _, v, [] => v
  | s, v, event :: events => run source (s.step event) (v.step source s event) events

end View

/-! ## What one operation does -/

namespace Scene

variable {s : Scene} {source key payload : String} {faults : Faults}

theorem readable_machine (s : Scene) (faults : Faults) : (s.machine faults).Readable := ⟨rfl, rfl⟩

theorem held_machine (s : Scene) (source : String) (faults : Faults) :
    (s.cache.bucket source).held (s.machine faults) = s.held source := by
  rw [held, held_eq _ (s.readable_machine faults), held_eq _ (s.readable_machine {})]
  rfl

/-- A bucket holds what it has in memory, or else what the file holds. -/
theorem held_eq_getD (h : s.cache.Tidy) (source : String) :
    s.held source = (s.cache.bucket source).records.getD (s.filed source) := by
  rw [held, held_eq _ (s.readable_machine {}), h.path source]
  rfl

theorem load_fst (h : s.cache.Tidy) (source key : String) :
    (s.load source key).1 = ((s.held source).lookup key).map s.entry := by
  have hload : (s.load source key).1 = (s.cache.bucket source).load (s.machine {}) key := rfl
  rw [hload, Bucket.load, h.ttl source]
  rfl

theorem load_snd (s : Scene) (source key : String) :
    (s.load source key).2 =
      { s with cache := s.cache.withBucket source { s.cache.bucket source with records := some (s.held source) } } :=
  rfl

/-- A payload that is not JSON is refused, and nothing changes. -/
theorem store_of_invalid (h : Json.isValid payload = false) (s : Scene) (source key : String) (faults : Faults) :
    ∃ e, s.store source key payload faults =
      (.error e, { s with cache := s.cache.withBucket source (s.cache.bucket source) }) := by
  refine ⟨.plain ("refusing to cache invalid JSON for " ++ key), ?_⟩
  simp only [store, Manager.store, Bucket.store, h, Bool.not_false, if_true]
  rfl

/-- The records of a bucket with one more. -/
def withRecord (s : Scene) (source key payload : String) : Records :=
  Keyed.insert key ⟨payload, ⟨s.now, 0⟩⟩ (s.held source)

/-- Any other payload is held in memory from then on, and the file is written if that does not fail. -/
theorem store_of_valid (h : Json.isValid payload = true) (s : Scene) (source key : String) (faults : Faults) :
    ∃ result disk,
      Flushed (s.cache.bucket source) (s.machine faults) (s.withRecord source key payload) (result, disk) ∧
        s.store source key payload faults =
          (result.mapError (.context s!"failed to write {(s.cache.bucket source).source} cache"),
            ⟨s.cache.withBucket source
              { s.cache.bucket source with records := some (s.withRecord source key payload) }, disk, s.now⟩) := by
  refine ⟨_, _, flushed_flush _ _ _, ?_⟩
  simp only [store, Manager.store, Bucket.store, h, Bool.not_true, Bool.false_eq_true, if_false, held_machine]
  rfl

/-- A store puts its bucket back, with other records or the same. -/
theorem exists_cache_store (s : Scene) (source key payload : String) (faults : Faults) :
    ∃ records, (s.store source key payload faults).2.cache =
      s.cache.withBucket source { s.cache.bucket source with records } := by
  cases hvalid : Json.isValid payload with
  | false =>
    obtain ⟨e, hstore⟩ := store_of_invalid hvalid s source key faults
    exact ⟨(s.cache.bucket source).records, by rw [hstore]⟩
  | true =>
    obtain ⟨result, disk, -, hstore⟩ := store_of_valid hvalid s source key faults
    exact ⟨some (s.withRecord source key payload), by rw [hstore]⟩

theorem tidy_store (h : s.cache.Tidy) (source key payload : String) (faults : Faults) :
    (s.store source key payload faults).2.cache.Tidy := by
  obtain ⟨records, hcache⟩ := exists_cache_store s source key payload faults
  rw [hcache]
  exact h.withBucket source rfl rfl

theorem clear_of_fault (h : faults.remove = true) (s : Scene) : ∃ e, s.clear faults = (.error e, s) := by
  refine ⟨.context s!"failed to remove cache dir {s.cache.root}" (Disk.injected "remove"), ?_⟩
  simp only [clear, Manager.clear, Disk.removeAll, machine, h, if_true]

theorem clear_of_no_fault (h : faults.remove = false) (s : Scene) :
    ∃ disk, s.disk.removeAll faults s.cache.root = .ok disk ∧
      s.clear faults = (.ok (), ⟨{ s.cache with buckets := [] }, disk, s.now⟩) := by
  obtain ⟨disk, hdisk⟩ : ∃ disk, s.disk.removeAll faults s.cache.root = .ok disk := by
    simp only [Disk.removeAll, h, Bool.false_eq_true, if_false]
    exact ⟨_, rfl⟩
  have hmachine : (s.machine faults).disk.removeAll (s.machine faults).faults s.cache.root = .ok disk := hdisk
  exact ⟨disk, hdisk, by simp only [clear, Manager.clear, hmachine]⟩

theorem root_reopened (h : s.cache.root ≠ "") (ttl : Option Duration) : (s.reopened ttl).cache.root = s.cache.root :=
  if_neg h

end Scene

/-! ## The view is right -/

/-- The view is right about a scene. -/
structure Tracks (source : String) (s : Scene) (v : View) : Prop where
  tidy : s.cache.Tidy
  root : s.cache.root ≠ ""
  ttl : 0 < s.cache.ttl.nanos
  /-- As long as the file has not been read, nothing has been stored. -/
  unread : (s.cache.bucket source).records = none → v.stored = [] ∧ v.found = none
  /-- From then on, memory has what was stored and found. -/
  read : ∀ rs, (s.cache.bucket source).records = some rs →
    rs.Sound ∧ v.found.isSome ∧ ∀ key, rs.lookup key = v.get [] key
  /-- The file has what was saved. -/
  saved : ∀ key, Option.Rel Alike (v.saved key) ((s.filed source).lookup key)

namespace Tracks

variable {source : String} {s : Scene} {v : View}

theorem sound_held (h : Tracks source s v) : (s.held source).Sound := by
  rw [Scene.held_eq_getD h.tidy]
  cases hrecords : (s.cache.bucket source).records with
  | none => exact sound_recordsAt _ _
  | some rs => exact (h.read rs hrecords).1

theorem lookup_held (h : Tracks source s v) (key : String) :
    (s.held source).lookup key = v.get (s.filed source) key := by
  rw [Scene.held_eq_getD h.tidy]
  cases hrecords : (s.cache.bucket source).records with
  | none =>
    obtain ⟨hstored, hfound⟩ := h.unread hrecords
    rw [View.get, hstored, hfound]
    rfl
  | some rs =>
    obtain ⟨-, hfound, hlookup⟩ := h.read rs hrecords
    obtain ⟨found, hfound⟩ := Option.isSome_iff_exists.1 hfound
    refine (hlookup key).trans ?_
    rw [View.get, View.get, hfound]
    rfl

theorem get_opened (v : View) (file : Records) (key : String) : (v.opened file).get [] key = v.get file key := rfl

/-- A scene with the same bucket and the same file is seen the same way. -/
theorem congr (h : Tracks source s v) {s' : Scene} (htidy : s'.cache.Tidy) (hroot : s'.cache.root = s.cache.root)
    (httl : s'.cache.ttl = s.cache.ttl)
    (hbucket : (s'.cache.bucket source).records = (s.cache.bucket source).records)
    (hfile : s'.disk.get? (s.cache.pathOf source) = s.disk.get? (s.cache.pathOf source)) : Tracks source s' v := by
  have hpath := Manager.pathOf_eq_of_root hroot source
  refine ⟨htidy, by rw [hroot]; exact h.root, by rw [httl]; exact h.ttl, ?_, ?_, ?_⟩
  · rw [hbucket]; exact h.unread
  · rw [hbucket]; exact h.read
  · rw [Scene.filed, hpath, recordsAt, hfile]; exact h.saved

theorem load (h : Tracks source s v) (other key : String) :
    Tracks source (s.step (.load other key)) (v.step source s (.load other key)) := by
  have htidy : (s.step (.load other key)).cache.Tidy := h.tidy.withBucket other rfl rfl
  by_cases hother : other = source
  · subst hother
    have hrecords : ((s.step (.load other key)).cache.bucket other).records = some (s.held other) := by
      rw [Scene.step, Scene.load_snd, bucket_withBucket]
    rw [View.step, if_pos rfl]
    refine ⟨htidy, h.root, h.ttl, ?_, ?_, h.saved⟩
    · rw [hrecords]
      intro hnone
      cases hnone
    · rw [hrecords]
      rintro rs hrs
      cases hrs
      exact ⟨h.sound_held, rfl, fun key => (h.lookup_held key).trans (get_opened v _ key).symm⟩
  · rw [View.step, if_neg hother]
    refine h.congr htidy rfl rfl ?_ rfl
    rw [Scene.step, Scene.load_snd, bucket_withBucket_of_ne (Ne.symm hother)]

theorem lookup_withRecord (h : Tracks source s v) (key payload other : String) :
    (s.withRecord source key payload).lookup other =
      ((v.opened (s.filed source)).put key ⟨payload, ⟨s.now, 0⟩⟩).get [] other := by
  have hget : ((v.opened (s.filed source)).put key ⟨payload, ⟨s.now, 0⟩⟩).get [] other =
      if other = key then some ⟨payload, ⟨s.now, 0⟩⟩ else v.get (s.filed source) other := by
    by_cases hother : other = key
    · simp [View.get, View.put, hother]
    · simp [View.get, View.put, View.opened, List.lookup_cons, beq_false_of_ne hother, hother]
  rw [hget, Scene.withRecord]
  split
  · rename_i hother
    rw [hother, Keyed.lookup_insert_self]
  · rename_i hother
    rw [Keyed.lookup_insert_of_ne _ _ _ _ hother, h.lookup_held]

theorem sound_withRecord (h : Tracks source s v) (key : String) {payload : String}
    (hvalid : Json.isValid payload = true) : (s.withRecord source key payload).Sound :=
  h.sound_held.insert key ⟨hvalid, Time.Stamp.whole_universal _⟩

/-- The file of a source is not at the place where its text is first written. -/
theorem place_path_ne (h : Tracks source s v) (other : String) :
    Disk.place (s.cache.pathOf source) ≠ Disk.place ((s.cache.bucket other).path ++ ".tmp") := by
  rw [h.tidy.path other]
  exact place_pathOf_ne s.cache source other

theorem store_self (h : Tracks source s v) (key : String) {payload : String} (hvalid : Json.isValid payload = true)
    (faults : Faults) :
    Tracks source (s.step (.store source key payload faults))
      (v.step source s (.store source key payload faults)) := by
  obtain ⟨result, disk, hflushed, hstore⟩ := Scene.store_of_valid hvalid s source key faults
  have hpath := h.tidy.path source
  have hlookup := h.lookup_withRecord key payload
  have hsound := h.sound_withRecord key hvalid
  rw [View.step, if_pos ⟨rfl, hvalid⟩, Scene.step, hstore]
  -- Memory is the same whether the file could be written or not.
  have hmemory {v' : View} (hv' : v'.get [] = ((v.opened (s.filed source)).put key ⟨payload, ⟨s.now, 0⟩⟩).get [])
      (hfound : v'.found.isSome)
      (hsaved : ∀ key, Option.Rel Alike (v'.saved key) ((recordsAt disk (s.cache.pathOf source)).lookup key)) :
      Tracks source ⟨s.cache.withBucket source
        { s.cache.bucket source with records := some (s.withRecord source key payload) }, disk, s.now⟩ v' := by
    refine ⟨h.tidy.withBucket source rfl rfl, h.root, h.ttl, ?_, ?_, hsaved⟩
    · rw [bucket_withBucket]
      intro hnone
      cases hnone
    · rw [bucket_withBucket]
      rintro rs hrs
      cases hrs
      exact ⟨hsound, hfound, fun other => by rw [hv']; exact hlookup other⟩
  cases result with
  | error e =>
    refine hmemory rfl rfl fun other => ?_
    have hfile := hflushed.get?_of_error (hpath ▸ h.place_path_ne source)
    rw [hpath] at hfile
    rw [recordsAt, hfile]
    exact h.saved other
  | ok =>
    refine hmemory rfl rfl fun other => ?_
    have hkept := rel_lookup (hflushed.kept_of_ok hsound) other
    rw [hpath, hlookup] at hkept
    exact hkept

theorem store_refused (h : Tracks source s v) (other key : String) {payload : String}
    (hvalid : Json.isValid payload = false) (faults : Faults) :
    Tracks source (s.step (.store other key payload faults))
      (v.step source s (.store other key payload faults)) := by
  obtain ⟨e, hstore⟩ := Scene.store_of_invalid hvalid s other key faults
  rw [View.step, if_neg (by simp [hvalid]), Scene.step, hstore]
  refine h.congr (h.tidy.withBucket other rfl rfl) rfl rfl ?_ rfl
  by_cases hother : source = other
  · rw [hother, bucket_withBucket]
  · rw [bucket_withBucket_of_ne hother]

/-- Another source that has its file at another place does not matter. -/
theorem store_other (h : Tracks source s v) {other : String} (hother : other ≠ source)
    (hplace : Disk.place (s.cache.pathOf other) ≠ Disk.place (s.cache.pathOf source)) (key : String)
    {payload : String} (hvalid : Json.isValid payload = true) (faults : Faults) :
    Tracks source (s.step (.store other key payload faults))
      (v.step source s (.store other key payload faults)) := by
  obtain ⟨result, disk, hflushed, hstore⟩ := Scene.store_of_valid hvalid s other key faults
  rw [View.step, if_neg (by simp [hother]), Scene.step, hstore]
  refine h.congr (h.tidy.withBucket other rfl rfl) rfl rfl ?_ ?_
  · rw [bucket_withBucket_of_ne (Ne.symm hother)]
  · refine hflushed.get?_of_ne ?_ (h.place_path_ne other)
    rw [h.tidy.path other]
    exact Ne.symm hplace

/-- A scene in which nothing is in memory is seen right by a view that has forgotten. -/
theorem of_buckets_nil (s : Scene) (hbuckets : s.cache.buckets = []) (hroot : s.cache.root ≠ "")
    (httl : 0 < s.cache.ttl.nanos) {saved : String → Option Record}
    (hsaved : ∀ key, Option.Rel Alike (saved key) ((s.filed source).lookup key)) :
    Tracks source s { saved } := by
  have hrecords : (s.cache.bucket source).records = none := by
    rw [Manager.bucket, hbuckets]
    rfl
  refine ⟨Manager.tidy_of_buckets_nil hbuckets, hroot, httl, fun _ => ⟨rfl, rfl⟩, ?_, hsaved⟩
  rw [hrecords]
  intro rs hrs
  cases hrs

theorem clear (h : Tracks source s v) (faults : Faults) :
    Tracks source (s.step (.clear faults)) (v.step source s (.clear faults)) := by
  cases hfault : faults.remove with
  | true =>
    obtain ⟨e, hclear⟩ := Scene.clear_of_fault hfault s
    rw [View.step, if_pos hfault, Scene.step, hclear]
    exact h
  | false =>
    obtain ⟨disk, hremove, hclear⟩ := Scene.clear_of_no_fault hfault s
    have hfile := Disk.get?_removeAll hremove (s.cache.pathOf source)
    have hempty {saved : String → Option Record}
        (hsaved : ∀ key, Option.Rel Alike (saved key) ((recordsAt disk (s.cache.pathOf source)).lookup key)) :
        Tracks source (s.step (.clear faults)) { saved } := by
      rw [Scene.step, hclear]
      exact of_buckets_nil ⟨{ s.cache with buckets := [] }, disk, s.now⟩ rfl h.root h.ttl hsaved
    rw [View.step, if_neg (by simp [hfault])]
    split
    · rename_i hcovers
      rw [if_pos hcovers] at hfile
      refine hempty fun key => ?_
      rw [recordsAt, hfile]
      exact .none
    · rename_i hcovers
      rw [if_neg hcovers] at hfile
      refine hempty fun key => ?_
      rw [recordsAt, hfile]
      exact h.saved key

theorem reopen (h : Tracks source s v) (ttl : Option Duration) :
    Tracks source (s.reopened ttl) v.forgotten := by
  have hroot := Scene.root_reopened h.root ttl
  refine of_buckets_nil _ rfl (by rw [hroot]; exact h.root) (Manager.ttl_create_pos _ ttl) fun key => ?_
  rw [Scene.filed, Manager.pathOf_eq_of_root hroot]
  exact h.saved key

end Tracks

/-! ## Every run -/

/-- Only the source itself stores at the place of its file. -/
def Event.Spares (source : String) (c : Manager) : Event → Prop
  | .store other _ _ _ => other = source ∨ Disk.place (c.pathOf other) ≠ Disk.place (c.pathOf source)
  | _ => True

instance (source : String) (c : Manager) : DecidablePred (Event.Spares source c)
  | .store .. => inferInstanceAs (Decidable (_ ∨ _))
  | .load .. | .clear .. | .wait .. | .reopen .. => isTrue trivial

theorem Event.Spares.congr {source : String} {c c' : Manager} (hroot : c'.root = c.root) {event : Event}
    (h : event.Spares source c) : event.Spares source c' := by
  cases event with
  | store other => simpa only [Event.Spares, Manager.pathOf_eq_of_root hroot] using h
  | load | clear | wait | reopen => trivial

theorem Scene.root_step {s : Scene} (h : s.cache.root ≠ "") (event : Event) :
    (s.step event).cache.root = s.cache.root := by
  cases event with
  | load | wait => rfl
  | store source key payload faults =>
    obtain ⟨records, hcache⟩ := exists_cache_store s source key payload faults
    rw [step, hcache]
    rfl
  | clear faults =>
    cases hfault : faults.remove with
    | true =>
      obtain ⟨e, hclear⟩ := clear_of_fault hfault s
      rw [step, hclear]
    | false =>
      obtain ⟨disk, -, hclear⟩ := clear_of_no_fault hfault s
      rw [step, hclear]
  | reopen ttl => exact root_reopened h ttl

namespace Tracks

variable {source : String} {s : Scene} {v : View}

/-- **One event** keeps the view right. -/
theorem step (h : Tracks source s v) {event : Event} (hspares : event.Spares source s.cache) :
    Tracks source (s.step event) (v.step source s event) := by
  cases event with
  | load other key => exact h.load other key
  | store other key payload faults =>
    cases hvalid : Json.isValid payload with
    | false => exact h.store_refused other key hvalid faults
    | true =>
      by_cases hother : other = source
      · subst hother
        exact h.store_self key hvalid faults
      · exact h.store_other hother (hspares.resolve_left hother) key hvalid faults
  | clear faults => exact h.clear faults
  | wait time => exact h.congr h.tidy rfl rfl rfl rfl
  | reopen ttl => exact h.reopen ttl

/-- **All events** keep the view right. -/
theorem run (h : Tracks source s v) {events : List Event}
    (hspares : ∀ event ∈ events, event.Spares source s.cache) :
    Tracks source (s.run events) (View.run source s v events) := by
  induction events generalizing s v with
  | nil => exact h
  | cons event events ih =>
    refine ih (h.step (hspares event List.mem_cons_self)) fun other hother => ?_
    exact (hspares other (List.mem_cons_of_mem _ hother)).congr (Scene.root_step h.root event)

end Tracks

theorem tracks_start (source root : String) (ttl : Option Duration) (disk : Disk) (now : Instant) :
    Tracks source (.opening root ttl disk now) (View.start source (.opening root ttl disk now)) :=
  .of_buckets_nil _ rfl (Manager.root_create_ne root ttl) (Manager.ttl_create_pos root ttl)
    (sound_recordsAt _ _).rel_lookup_self

/-! ## What the view tells -/

namespace Scene

variable {s : Scene} {source key payload : String} {faults : Faults}

/-- An entry is stale exactly when it is older than the lifetime. Ages end at the longest duration. -/
theorem stale_entry_iff (h : 0 < s.cache.ttl.nanos) (r : Record) :
    (s.entry r).stale = true ↔
      s.cache.ttl.nanos < min Duration.maxNanos (s.now.nanos - r.fetchedAt.instant.nanos) := by
  have hmin : Duration.minNanos < 0 := by decide
  have hstale : (s.entry r).stale = decide (s.cache.ttl.nanos < max Duration.minNanos
      (min Duration.maxNanos (s.now.nanos - r.fetchedAt.instant.nanos))) := rfl
  rw [hstale, decide_eq_true_iff]
  omega

theorem held_reopened (h : s.cache.root ≠ "") (source : String) (ttl : Option Duration) :
    (s.reopened ttl).held source = s.filed source := by
  have htidy : (s.reopened ttl).cache.Tidy := Manager.tidy_of_buckets_nil rfl
  rw [held_eq_getD htidy, filed, Manager.pathOf_eq_of_root (root_reopened h ttl)]
  rfl

/-- What a store leaves at the other keys. -/
theorem lookup_held_store (h : s.cache.Tidy) {other : String} (hother : other ≠ key) (payload : String)
    (faults : Faults) :
    ((s.store source key payload faults).2.held source).lookup other = (s.held source).lookup other := by
  rw [held_eq_getD (tidy_store h source key payload faults)]
  cases hvalid : Json.isValid payload with
  | false =>
    obtain ⟨e, hstore⟩ := store_of_invalid hvalid s source key faults
    rw [hstore, held_eq_getD h, bucket_withBucket]
    rfl
  | true =>
    obtain ⟨result, disk, -, hstore⟩ := store_of_valid hvalid s source key faults
    rw [hstore, bucket_withBucket]
    exact Keyed.lookup_insert_of_ne _ _ _ _ hother

theorem isValid_of_store (h : (s.store source key payload faults).1 = .ok ()) : Json.isValid payload = true := by
  refine Bool.eq_true_of_not_eq_false fun hvalid => ?_
  obtain ⟨e, hstore⟩ := store_of_invalid hvalid s source key faults
  rw [hstore] at h
  cases h

end Scene

/-- A scene is as a view of one of its sources tells. -/
structure Refines (source : String) (s : Scene) (v : View) : Prop where
  /-- What is loaded is what was stored last, or else what the file held when it was first read. -/
  load : ∀ key, (s.load source key).1 = (v.get (s.filed source) key).map s.entry
  /-- It is stale exactly when it is older than the lifetime. Ages end at the longest duration. -/
  stale : ∀ r, (s.entry r).stale = true ↔
    s.cache.ttl.nanos < min Duration.maxNanos (s.now.nanos - r.fetchedAt.instant.nanos)
  /-- A cache that is opened again holds what was saved. -/
  reopened : ∀ ttl key, Option.Rel Alike (v.saved key) (((s.reopened ttl).held source).lookup key)
  /-- A store does not change what is loaded at another key. -/
  others : ∀ key payload faults other, other ≠ key →
    ((s.store source key payload faults).2.load source other).1 = (s.load source other).1
  /-- Nor does it change the time and the document of another key in the file that it writes. -/
  rewritten : ∀ key payload faults, (s.store source key payload faults).1 = .ok () → ∀ ttl other, other ≠ key →
    Option.Rel Alike ((s.held source).lookup other)
      ((((s.store source key payload faults).2.reopened ttl).held source).lookup other)
  /-- A store that fails leaves the file as it was. -/
  failed : ∀ key payload faults e, (s.store source key payload faults).1 = .error e →
    (s.store source key payload faults).2.disk.get? (s.cache.pathOf source) = s.disk.get? (s.cache.pathOf source)
  /-- After a store that succeeds, a cache that is opened again holds the same keys, times and documents. -/
  kept : ∀ key payload faults, (s.store source key payload faults).1 = .ok () → ∀ ttl,
    List.Forall₂ Kept ((s.store source key payload faults).2.held source)
      (((s.store source key payload faults).2.reopened ttl).held source)
  /-- Nothing is left of a plain source when the cache has been cleared. -/
  cleared : IsPlainName source → Disk.place s.cache.root ≠ "/" → ∀ faults, (s.clear faults).1 = .ok () →
    ∀ key, ((s.clear faults).2.load source key).1 = none

namespace Tracks

variable {source : String} {s : Scene} {v : View}

theorem others (h : Tracks source s v) (key payload : String) (faults : Faults) {other : String}
    (hother : other ≠ key) :
    ((s.store source key payload faults).2.load source other).1 = (s.load source other).1 := by
  have hentry : (s.store source key payload faults).2.entry = s.entry := rfl
  rw [Scene.load_fst (Scene.tidy_store h.tidy source key payload faults), Scene.load_fst h.tidy,
    Scene.lookup_held_store h.tidy hother, hentry]

theorem failed (h : Tracks source s v) {key payload : String} {faults : Faults} {e : Failure}
    (herror : (s.store source key payload faults).1 = .error e) :
    (s.store source key payload faults).2.disk.get? (s.cache.pathOf source) =
      s.disk.get? (s.cache.pathOf source) := by
  cases hvalid : Json.isValid payload with
  | false =>
    obtain ⟨e, hstore⟩ := Scene.store_of_invalid hvalid s source key faults
    rw [hstore]
  | true =>
    obtain ⟨result, disk, hflushed, hstore⟩ := Scene.store_of_valid hvalid s source key faults
    rw [hstore] at herror ⊢
    cases result with
    | ok => cases herror
    | error e =>
      have hfile := hflushed.get?_of_error (h.tidy.path source ▸ h.place_path_ne source)
      rwa [h.tidy.path source] at hfile

theorem kept (h : Tracks source s v) {key payload : String} {faults : Faults}
    (hok : (s.store source key payload faults).1 = .ok ()) (ttl : Option Duration) :
    List.Forall₂ Kept ((s.store source key payload faults).2.held source)
      (((s.store source key payload faults).2.reopened ttl).held source) := by
  have hvalid := Scene.isValid_of_store hok
  have htidy := Scene.tidy_store h.tidy source key payload faults
  have hroot : (s.store source key payload faults).2.cache.root = s.cache.root :=
    Scene.root_step h.root (.store source key payload faults)
  rw [Scene.held_reopened (by rw [hroot]; exact h.root), Scene.held_eq_getD htidy, Scene.filed,
    Manager.pathOf_eq_of_root hroot]
  obtain ⟨result, disk, hflushed, hstore⟩ := Scene.store_of_valid hvalid s source key faults
  rw [hstore] at hok ⊢
  rw [bucket_withBucket]
  cases result with
  | error e => cases hok
  | ok =>
    have hkept := hflushed.kept_of_ok (h.sound_withRecord key hvalid)
    rwa [h.tidy.path source] at hkept

example : ((Scene.opening "c" none {} ⟨0⟩).store "kev" "a" "1" {}).1.isOk = true := by decide +kernel

theorem cleared (h : Tracks source s v) (hsource : IsPlainName source) (hroot : Disk.place s.cache.root ≠ "/")
    {faults : Faults} (hok : (s.clear faults).1 = .ok ()) (key : String) :
    ((s.clear faults).2.load source key).1 = none := by
  cases hfault : faults.remove with
  | true =>
    obtain ⟨e, hclear⟩ := Scene.clear_of_fault hfault s
    rw [hclear] at hok
    cases hok
  | false =>
    have hview : v.step source s (.clear faults) = { saved := fun _ => none } := by
      rw [View.step, if_neg (by simp [hfault]), if_pos (covers_pathOf hroot hsource)]
    have htracks : Tracks source (s.clear faults).2 { saved := fun _ => none } := hview ▸ h.clear faults
    have hget : View.get { saved := fun _ => none } ((s.clear faults).2.filed source) key =
        ((s.clear faults).2.filed source).lookup key := rfl
    have hnone {o : Option Record} (ho : Option.Rel Alike none o) : o = none := by
      cases ho
      rfl
    rw [Scene.load_fst htracks.tidy, htracks.lookup_held, hget, hnone (htracks.saved key)]
    rfl

/-- A view that is right tells all of this. -/
theorem refines (h : Tracks source s v) : Refines source s v where
  load key := by rw [Scene.load_fst h.tidy, h.lookup_held]
  stale := Scene.stale_entry_iff h.ttl
  reopened ttl key := by
    rw [Scene.held_reopened h.root]
    exact h.saved key
  others key payload faults _ hother := h.others key payload faults hother
  rewritten key payload faults hok ttl other hother := by
    rw [← Scene.lookup_held_store h.tidy hother payload faults]
    exact rel_lookup (h.kept hok ttl) other
  failed _ _ _ _ := h.failed
  kept _ _ _ := h.kept
  cleared hsource hroot _ hok := h.cleared hsource hroot hok

end Tracks

/-- **The cache is a map**, from whatever is on the disk and through whatever happens to it, as long as no
other source stores at the place of the file. If that file is well-formed, the map begins with what it says. -/
theorem refines_run (source root : String) (ttl : Option Duration) (disk : Disk) (now : Instant)
    (events : List Event) (hspares : ∀ event ∈ events, event.Spares source (Manager.create root ttl)) :
    (∀ file entries, disk.get? ((Manager.create root ttl).pathOf source) = some file → Holds file entries →
      ∀ key, Option.Rel Means (entries.lookup key) (((Scene.opening root ttl disk now).filed source).lookup key)) ∧
    Refines source ((Scene.opening root ttl disk now).run events)
      (View.run source (.opening root ttl disk now) (.start source (.opening root ttl disk now)) events) := by
  refine ⟨fun file entries hfile hholds key => ?_, ((tracks_start source root ttl disk now).run hspares).refines⟩
  have hfiled : (Scene.opening root ttl disk now).filed source = Records.ofFile file := by
    rw [Scene.filed, recordsAt]
    exact hfile ▸ rfl
  rw [hfiled]
  exact hholds.rel_lookup key

/-- A file with a bare payload and a record. -/
def mixedFile : File :=
  ⟨"\x7b\"a\": [1], \"b\": \x7b\"payload\": true, \"fetched_at\": \"2024-01-01T00:00:00Z\"\x7d\x7d", ⟨0⟩⟩

def mixedDisk : Disk := ⟨[("c/kev/kev_cache.json", mixedFile)]⟩

/-- A store that fails, a store of another source, a clear that fails, and a new start after more than a day. -/
def mixedEvents : List Event :=
  [.load "kev" "a", .store "kev" "c" "[2]" { mkdir := true }, .store "epss" "a" "3" {}, .clear { remove := true },
    .wait ⟨90000000000000⟩, .reopen none]

theorem holds_mixedFile :
    Holds mixedFile [("a", .array [.number "1"], ⟨⟨0⟩, 0⟩), ("b", .bool true, ⟨⟨1704067200000000000⟩, 0⟩)] := by
  refine ⟨by decide, [("a", .array [.number "1"]), ("b", .object [("payload", .bool true),
    ("fetched_at", .string "2024-01-01T00:00:00Z")])], by cbv,
    .cons ⟨by decide +kernel, .bare ?_⟩ (.cons ⟨by decide +kernel, ?_⟩ .nil)⟩
  · intro ms hms
    cases hms
  · refine .record ⟨_, List.mem_cons_self, by decide +kernel⟩ ?_
      ⟨_, List.mem_cons_of_mem _ List.mem_cons_self, by decide +kernel⟩ ?_
    · have hname : isField "payload" (Json.unescape "fetched_at") = false := by decide +kernel
      simp [hname]
    · have hname : isField "fetched_at" (Json.unescape "payload") = false := by decide +kernel
      have htime : Time.Stamp.parse? "2024-01-01T00:00:00Z" = some ⟨⟨1704067200000000000⟩, 0⟩ := by decide +kernel
      simp [hname, htime]

theorem refines_run_mixed :
    (∀ event ∈ mixedEvents, event.Spares "kev" (Manager.create "c" none)) ∧
    (∀ key, Option.Rel Means
      (List.lookup key [("a", .array [.number "1"], ⟨⟨0⟩, 0⟩), ("b", .bool true, ⟨⟨1704067200000000000⟩, 0⟩)])
      (((Scene.opening "c" none mixedDisk ⟨0⟩).filed "kev").lookup key)) ∧
    (((Scene.opening "c" none mixedDisk ⟨0⟩).run mixedEvents).load "kev" "a").1 = some ⟨"[1]", ⟨0⟩, true⟩ ∧
    Refines "kev" ((Scene.opening "c" none mixedDisk ⟨0⟩).run mixedEvents)
      (View.run "kev" (.opening "c" none mixedDisk ⟨0⟩) (.start "kev" (.opening "c" none mixedDisk ⟨0⟩))
        mixedEvents) := by
  have hspares : ∀ event ∈ mixedEvents, event.Spares "kev" (Manager.create "c" none) := by decide +kernel
  obtain ⟨hopening, hrefines⟩ := refines_run "kev" "c" none mixedDisk ⟨0⟩ mixedEvents hspares
  exact ⟨hspares, hopening mixedFile _ (by decide +kernel) holds_mixedFile, by decide +kernel, hrefines⟩

end Triage.Cache
