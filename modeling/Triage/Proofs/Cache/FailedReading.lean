import Triage.Proofs.Cache.Refinement

/-!
# Stores after a failed reading

The file of a bucket is read once, when the bucket is first used. If that reading fails, the bucket takes the
file for empty from then on, and does not read it again; the next store that succeeds puts a file in its place
that has only what was stored in the meantime. What became of the reading and of the stores since is kept in a
`Ledger`, which knows nothing of the memory of the bucket. Main statement: a store that succeeds leaves of the
other keys exactly what the ledger lets survive, and so keeps what the file held if and only if the bucket has
not been blind to it (`kept_iff_read`).
-/
namespace Triage.Cache

open Time (Duration Instant)

/-! ## What can be done with a bucket -/

/-- A bucket and the disk that its file is on. -/
structure Shelf where
  bucket : Bucket
  disk : Disk

/-- What is done with a bucket. -/
inductive Use where
  | load (key : String)
  | size
  | store (key payload : String)
  /-- The program is started again, with nothing in memory. -/
  | reopen

/-- One use of a bucket, at some time, while some operations of the disk fail. -/
structure Act where
  use : Use
  faults : Faults := {}
  now : Instant := ⟨0⟩

namespace Shelf

def store (s : Shelf) (key payload : String) (faults : Faults) (now : Instant) :
    Except Failure Unit × Shelf :=
  let (result, bucket, disk) := s.bucket.store ⟨s.disk, faults, now⟩ key payload
  (result, ⟨bucket, disk⟩)

def step (s : Shelf) (a : Act) : Shelf :=
  match a.use with
  | .load _ | .size => { s with bucket := s.bucket.opened ⟨s.disk, a.faults, a.now⟩ }
  | .store key payload => (s.store key payload a.faults a.now).2
  | .reopen => { s with bucket.records := none }

def run (s : Shelf) (acts : List Act) : Shelf := acts.foldl step s

def filed (s : Shelf) : Records := recordsAt s.disk s.bucket.path

/-- The bucket of a source before its first use. -/
def opening (root : String) (ttl : Option Duration) (source : String) (disk : Disk) : Shelf :=
  ⟨(Manager.create root ttl).bucket source, disk⟩

end Shelf

/-! ## What becomes of the file -/

/-- What there is to know of a bucket from the outside. -/
structure Ledger where
  /-- Whether the bucket knows what the file holds: it was read without a fault at the first use, or it has
  been written since. Before the first use this is open. -/
  knows : Option Bool := none
  /-- What was stored since then without being written, the last first. -/
  unsaved : List (String × Record) := []

namespace Ledger

/-- The first use reads the file. -/
def opened (l : Ledger) (faults : Faults) : Ledger :=
  { l with knows := some (l.knows.getD (!faults.stat && !faults.read)) }

def step (l : Ledger) (s : Shelf) (a : Act) : Ledger :=
  match a.use with
  | .load _ | .size => l.opened a.faults
  | .store key payload =>
    if Json.isValid payload then
      match (s.store key payload a.faults a.now).1 with
      | .ok _ => { knows := some true }
      | .error _ => { l.opened a.faults with unsaved := (key, ⟨payload, ⟨a.now, 0⟩⟩) :: l.unsaved }
    else l
  | .reopen => {}

def run (l : Ledger) (s : Shelf) : List Act → Ledger
  | [] => l
  | a :: acts => run (l.step s a) (s.step a) acts

/-- What survives at a key when the file is written: what was stored and is not in the file yet, or else what
the file holds, unless the bucket is blind to it. -/
def survivor (l : Ledger) (file : Records) (key : String) : Option Record :=
  (l.unsaved.lookup key).or (if l.knows = some true then file.lookup key else none)

theorem survivor_unsaved (l : Ledger) (key : String) (r : Record) (file : Records) (other : String) :
    ({ l with unsaved := (key, r) :: l.unsaved } : Ledger).survivor file other =
      if other = key then some r else l.survivor file other := by
  by_cases hother : other = key
  · simp [survivor, hother]
  · simp [survivor, List.lookup_cons, beq_false_of_ne hother, hother]

end Ledger

/-! ## What one use does -/

/-- A file that cannot be read is taken for empty. -/
theorem readFile_of_not_readable (b : Bucket) {m : Machine} (h : ¬ m.Readable) : b.readFile m = [] := by
  unfold Machine.Readable at h
  unfold Bucket.readFile Disk.stat Disk.read
  cases hstat : m.faults.stat <;> cases hopen : m.faults.read <;> simp_all

namespace Shelf

variable {s : Shelf} {key payload : String} {faults : Faults} {now : Instant}

def withRecord (s : Shelf) (key payload : String) (faults : Faults) (now : Instant) : Records :=
  Keyed.insert key ⟨payload, ⟨now, 0⟩⟩ (s.bucket.held ⟨s.disk, faults, now⟩)

/-- A payload that is not JSON is refused, and nothing changes. -/
theorem store_of_invalid (h : Json.isValid payload = false) (s : Shelf) (key : String) (faults : Faults)
    (now : Instant) : ∃ e, s.store key payload faults now = (.error e, s) := by
  refine ⟨.plain ("refusing to cache invalid JSON for " ++ key), ?_⟩
  simp only [store, Bucket.store, h, Bool.not_false, if_true]

/-- Any other payload is held in memory from then on, and the file is written if that does not fail. -/
theorem store_of_valid (h : Json.isValid payload = true) (s : Shelf) (key : String) (faults : Faults)
    (now : Instant) :
    ∃ result disk, Flushed s.bucket ⟨s.disk, faults, now⟩ (s.withRecord key payload faults now) (result, disk) ∧
      s.store key payload faults now =
        (result.mapError (.context s!"failed to write {s.bucket.source} cache"),
          ⟨{ s.bucket with records := some (s.withRecord key payload faults now) }, disk⟩) := by
  refine ⟨_, _, flushed_flush _ _ _, ?_⟩
  simp only [store, Bucket.store, h, Bool.not_true, Bool.false_eq_true, if_false]
  rfl

/-- A store on a disk without faults succeeds if the records can be written. -/
theorem store_eq_ok (hpayload : Json.isValid payload = true)
    (htimes : ∀ kr ∈ s.withRecord key payload {} now, kr.2.fetchedAt.unwritable? = none)
    (htext : (Json.parseChars (Json.indentedChars 0 (s.withRecord key payload {} now).toJson)).isSome = true) :
    (s.store key payload {} now).1 = .ok () := by
  have hvalid : Json.isValid (Json.indented (s.withRecord key payload {} now).toJson) = true := by
    rw [Json.isValid, Json.parse, Json.indented, String.toList_ofList]
    exact htext
  have hwritten : (s.withRecord key payload {} now).toText =
      .ok (Json.indented (s.withRecord key payload {} now).toJson) := by
    rw [Records.toText, List.findSome?_eq_none_iff.2 htimes]
    exact if_pos hvalid
  have hflush : (s.bucket.flush ⟨s.disk, {}, now⟩ (s.withRecord key payload {} now)).1 = .ok () := by
    simp [Bucket.flush, Disk.makeDirectory, Disk.write, Disk.rename, hwritten, Disk.get?_put_self]
  simp only [store, Bucket.store, hpayload, Bool.not_true, Bool.false_eq_true, if_false]
  exact congrArg (Except.mapError _) hflush

end Shelf

/-! ## The ledger is right -/

theorem Alike.of_both {r r₁ r₂ : Record} (h₁ : Alike r r₁) (h₂ : Alike r r₂) : Alike r₁ r₂ := by
  obtain ⟨htime, j, k, hj, hk, hsame⟩ := h₁
  obtain ⟨htime', j', k', hj', hk', hsame'⟩ := h₂
  cases hj.symm.trans hj'
  exact ⟨htime'.trans htime.symm, k, k', hk, hk', hsame'.trans hsame.symm⟩

theorem rel_of_both {o o₁ o₂ : Option Record} (h₁ : Option.Rel Alike o o₁) (h₂ : Option.Rel Alike o o₂) :
    Option.Rel Alike o₁ o₂ := by
  cases h₁ with
  | none => cases h₂; exact .none
  | some h₁ =>
    cases h₂ with
    | some h₂ => exact .some (h₁.of_both h₂)

/-- Memory has what is to survive. -/
structure Right (s : Shelf) (l : Ledger) : Prop where
  /-- The file is written at another place first. -/
  apart : Disk.place s.bucket.path ≠ Disk.place (s.bucket.path ++ ".tmp")
  unused : s.bucket.records = none → l = {}
  used : ∀ rs, s.bucket.records = some rs →
    l.knows.isSome ∧ rs.Sound ∧ ∀ key, Option.Rel Alike (rs.lookup key) (l.survivor s.filed key)

namespace Right

variable {s : Shelf} {l : Ledger}

/-- At the first use, memory becomes what the file holds, or nothing if it cannot be read. -/
theorem opened (h : Right s l) (faults : Faults) (now : Instant) :
    Right { s with bucket := s.bucket.opened ⟨s.disk, faults, now⟩ } (l.opened faults) := by
  refine ⟨h.apart, fun hnone => (nomatch hnone), fun rs hrs => ?_⟩
  cases hrs
  cases hrecords : s.bucket.records with
  | some rs =>
    obtain ⟨hknows, hsound, hrel⟩ := h.used rs hrecords
    obtain ⟨knows, hknows⟩ := Option.isSome_iff_exists.1 hknows
    have hsame : l.opened faults = l := by rw [Ledger.opened, hknows, Option.getD_some, ← hknows]
    rw [Bucket.held, hrecords, Option.getD_some, hsame, hknows]
    exact ⟨rfl, hsound, hrel⟩
  | none =>
    rw [h.unused hrecords, Bucket.held, hrecords, Option.getD_none]
    refine ⟨rfl, ?_⟩
    by_cases hread : faults.stat = false ∧ faults.read = false
    · -- The reading succeeds.
      have hfile : s.bucket.readFile ⟨s.disk, faults, now⟩ = s.filed := readFile_eq _ hread
      have hsurvivor (key : String) :
          (Ledger.opened {} faults).survivor s.filed key = s.filed.lookup key := by
        simp [Ledger.survivor, Ledger.opened, hread.1, hread.2]
      rw [hfile]
      refine ⟨sound_recordsAt _ _, fun key => ?_⟩
      have hrel := (sound_recordsAt s.disk s.bucket.path).rel_lookup_self key
      exact (hsurvivor key).symm ▸ hrel
    · -- The reading fails, and memory is empty.
      have hfile : s.bucket.readFile ⟨s.disk, faults, now⟩ = [] := readFile_of_not_readable _ hread
      have hblind : (!faults.stat && !faults.read) = false := by
        cases hstat : faults.stat <;> cases hopen : faults.read <;> simp_all
      rw [hfile]
      refine ⟨Records.sound_nil, fun key => ?_⟩
      have hsurvivor (file : Records) : (Ledger.opened {} faults).survivor file key = none := by
        simp [Ledger.survivor, Ledger.opened, hblind]
      exact (hsurvivor _).symm ▸ .none

/-- What is in memory at the other keys when a payload is stored. -/
theorem lookup_withRecord (h : Right s l) (faults : Faults) (now : Instant) {key other : String}
    (hother : other ≠ key) (payload : String) :
    Option.Rel Alike ((s.withRecord key payload faults now).lookup other)
      ((l.opened faults).survivor s.filed other) := by
  obtain ⟨-, -, hrel⟩ := (h.opened faults now).used _ rfl
  rw [Shelf.withRecord, Keyed.lookup_insert_of_ne _ _ _ _ hother]
  exact hrel other

theorem sound_withRecord (h : Right s l) (faults : Faults) (now : Instant) (key : String) {payload : String}
    (hvalid : Json.isValid payload = true) : (s.withRecord key payload faults now).Sound := by
  obtain ⟨-, hsound, -⟩ := (h.opened faults now).used _ rfl
  exact hsound.insert key ⟨hvalid, Time.Stamp.whole_universal _⟩

/-- **A store that succeeds** leaves a file with what is in memory. -/
theorem filed_store (h : Right s l) {key payload : String} {faults : Faults} {now : Instant}
    (hok : (s.store key payload faults now).1 = .ok ()) (other : String) :
    Option.Rel Alike ((s.withRecord key payload faults now).lookup other)
      ((s.store key payload faults now).2.filed.lookup other) := by
  cases hvalid : Json.isValid payload with
  | false =>
    obtain ⟨e, hstore⟩ := Shelf.store_of_invalid hvalid s key faults now
    rw [hstore] at hok
    cases hok
  | true =>
    obtain ⟨result, disk, hflushed, hstore⟩ := Shelf.store_of_valid hvalid s key faults now
    rw [hstore] at hok ⊢
    cases result with
    | error e => cases hok
    | ok => exact rel_lookup (hflushed.kept_of_ok (h.sound_withRecord faults now key hvalid)) other

theorem store (h : Right s l) (key payload : String) (faults : Faults) (now : Instant) :
    Right (s.step ⟨.store key payload, faults, now⟩) (l.step s ⟨.store key payload, faults, now⟩) := by
  cases hvalid : Json.isValid payload with
  | false =>
    obtain ⟨e, hstore⟩ := Shelf.store_of_invalid hvalid s key faults now
    simp only [Shelf.step, Ledger.step, hvalid, hstore]
    exact h
  | true =>
    obtain ⟨result, disk, hflushed, hstore⟩ := Shelf.store_of_valid hvalid s key faults now
    have hsound := h.sound_withRecord faults now key hvalid
    have hfiled : (s.store key payload faults now).1 = .ok () → ∀ other,
        Option.Rel Alike ((s.withRecord key payload faults now).lookup other)
          ((s.store key payload faults now).2.filed.lookup other) := h.filed_store
    simp only [Shelf.step, Ledger.step, hvalid, if_true]
    rw [hstore] at hfiled ⊢
    refine ⟨h.apart, fun hnone => (nomatch hnone), fun rs hrs => ?_⟩
    cases hrs
    cases result with
    | ok => exact ⟨rfl, hsound, fun other => hfiled rfl other⟩
    | error e =>
      refine ⟨rfl, hsound, fun other => ?_⟩
      have hfile : recordsAt disk s.bucket.path = s.filed := by
        rw [Shelf.filed, recordsAt, recordsAt, hflushed.get?_of_error h.apart]
      have hsurvivor := Ledger.survivor_unsaved (l.opened faults) key ⟨payload, ⟨now, 0⟩⟩
        (recordsAt disk s.bucket.path) other
      refine hsurvivor.symm ▸ ?_
      split
      · rename_i hother
        have hself := hsound.rel_lookup_self key
        rw [hother]
        rwa [Shelf.withRecord, Keyed.lookup_insert_self] at hself ⊢
      · rename_i hother
        rw [hfile]
        exact h.lookup_withRecord faults now hother payload

/-- **One use** keeps the ledger right. -/
theorem step (h : Right s l) (a : Act) : Right (s.step a) (l.step s a) := by
  obtain ⟨use, faults, now⟩ := a
  cases use with
  | load key => exact h.opened faults now
  | size => exact h.opened faults now
  | store key payload => exact h.store key payload faults now
  | reopen => exact ⟨h.apart, fun _ => rfl, fun _ hrs => (nomatch hrs)⟩

/-- **All uses** keep the ledger right. -/
theorem run (h : Right s l) (acts : List Act) : Right (s.run acts) (l.run s acts) := by
  induction acts generalizing s l with
  | nil => exact h
  | cons a acts ih => exact ih (h.step a)

end Right

theorem right_opening (root : String) (ttl : Option Duration) (source : String) (disk : Disk) :
    Right (Shelf.opening root ttl source disk) {} := by
  have hbucket : (Manager.create root ttl).bucket source =
      { source, path := (Manager.create root ttl).pathOf source, ttl := (Manager.create root ttl).ttl } := rfl
  refine ⟨place_pathOf_ne _ source source, fun _ => rfl, fun rs hrs => ?_⟩
  rw [Shelf.opening, hbucket] at hrs
  cases hrs

/-! ## What a store keeps -/

/-- **A store keeps what the file held exactly if the file had been read.** Whatever a bucket has been used for,
and whichever operations of the disk failed: of the other keys, a store that succeeds leaves what the ledger
lets survive. A record of the file that no store has replaced in the meantime is still there afterwards, with the
same time and the same document, if the first use could read the file or the file has been written since; if
neither is the case, it is gone. -/
theorem kept_iff_read (root : String) (ttl : Option Duration) (source : String) (disk : Disk) (acts : List Act)
    {key payload : String} {faults : Faults} {now : Instant}
    (hok : (((Shelf.opening root ttl source disk).run acts).store key payload faults now).1 = .ok ())
    {other : String} (hother : other ≠ key) :
    let s := (Shelf.opening root ttl source disk).run acts
    let l := (Ledger.run {} (Shelf.opening root ttl source disk) acts).opened faults
    let after := (s.store key payload faults now).2.filed
    Option.Rel Alike (l.survivor s.filed other) (after.lookup other) ∧
      ∀ r, s.filed.lookup other = some r → l.unsaved.lookup other = none →
        if l.knows = some true then ∃ r', after.lookup other = some r' ∧ Alike r r'
        else after.lookup other = none := by
  intro s l after
  have hright := (right_opening root ttl source disk).run acts
  have hrel : Option.Rel Alike (l.survivor s.filed other) (after.lookup other) :=
    rel_of_both (hright.lookup_withRecord faults now hother payload) (hright.filed_store hok other)
  refine ⟨hrel, fun r hr hunsaved => ?_⟩
  rw [Ledger.survivor, hunsaved, Option.none_or, hr] at hrel
  split
  · rename_i hknows
    rw [if_pos hknows] at hrel
    cases hafter : after.lookup other with
    | none => rw [hafter] at hrel; cases hrel
    | some r' =>
      rw [hafter] at hrel
      cases hrel with
      | some halike => exact ⟨r', rfl, halike⟩
  · rename_i hknows
    rw [if_neg hknows] at hrel
    cases hafter : after.lookup other with
    | none => rfl
    | some r' => rw [hafter] at hrel; cases hrel

/-- The file is read at the first use; that it cannot be read later does not matter. -/
theorem kept_iff_read_mixed :
    let s := (Shelf.opening "c" none "kev" mixedDisk).run
      [{ use := .load "a" }, { use := .load "b", faults := { stat := true, read := true } }]
    (s.store "c" "[2]" {} ⟨0⟩).1 = .ok () ∧
      ∃ r, (s.store "c" "[2]" {} ⟨0⟩).2.filed.lookup "a" = some r ∧ Alike ⟨"[1]", ⟨⟨0⟩, 0⟩⟩ r := by
  intro s
  have hrecords : s.withRecord "c" "[2]" {} ⟨0⟩ =
      [("a", ⟨"[1]", ⟨⟨0⟩, 0⟩⟩), ("b", ⟨"true", ⟨⟨1704067200000000000⟩, 0⟩⟩), ("c", ⟨"[2]", ⟨⟨0⟩, 0⟩⟩)] := by
    decide +kernel
  have hok : (s.store "c" "[2]" {} ⟨0⟩).1 = .ok () :=
    Shelf.store_eq_ok (by decide +kernel) (by rw [hrecords]; decide +kernel) (by rw [hrecords]; decide +kernel)
  have hother : "a" ≠ "c" := by decide
  have hkept := (kept_iff_read "c" none "kev" mixedDisk _ hok hother).2 ⟨"[1]", ⟨⟨0⟩, 0⟩⟩
    (by decide +kernel) (by decide +kernel)
  exact ⟨hok, by rwa [if_pos (by decide +kernel)] at hkept⟩

/-- One reading that fails, and the next store takes what the file held out of it. -/
theorem store_after_failed_reading :
    let s := (Shelf.opening "c" none "kev" mixedDisk).run [{ use := .load "a", faults := { read := true } }]
    s.filed.lookup "a" = some ⟨"[1]", ⟨⟨0⟩, 0⟩⟩ ∧ (s.store "c" "[2]" {} ⟨0⟩).1.isOk = true ∧
      (s.store "c" "[2]" {} ⟨0⟩).2.filed.lookup "a" = none := by
  decide +kernel

end Triage.Cache
