import Triage.Cache.Manager
import Triage.Proofs.Cache.File
import Triage.Proofs.Host.Disk

/-!
# The file of a bucket

Where the file of a bucket is, and what writing it does (`Flushed`): a failure leaves the file as it was, a
success leaves a file with the same records, and all other files stay as they are.
-/
namespace Triage.Cache

/-- The records of the file at a path; none if there is no file. -/
def recordsAt (d : Disk) (path : String) : Records :=
  match d.get? path with
  | some file => Records.ofFile file
  | none => []

theorem sound_recordsAt (d : Disk) (path : String) : (recordsAt d path).Sound := by
  unfold recordsAt
  split
  · exact sound_ofFile _
  · exact Records.sound_nil

def Machine.Readable (m : Machine) : Prop := m.faults.stat = false ∧ m.faults.read = false

theorem readFile_eq (b : Bucket) {m : Machine} (h : m.Readable) : b.readFile m = recordsAt m.disk b.path := by
  unfold Bucket.readFile recordsAt Disk.stat Disk.read
  rw [h.1, h.2]
  cases m.disk.get? b.path <;> rfl

theorem held_eq (b : Bucket) {m : Machine} (h : m.Readable) :
    b.held m = b.records.getD (recordsAt m.disk b.path) := by
  rw [Bucket.held, readFile_eq b h]

theorem bucket_withBucket (c : Manager) (source : String) (b : Bucket) :
    (c.withBucket source b).bucket source = b := by
  simp [Manager.withBucket, Manager.bucket, Keyed.lookup_insert_self]

theorem bucket_withBucket_of_ne {source other : String} (h : other ≠ source) (c : Manager) (b : Bucket) :
    (c.withBucket source b).bucket other = c.bucket other := by
  simp only [Manager.withBucket, Manager.bucket, Keyed.lookup_insert_of_ne _ _ _ _ h]
  rfl

theorem Manager.root_create_ne (root : String) (ttl : Option Time.Duration) : (create root ttl).root ≠ "" := by
  unfold create
  dsimp only
  split
  · decide
  · assumption

theorem Manager.ttl_create_pos (root : String) (ttl : Option Time.Duration) : 0 < (create root ttl).ttl.nanos := by
  unfold create
  dsimp only
  cases hfilter : ttl.filter fun d => 0 < d.nanos with
  | none => decide
  | some d => exact of_decide_eq_true (Option.filter_eq_some_iff.1 hfilter).2

theorem Manager.pathOf_eq_of_root {c c' : Manager} (h : c'.root = c.root) (source : String) :
    c'.pathOf source = c.pathOf source := by
  rw [pathOf, pathOf, h]

/-- The buckets of a cache have their files where the cache looks for them, and keep entries as long. -/
structure Manager.Tidy (c : Manager) : Prop where
  path : ∀ source, (c.bucket source).path = c.pathOf source
  ttl : ∀ source, (c.bucket source).ttl = c.ttl

theorem Manager.tidy_of_buckets_nil {c : Manager} (h : c.buckets = []) : c.Tidy := by
  have hbucket (source : String) : c.bucket source = { source, path := c.pathOf source, ttl := c.ttl } := by
    rw [Manager.bucket, h]
    rfl
  exact ⟨fun source => by rw [hbucket], fun source => by rw [hbucket]⟩

theorem Manager.Tidy.withBucket {c : Manager} (h : c.Tidy) (source : String) {b : Bucket}
    (hpath : b.path = (c.bucket source).path) (httl : b.ttl = (c.bucket source).ttl) :
    (c.withBucket source b).Tidy := by
  refine ⟨fun other => ?_, fun other => ?_⟩
  · by_cases hother : other = source
    · rw [hother, bucket_withBucket, hpath]
      exact h.path source
    · rw [bucket_withBucket_of_ne hother]
      exact h.path other
  · by_cases hother : other = source
    · rw [hother, bucket_withBucket, httl]
      exact h.ttl source
    · rw [bucket_withBucket_of_ne hother]
      exact h.ttl other

/-! ## Places -/

theorem getLast?_pathOf (c : Manager) (source : String) : (c.pathOf source).toList.getLast? = some 'n' := by
  have hname : (source ++ "_cache.json").toList.getLast? = some 'n' := by
    rw [String.toList_append, Path.getLast?_append_of_ne_nil (by decide)]
    decide
  exact Path.getLast?_join [c.root, source] hname (by decide) (by decide)

/-- The file beside the file of a bucket is at another place, and no bucket has its file there. -/
theorem place_pathOf_ne (c : Manager) (source other : String) :
    Disk.place (c.pathOf source) ≠ Disk.place (c.pathOf other ++ ".tmp") := by
  have htmp : (c.pathOf other ++ ".tmp").toList.getLast? = some 'p' := by
    rw [String.toList_append, Path.getLast?_append_of_ne_nil (by decide)]
    decide
  exact Disk.place_ne_of_getLast? (by decide) (getLast?_pathOf c source) htmp (by decide) (by decide)

/-- A source whose name is one plain part of a path. -/
def IsPlainName (source : String) : Prop := Path.IsPlain source.toList

instance (source : String) : Decidable (IsPlainName source) := inferInstanceAs (Decidable (Path.IsPlain _))

theorem isPlain_fileName {source : String} (h : IsPlainName source) :
    Path.IsPlain (source ++ "_cache.json").toList := by
  have hlength : 11 ≤ (source ++ "_cache.json").toList.length := by
    rw [String.toList_append, List.length_append]
    exact Nat.le_add_left _ _
  refine ⟨?_, ?_, ?_, ?_⟩
  · intro heq
    rw [heq] at hlength
    exact absurd hlength (by decide)
  · intro heq
    rw [heq] at hlength
    exact absurd hlength (by decide)
  · intro heq
    rw [heq] at hlength
    exact absurd hlength (by decide)
  · rw [String.toList_append, List.mem_append, not_or]
    exact ⟨h.2.2.2, by decide⟩

/-- The file of a plain source goes with the root directory, unless that is the root of the disk. -/
theorem covers_pathOf {c : Manager} {source : String} (hroot : Disk.place c.root ≠ "/")
    (hsource : IsPlainName source) : Disk.covers c.root (c.pathOf source) = true := by
  obtain ⟨hplace, hstack⟩ := Disk.stack_ne_nil_of_place hroot
  have hparts : ∀ part ∈ [source, source ++ "_cache.json"], Path.IsPlain part.toList := by
    intro part hp
    simp only [List.mem_cons, List.not_mem_nil, or_false] at hp
    rcases hp with rfl | rfl
    · exact hsource
    · exact isPlain_fileName hsource
  have hpath := Path.toList_join hstack (List.cons_ne_nil _ _) hparts
  have hsettled : Disk.place (c.pathOf source) = c.pathOf source := by
    have hne : source ≠ "" := by
      rintro rfl
      exact hsource.1 rfl
    rw [Disk.place_eq_clean (getLast?_pathOf c source) (by decide) (by decide)]
    exact Path.clean_join (List.mem_cons_of_mem _ List.mem_cons_self) hne
  have hlist : (Disk.place (c.pathOf source)).toList = (Disk.place c.root ++ "/").toList ++
      Path.joinParts ([source, source ++ "_cache.json"].map String.toList) := by
    rw [hsettled, Manager.pathOf, hpath, hplace, String.toList_append, List.append_assoc]
    rfl
  rw [Disk.covers, Text.startsWith_of_toList hlist, Bool.or_true]

/-! ## Writing the file -/

/-- What happens when a bucket writes its file: it fails and leaves the disk as it was but for the file
beside it, or it puts the text of the records at the place of the file. -/
inductive Flushed (b : Bucket) (m : Machine) (rs : Records) : Except Failure Unit × Disk → Prop
  | refused {e : Failure} : Flushed b m rs (.error e, m.disk)
  | abandoned {e : Failure} {text : String} :
    Flushed b m rs (.error e, m.disk.put (b.path ++ ".tmp") ⟨text, m.now⟩)
  | written {text : String} (h : rs.toText = .ok text) :
    Flushed b m rs (.ok (), ((m.disk.put (b.path ++ ".tmp") ⟨text, m.now⟩).erase (b.path ++ ".tmp")).put b.path
      ⟨text, m.now⟩)

theorem flushed_flush (b : Bucket) (m : Machine) (rs : Records) : Flushed b m rs (b.flush m rs) := by
  unfold Bucket.flush Disk.makeDirectory Disk.write Disk.rename
  cases m.faults.mkdir with
  | true => exact .refused
  | false =>
    cases htext : rs.toText with
    | error e => exact .refused
    | ok text =>
      cases m.faults.write with
      | true => exact .refused
      | false =>
        cases m.faults.rename with
        | true => exact .abandoned
        | false =>
          simp only [Bool.false_eq_true, if_false, Disk.get?_put_self]
          exact .written htext

section Flushed

variable {b : Bucket} {m : Machine} {rs : Records} {result : Except Failure Unit} {disk : Disk}

/-- **A failure** leaves the file as it was. -/
theorem Flushed.get?_of_error {e : Failure} (h : Flushed b m rs (.error e, disk))
    (hne : Disk.place b.path ≠ Disk.place (b.path ++ ".tmp")) : disk.get? b.path = m.disk.get? b.path := by
  cases h with
  | refused => rfl
  | abandoned => exact Disk.get?_put_of_ne hne _ _

/-- **A success** leaves a file with the same keys, times and documents. -/
theorem Flushed.kept_of_ok (h : Flushed b m rs (.ok (), disk)) (hrs : rs.Sound) :
    List.Forall₂ Kept rs (recordsAt disk b.path) := by
  cases h with
  | written htext =>
    rw [recordsAt, Disk.get?_put_self]
    exact ofFile_toText hrs htext m.now

/-- Other files stay as they are. -/
theorem Flushed.get?_of_ne (h : Flushed b m rs (result, disk)) {path : String}
    (hne : Disk.place path ≠ Disk.place b.path) (hne' : Disk.place path ≠ Disk.place (b.path ++ ".tmp")) :
    disk.get? path = m.disk.get? path := by
  cases h with
  | refused => rfl
  | abandoned => exact Disk.get?_put_of_ne hne' _ _
  | written => rw [Disk.get?_put_of_ne hne, Disk.get?_erase_of_ne hne', Disk.get?_put_of_ne hne']

end Flushed

end Triage.Cache
