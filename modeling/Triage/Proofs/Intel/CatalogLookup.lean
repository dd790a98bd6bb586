import Mathlib.Data.List.Induction
import Triage.Proofs.Intel.OncePerRun
import Triage.Proofs.Json.Filling
import Triage.Proofs.Json.Members
import Triage.Proofs.Text.Case
import Triage.Proofs.Text.Pieces

/-!
# Looking up known exploitation

What a client of the catalog says about a vulnerability, told from the records of the catalog that it was served: the
last record that spells the identifier counts, and records without an identifier do not matter (`lists_lookup`). The
published document and the bare list of its records are the same catalog (`decode_document_iff`). A client that was
served no catalog says that nothing is known. Main statement: `exploitation_looked_up`.
-/
namespace Triage.ExploitedCatalog

open Json.Decoder (FieldRule field fieldNamed? members)

/-! ## The index of a list of records -/

/-- A record as the index has it for a vulnerability. -/
def listing (cve : String) (e : CatalogEntry) : CatalogEntry :=
  { e with cveId := cve, dateAdded := normalDate e.dateAdded, dueDate := normalDate e.dueDate }

/-- What a list of records has for a vulnerability: the last of the records that spell its identifier. -/
inductive Lists (entries : List CatalogEntry) (cve : String) : Option CatalogEntry → Prop
  | listed {front back : List CatalogEntry} {e : CatalogEntry} (hentries : entries = front ++ e :: back)
      (hcve : Cve.canonical? e.cveId = some cve) (hlast : ∀ e' ∈ back, Cve.canonical? e'.cveId ≠ some cve) :
      Lists entries cve (some (listing cve e))
  | unlisted (hnone : ∀ e ∈ entries, Cve.canonical? e.cveId ≠ some cve) : Lists entries cve none

theorem lookup_add (index : Index) (e : CatalogEntry) (cve : String) :
    (index.add e).lookup cve =
      if Cve.canonical? e.cveId = some cve then some (listing cve e) else index.lookup cve := by
  unfold Index.add
  cases hcve : Cve.canonical? e.cveId with
  | none => rfl
  | some cve' =>
    by_cases heq : cve' = cve
    · subst heq
      rw [if_pos rfl]
      exact Keyed.lookup_insert_self _ _ _
    · rw [if_neg fun h => heq (Option.some.inj h)]
      exact Keyed.lookup_insert_of_ne _ _ _ _ (Ne.symm heq)

theorem ofEntries_append_singleton (entries : List CatalogEntry) (e : CatalogEntry) :
    Index.ofEntries (entries ++ [e]) = (Index.ofEntries entries).add e := by
  rw [Index.ofEntries, List.foldl_append, List.foldl_cons, List.foldl_nil, Index.ofEntries]

/-- **Of several records for a vulnerability the last one counts.** -/
theorem lists_lookup (entries : List CatalogEntry) (cve : String) :
    Lists entries cve ((Index.ofEntries entries).lookup cve) := by
  induction entries using List.reverseRecOn with
  | nil => exact .unlisted fun _ h => nomatch h
  | append_singleton entries e ih =>
    rw [ofEntries_append_singleton, lookup_add]
    split
    · rename_i hcve
      have hsplit : entries ++ [e] = entries ++ e :: [] := rfl
      exact .listed hsplit hcve fun _ h => nomatch h
    · rename_i hcve
      generalize (Index.ofEntries entries).lookup cve = found at ih
      cases ih with
      | @listed front back e' hentries hcve' hlast =>
        have hsplit : entries ++ [e] = front ++ e' :: (back ++ [e]) := by rw [hentries]; simp
        exact .listed hsplit hcve' (List.forall_mem_append.2 ⟨hlast, List.forall_mem_singleton.2 hcve⟩)
      | unlisted hnone => exact .unlisted (List.forall_mem_append.2 ⟨hnone, List.forall_mem_singleton.2 hcve⟩)

theorem Lists.isSome_iff {entries : List CatalogEntry} {cve : String} {found : Option CatalogEntry}
    (h : Lists entries cve found) : found.isSome = true ↔ ∃ e ∈ entries, Cve.canonical? e.cveId = some cve := by
  cases h with
  | @listed front back e hentries hcve hlast =>
    refine iff_of_true rfl ⟨e, ?_, hcve⟩
    rw [hentries]
    exact List.mem_append_right _ List.mem_cons_self
  | unlisted hnone => exact iff_of_false nofun fun ⟨e, he, hcve⟩ => hnone e he hcve

/-- A record whose identifier is malformed does not matter. -/
theorem ofEntries_filter (entries : List CatalogEntry) :
    Index.ofEntries (entries.filter fun e => (Cve.canonical? e.cveId).isSome) = Index.ofEntries entries := by
  unfold Index.ofEntries
  generalize ([] : Index) = index
  induction entries generalizing index with
  | nil => rfl
  | cons e entries ih =>
    rw [List.foldl_cons, ← ih]
    cases hcve : Cve.canonical? e.cveId with
    | none =>
      have hskip : Index.add index e = index := by rw [Index.add, hcve]
      rw [List.filter_cons_of_neg (by rw [hcve]; decide), hskip]
    | some cve => rw [List.filter_cons_of_pos (by rw [hcve]; rfl), List.foldl_cons]

/-! ## The two forms of a catalog -/

def documentFields : List (FieldRule Document) :=
  [ field "title" (·.title) (fun d v => { d with title := v }) Json.Decoder.text,
    field "catalogVersion" (·.version) (fun d v => { d with version := v }) Json.Decoder.text,
    field "dateReleased" (·.released) (fun d v => { d with released := v }) Json.Decoder.text,
    field "count" (·.count) (fun d v => { d with count := v }) Json.Decoder.int,
    field "vulnerabilities" (·.entries) (fun d v => { d with entries := v }) entriesDecoder ]

theorem documentDecoder_append (front back : List (String × Json)) : documentDecoder {} (.object (front ++ back)) =
    (members documentFields {} front).bind fun d => members documentFields d back :=
  Json.members_append documentFields {} front back

/-- The member of a document that holds the records. -/
def HoldsEntries (m : String × Json) : Prop := Text.equalFold "vulnerabilities" (Json.unescape m.1) = true

def Document.withEntries (d : Document) (entries : Option (List CatalogEntry)) : Document := { d with entries }

/-- The rule of the member that holds the records. -/
def entriesRule : FieldRule Document :=
  field "vulnerabilities" (·.entries) (fun d v => { d with entries := v }) entriesDecoder

theorem nodup_documentFields : (documentFields.map fun f => f.name.toList.map Text.foldChar).Nodup := by
  decide +kernel

theorem fieldNamed?_of_holdsEntries {m : String × Json} (hm : HoldsEntries m) :
    fieldNamed? documentFields (Json.unescape m.1) = some entriesRule :=
  Json.fieldNamed?_of_equalFold nodup_documentFields (f := entriesRule) (List.mem_of_getElem? (i := 4) rfl) hm

theorem read_field_withEntries {β : Type} {name : String} {get : Document → β} {set : Document → β → Document}
    {dec : Json.Decoder β} {entries : Option (List CatalogEntry)} (hget : ∀ d, get (d.withEntries entries) = get d)
    (hset : ∀ d v, set (d.withEntries entries) v = (set d v).withEntries entries) (d : Document) (j : Json) :
    (field name get set dec).read (d.withEntries entries) j =
      ((field name get set dec).read d j).map (·.withEntries entries) := by
  simp only [field, hget, Option.map_map]
  exact congrArg (fun g => (dec (get d) j).map g) (funext (hset d))

/-- The other fields have no part in the records. -/
theorem read_withEntries {f : FieldRule Document} {m : String × Json} (hm : ¬ HoldsEntries m)
    (hf : fieldNamed? documentFields (Json.unescape m.1) = some f) (d : Document)
    (entries : Option (List CatalogEntry)) :
    f.read (d.withEntries entries) m.2 = (f.read d m.2).map (·.withEntries entries) := by
  obtain ⟨hmem, hname⟩ := Json.equalFold_of_fieldNamed? hf
  simp only [documentFields, List.mem_cons, List.not_mem_nil, or_false] at hmem
  obtain rfl | rfl | rfl | rfl | rfl := hmem
  · exact read_field_withEntries (fun _ => rfl) (fun _ _ => rfl) d m.2
  · exact read_field_withEntries (fun _ => rfl) (fun _ _ => rfl) d m.2
  · exact read_field_withEntries (fun _ => rfl) (fun _ _ => rfl) d m.2
  · exact read_field_withEntries (fun _ => rfl) (fun _ _ => rfl) d m.2
  · exact absurd hname hm

/-- The members without records are read alike, whatever the records are. -/
theorem members_withEntries {ms : List (String × Json)} (hms : ∀ m ∈ ms, ¬ HoldsEntries m) (d : Document)
    (entries : Option (List CatalogEntry)) :
    members documentFields (d.withEntries entries) ms =
      (members documentFields d ms).map (·.withEntries entries) := by
  induction ms generalizing d with
  | nil => rfl
  | cons m ms ih =>
    obtain ⟨name, j⟩ := m
    obtain ⟨hm, hrest⟩ := List.forall_mem_cons.1 hms
    rw [members, members]
    cases hf : fieldNamed? documentFields (Json.unescape name) with
    | none => exact ih hrest d
    | some f =>
      dsimp only
      rw [read_withEntries hm hf]
      cases f.read d j with
      | none => rfl
      | some d' => exact ih hrest d'

/-- What the bare list of the records is read to. -/
theorem entriesDecoder_array (items : List Json) : entriesDecoder none (.array items) =
    (Json.Decoder.items {} (Json.Decoder.object entryFields) [] items).map some := rfl

/-- The document is read exactly if the records and the rest of it are. -/
theorem documentDecoder_iff {front back : List (String × Json)} {m : String × Json} {items : List Json}
    (hm : HoldsEntries m) (hitems : m.2 = .array items) (hothers : ∀ m' ∈ front ++ back, ¬ HoldsEntries m')
    {entries : List CatalogEntry} :
    (∃ d, documentDecoder {} (.object (front ++ m :: back)) = some d ∧ d.entries = some entries) ↔
      (∃ d, documentDecoder {} (.object (front ++ back)) = some d) ∧
        entriesDecoder none (.array items) = some (some entries) := by
  obtain ⟨hfront, hback⟩ := List.forall_mem_append.1 hothers
  rw [documentDecoder_append, documentDecoder_append]
  have hempty := members_withEntries hfront {} none
  cases hd : members documentFields {} front with
  | none =>
    refine iff_of_false ?_ ?_
    · rintro ⟨_, hread, -⟩
      cases hread
    · rintro ⟨⟨_, hread⟩, -⟩
      cases hread
  | some d =>
    -- Nothing before the member has set the records.
    have hnone : d.entries = none := by
      have heq : some d = some (d.withEntries none) := by
        rw [hd] at hempty
        exact hd.symm.trans hempty
      rw [Option.some.inj heq]
      rfl
    obtain ⟨name, j⟩ := m
    obtain rfl : j = .array items := hitems
    have hread : entriesRule.read d (.array items) =
        (entriesDecoder none (.array items)).map (d.withEntries ·) := by
      rw [← hnone]
      rfl
    rw [Option.bind_some, Option.bind_some, members, fieldNamed?_of_holdsEntries hm]
    dsimp only
    rw [hread, entriesDecoder_array]
    cases Json.Decoder.items {} (Json.Decoder.object entryFields) [] items with
    | none =>
      refine iff_of_false ?_ ?_
      · rintro ⟨_, hread, -⟩
        cases hread
      · rintro ⟨-, hread⟩
        cases hread
    | some es =>
      rw [Option.map_some, Option.map_some, Option.bind_some, members_withEntries hback]
      cases members documentFields d back with
      | none =>
        refine iff_of_false ?_ ?_
        · rintro ⟨_, hread, -⟩
          cases hread
        · rintro ⟨⟨_, hread⟩, -⟩
          cases hread
      | some d' => simp [Document.withEntries]

theorem isBlank_of_isSpace {c : Char} (h : Json.isSpace c = true) : Text.isBlank c = true := by
  simp only [Json.isSpace, Bool.or_eq_true, beq_iff_eq] at h
  obtain ((rfl | rfl) | rfl) | rfl := h <;> decide

/-- A trimmed text that is a document begins with the document. -/
theorem spells_of_parse_trim {s : String} {j : Json} (h : Json.parse (Text.trim s) = some j) :
    ∃ text rest, Json.Spells Json.maxDepth (.value j) text ∧ (Text.trim s).toList = text ++ rest := by
  obtain ⟨ws, text, ws', hws, -, hspells, heq⟩ := Json.parse_eq_some_iff.1 h
  cases ws with
  | nil => exact ⟨text, ws', hspells, heq⟩
  | cons c ws =>
    have hblank := isBlank_of_isSpace (hws c List.mem_cons_self)
    have hhead := (Text.ends_trimChars s.toList).1 c (by rw [← Text.toList_trim, heq]; rfl)
    cases hblank.symm.trans hhead

theorem head?_of_parse_array {s : String} {items : List Json} (h : Json.parse (Text.trim s) = some (.array items)) :
    (Text.trim s).toList.head? = some '[' := by
  obtain ⟨text, rest, hspells, heq⟩ := spells_of_parse_trim h
  rw [heq]
  cases hspells with
  | scalar h => nomatch h
  | emptyArray => rfl
  | array => rfl

theorem head?_of_parse_object {s : String} {ms : List (String × Json)}
    (h : Json.parse (Text.trim s) = some (.object ms)) : (Text.trim s).toList.head? = some '{' := by
  obtain ⟨text, rest, hspells, heq⟩ := spells_of_parse_trim h
  rw [heq]
  obtain ⟨-, ws, -, rfl⟩ | ⟨ws, cs, -, -, rfl⟩ := hspells.of_object <;> rfl

theorem decode_array_iff {bare : String} {items : List Json} (h : Json.parse (Text.trim bare) = some (.array items))
    {entries : List CatalogEntry} :
    decode bare = .ok entries ↔ entriesDecoder none (.array items) = some (some entries) := by
  rw [decode, if_pos (head?_of_parse_array h), Json.decodeText, h]
  dsimp only
  rw [entriesDecoder_array]
  cases Json.Decoder.items {} (Json.Decoder.object entryFields) [] items with
  | none => exact iff_of_false nofun nofun
  | some es => simp

theorem decode_object_iff {document : String} {ms : List (String × Json)}
    (h : Json.parse (Text.trim document) = some (.object ms)) {entries : List CatalogEntry} :
    decode document = .ok entries ↔ ∃ d, documentDecoder {} (.object ms) = some d ∧ d.entries = some entries := by
  have hhead : (Text.trim document).toList.head? ≠ some '[' := by
    rw [head?_of_parse_object h]
    decide
  rw [decode, if_neg hhead, Json.decodeText, h]
  dsimp only
  cases documentDecoder {} (.object ms) with
  | none => exact iff_of_false nofun fun ⟨_, h, _⟩ => nomatch h
  | some d => cases hentries : d.entries <;> simp [hentries]

/-- `bare` is the list of the records of `document` by itself, and `others` are the other members of the document. -/
def IsBareListOf (bare document : String) (others : List (String × Json)) : Prop :=
  ∃ front m back items, Json.parse (Text.trim document) = some (.object (front ++ m :: back)) ∧
    others = front ++ back ∧ HoldsEntries m ∧ m.2 = .array items ∧ (∀ m' ∈ others, ¬ HoldsEntries m') ∧
    Json.parse (Text.trim bare) = some (.array items)

/-- **The published document and the bare list of its records** have the same records, if the rest of the document can
be read. -/
theorem decode_document_iff {document bare : String} {others : List (String × Json)}
    (h : IsBareListOf bare document others) (entries : List CatalogEntry) :
    decode document = .ok entries ↔
      (∃ d, documentDecoder {} (.object others) = some d) ∧ decode bare = .ok entries := by
  obtain ⟨front, m, back, items, hdocument, rfl, hm, hitems, hothers, hbare⟩ := h
  rw [decode_object_iff hdocument, decode_array_iff hbare, documentDecoder_iff hm hitems hothers]

/-! ## The catalog that a client is served -/

/-- The records of a payload can be read. -/
def Acceptable (payload : String) : Prop := ∃ entries, decode payload = .ok entries

def cached (h : Host) : Option Cache.Entry := ((Host.bucket sourceName).load cacheKey h).1

/-- The cache or a fetch has the payload. -/
def Yields (c : Client) (h : Host) (payload : String) : Prop :=
  (∃ e, cached h = some e ∧ e.payload = payload) ∨ (c.fetch h).1 = .ok payload

/-- The payload that a client is served, and whether it is an old copy. -/
inductive Serves (c : Client) (h : Host) : String → Bool → Prop
  | fresh {e : Cache.Entry} (hcached : cached h = some e) (hfresh : e.stale = false)
      (hacceptable : Acceptable e.payload) : Serves c h e.payload false
  | fetched {payload : String} (hcached : ∀ e, cached h = some e → e.stale = false → ¬ Acceptable e.payload)
      (hfetch : (c.fetch h).1 = .ok payload) (hacceptable : Acceptable payload) : Serves c h payload false
  | old {e : Cache.Entry} (hcached : cached h = some e) (hstale : e.stale = true) (hacceptable : Acceptable e.payload)
      (hfetch : ∀ payload, (c.fetch h).1 = .ok payload → ¬ Acceptable payload) : Serves c h e.payload true

theorem validate_eq_ok_iff {payload : String} : validate payload = .ok () ↔ Acceptable payload :=
  map_unit_eq_ok_iff

section Serving

variable {c : Client} {h : Host} {payload : String} {stale : Bool} {cve : String} {status : ExploitedStatus}

theorem Serves.yields (hs : Serves c h payload stale) : Yields c h payload ∧ Acceptable payload := by
  cases hs with
  | fresh hcached hfresh hacceptable => exact ⟨.inl ⟨_, hcached, rfl⟩, hacceptable⟩
  | fetched hcached hfetch hacceptable => exact ⟨.inr hfetch, hacceptable⟩
  | old hcached hstale hacceptable hfetch => exact ⟨.inl ⟨_, hcached, rfl⟩, hacceptable⟩

theorem not_ready_iff : ¬ Cache.Ready validate (cached h) ↔
    ∀ e, cached h = some e → e.stale = false → ¬ Acceptable e.payload := by
  constructor
  · intro hready e hcached hfresh hacceptable
    exact hready ⟨e, hcached, validate_eq_ok_iff.2 hacceptable, hfresh⟩
  · rintro hnone ⟨e, hcached, hvalid, hfresh⟩
    exact hnone e hcached hfresh (validate_eq_ok_iff.1 hvalid)

theorem fetch_load (c : Client) (h : Host) :
    (c.fetch ((Host.bucket sourceName).load cacheKey h).2).1 = (c.fetch h).1 := by
  have hfetch (h : Host) : (c.fetch h).1 =
      (Host.get c.url "" h).1.mapError (.context "failed to fetch KEV catalog") := rfl
  rw [hfetch, hfetch, Host.fst_get_congr (Host.reply_load sourceName cacheKey h)]

theorem not_acceptable_of_blame {cause : Failure} (hblame : Cache.Blame validate cacheKey (c.fetch h).1 cause) :
    ∀ payload, (c.fetch h).1 = .ok payload → ¬ Acceptable payload := by
  intro payload hfetch hacceptable
  exact hblame.not_valid ⟨hfetch, validate_eq_ok_iff.2 hacceptable⟩

theorem serves_of_resolve {served : Cache.Served}
    (hr : ((Host.bucket sourceName).resolve cacheKey c.fetch validate h).1 = .ok served) :
    Serves c h served.payload served.origin.isStale := by
  have hresolved := Cache.resolved_resolve (Host.bucket sourceName) cacheKey c.fetch validate h
  generalize (Host.bucket sourceName).resolve cacheKey c.fetch validate h = after at hresolved hr
  cases hresolved with
  | fresh hload hvalid hfresh =>
    cases hr
    exact .fresh hload hfresh (validate_eq_ok_iff.1 hvalid)
  | fetched hready hfetch hvalid =>
    cases hr
    rw [fetch_load] at hfetch
    exact .fetched (not_ready_iff.1 hready) hfetch (validate_eq_ok_iff.1 hvalid)
  | @stale e cause hready hblame hload hvalid =>
    cases hr
    rw [fetch_load] at hblame
    have hacceptable := validate_eq_ok_iff.1 hvalid
    have hstale : e.stale = true := by
      cases hfresh : e.stale with
      | true => rfl
      | false => exact absurd hacceptable (not_ready_iff.1 hready e hload hfresh)
    exact .old hload hstale hacceptable (not_acceptable_of_blame hblame)
  | unavailable => cases hr

theorem not_acceptable_of_resolve {failure : Failure}
    (hr : ((Host.bucket sourceName).resolve cacheKey c.fetch validate h).1 = .error failure) :
    ∀ payload, Yields c h payload → ¬ Acceptable payload := by
  have hresolved := Cache.resolved_resolve (Host.bucket sourceName) cacheKey c.fetch validate h
  generalize (Host.bucket sourceName).resolve cacheKey c.fetch validate h = after at hresolved hr
  cases hresolved with
  | fresh => cases hr
  | fetched => cases hr
  | stale => cases hr
  | unavailable hready hblame hload =>
    rw [fetch_load] at hblame
    rintro payload (⟨e, hcached, rfl⟩ | hfetch) hacceptable
    · exact hload e hcached (validate_eq_ok_iff.2 hacceptable)
    · exact not_acceptable_of_blame hblame payload hfetch hacceptable

/-- **Loading the catalog**: there is an index of what is served, and a failure if nothing acceptable is to be had. -/
theorem attempt_cases (c : Client) (h : Host) :
    (∃ payload stale entries, Serves c h payload stale ∧ decode payload = .ok entries ∧
        (c.attempt h).1 = .ok ⟨Index.ofEntries entries, stale⟩) ∨
      (∀ payload, Yields c h payload → ¬ Acceptable payload) ∧ ∃ e, (c.attempt h).1 = .error e := by
  unfold Client.attempt
  rw [bind_apply]
  cases hr : ((Host.bucket sourceName).resolve cacheKey c.fetch validate h).1 with
  | error e => exact .inr ⟨not_acceptable_of_resolve hr, e, rfl⟩
  | ok served =>
    have hserves := serves_of_resolve hr
    obtain ⟨entries, hentries⟩ := hserves.yields.2
    refine .inl ⟨_, _, entries, hserves, hentries, ?_⟩
    dsimp only
    rw [hentries]
    rfl

/-- A client is served one payload. -/
theorem Serves.unique {payload' : String} {stale' : Bool} (hs : Serves c h payload stale)
    (hs' : Serves c h payload' stale') : payload' = payload ∧ stale' = stale := by
  cases hs with
  | fresh hcached hfresh hacceptable =>
    cases hs' with
    | fresh hcached' => cases hcached.symm.trans hcached'; exact ⟨rfl, rfl⟩
    | fetched hnone => exact absurd hacceptable (hnone _ hcached hfresh)
    | old hcached' hstale => cases hcached.symm.trans hcached'; cases hfresh.symm.trans hstale
  | fetched hnone hfetch hacceptable =>
    cases hs' with
    | fresh hcached hfresh hacceptable' => exact absurd hacceptable' (hnone _ hcached hfresh)
    | fetched _ hfetch' => cases hfetch.symm.trans hfetch'; exact ⟨rfl, rfl⟩
    | old _ _ _ hfailed => exact absurd hacceptable (hfailed _ hfetch)
  | old hcached hstale _ hfailed =>
    cases hs' with
    | fresh hcached' hfresh => cases hcached.symm.trans hcached'; cases hfresh.symm.trans hstale
    | fetched _ hfetch hacceptable => exact absurd hacceptable (hfailed _ hfetch)
    | old hcached' => cases hcached.symm.trans hcached'; exact ⟨rfl, rfl⟩

/-! ## What a client says -/

/-- What a client says about a vulnerability if it loaded the catalog on a host. -/
structure Tells (c : Client) (h : Host) (cve : String) (status : ExploitedStatus) : Prop where
  /-- Nothing is known exactly if neither the cache nor a fetch has a catalog. -/
  unknown_iff : status.unknown = true ↔ ∀ payload, Yields c h payload → ¬ Acceptable payload
  unlisted_of_unknown : status.unknown = true → status.inCatalog = false ∧ status.entry = none
  /-- Otherwise there is a catalog, -/
  served_of_known : status.unknown = false → ∃ payload, Serves c h payload status.stale
  /-- and a vulnerability is known to be exploited exactly if a record spells its identifier. -/
  inCatalog_iff : ∀ payload stale entries, Serves c h payload stale → decode payload = .ok entries →
    (status.inCatalog = true ↔ ∃ e ∈ entries, Cve.canonical? e.cveId = some cve)
  /-- The last of these records is told. -/
  entry : ∀ payload stale entries, Serves c h payload stale → decode payload = .ok entries →
    Lists entries cve status.entry

theorem isSome_entry_verdict (loaded : Option (Except Failure Loaded)) (cve : String) :
    (verdict loaded cve).entry.isSome = (verdict loaded cve).inCatalog := by
  unfold verdict
  split
  · unfold Index.status
    split <;> rfl
  · rfl

/-- **What was loaded is what is said.** -/
theorem tells_verdict (c : Client) (h : Host) (cve : String) : Tells c h cve (verdict (some (c.attempt h).1) cve) := by
  obtain ⟨payload, stale, entries, hserves, hdecode, hattempt⟩ | ⟨hnone, e, hattempt⟩ := attempt_cases c h
  · have hstatus : verdict (some (c.attempt h).1) cve = (Index.ofEntries entries).status stale cve := by
      rw [hattempt, verdict]
    have hentry : ((Index.ofEntries entries).status stale cve).entry = (Index.ofEntries entries).lookup cve := by
      unfold Index.status
      split <;> simp [*]
    have hknown : ((Index.ofEntries entries).status stale cve).unknown = false ∧
        ((Index.ofEntries entries).status stale cve).stale = stale := by
      unfold Index.status
      split <;> exact ⟨rfl, rfl⟩
    have hlists := lists_lookup entries cve
    rw [← hentry] at hlists
    have hin := isSome_entry_verdict (some (c.attempt h).1) cve
    rw [hstatus] at hin ⊢
    refine ⟨?_, ?_, fun _ => ⟨payload, ?_⟩, fun payload' stale' entries' hserves' hdecode' => ?_,
      fun payload' stale' entries' hserves' hdecode' => ?_⟩
    · rw [hknown.1]
      exact iff_of_false nofun fun hnone => hnone payload hserves.yields.1 hserves.yields.2
    · rw [hknown.1]
      exact nofun
    · rw [hknown.2]
      exact hserves
    · obtain ⟨rfl, -⟩ := hserves.unique hserves'
      cases hdecode.symm.trans hdecode'
      rw [← hin]
      exact hlists.isSome_iff
    · obtain ⟨rfl, -⟩ := hserves.unique hserves'
      cases hdecode.symm.trans hdecode'
      exact hlists
  · rw [hattempt]
    have hserved {payload : String} {stale : Bool} (hserves : Serves c h payload stale) : False :=
      hnone payload hserves.yields.1 hserves.yields.2
    exact ⟨iff_of_true rfl hnone, fun _ => ⟨rfl, rfl⟩, nofun, fun _ _ _ hserves => (hserved hserves).elim,
      fun _ _ _ hserves => (hserved hserves).elim⟩

/-- A client that has tried to load the catalog keeps to what came of it. -/
theorem lookup_of_loaded {loaded : Except Failure Loaded} (hc : c.loaded = some loaded) {id : String}
    (hid : Cve.validate id = .ok cve) (h : Host) : c.lookup id h = ((.ok (verdict (some loaded) cve), c), h) := by
  have hload : c.load h = ((loaded, c), h) := by
    rw [Client.load, hc]
    rfl
  rw [Client.lookup_eq, hid]
  dsimp only
  rw [hload]

theorem lookup_reset (c : Client) {id : String} (hid : Cve.validate id = .ok cve) (h : Host) :
    (c.reset.lookup id h).1 =
      (.ok (verdict (some (c.attempt h).1) cve), { c with loaded := some (c.attempt h).1 }) := by
  rw [Client.lookup_eq, hid]
  rfl

theorem fst_contribute (c : Client) (f : Finding) (h : Host) :
    (c.contribute f h).1.1 = (c.lookup f.cve h).1.1.map apply := by
  simp only [Client.contribute, bind_apply, pure_apply]

/-- A contribution that lists a vulnerability has its record, whatever the client has loaded. -/
theorem entry_of_contribute {f : Finding} {change : Finding → Finding} (hc : (c.contribute f h).1.1 = .ok change) :
    ∃ status, change = apply status ∧ (status.inCatalog = true → ∃ entry, status.entry = some entry) := by
  rw [fst_contribute, Client.lookup_eq] at hc
  cases hf : Cve.validate f.cve with
  | error e =>
    rw [hf] at hc
    cases hc
  | ok cve =>
    rw [hf] at hc
    cases hc
    refine ⟨_, rfl, fun hin => Option.isSome_iff_exists.1 ?_⟩
    rw [isSome_entry_verdict]
    exact hin

end Serving

/-- **Exploitation looked up.** A client tells of a vulnerability the last record that spells its identifier, in the
catalog that it was served when it was first asked, and otherwise that it is not known to be exploited; without a
catalog nothing is known. Records with malformed identifiers do not matter. The published document and the bare list
of its records are the same catalog. What is served can always be read, and a contribution that lists a vulnerability
has its record. -/
theorem exploitation_looked_up (c : Client) (h : Host) {id cve : String} (hid : Cve.validate id = .ok cve) :
    (∃ status c', (c.reset.lookup id h).1 = (.ok status, c') ∧ Tells c h cve status ∧
      ∀ id' cve' later, Cve.validate id' = .ok cve' →
        ∃ status', c'.lookup id' later = ((.ok status', c'), later) ∧ Tells c h cve' status') ∧
    (∀ entries, Index.ofEntries (entries.filter fun e => (Cve.canonical? e.cveId).isSome) = Index.ofEntries entries) ∧
    (∀ bare document others, IsBareListOf bare document others → ∀ entries, decode document = .ok entries ↔
      (∃ d, documentDecoder {} (.object others) = some d) ∧ decode bare = .ok entries) ∧
    (∀ (σ : Type) (s : Cache.Store σ) key fetch st served,
      (s.resolve key fetch validate st).1 = .ok served → ∃ entries, decode served.payload = .ok entries) ∧
    ∀ (c₀ : Client) f later change c', (c₀.contribute f later).1 = (.ok change, c') →
      ∃ status, change = apply status ∧ (status.inCatalog = true → ∃ entry, status.entry = some entry) := by
  refine ⟨⟨_, _, lookup_reset c hid h, tells_verdict c h cve, fun id' cve' later hid' => ?_⟩, ofEntries_filter,
    fun _ _ _ => decode_document_iff, fun _ _ _ _ _ _ hr => ?_, fun _ _ _ _ _ hcontribute => ?_⟩
  · exact ⟨_, lookup_of_loaded rfl hid' later, tells_verdict c h cve'⟩
  · exact validate_eq_ok_iff.1 (Cache.valid_of_resolve hr)
  · exact entry_of_contribute (congrArg Prod.fst hcontribute)

/-- A document is decoded by its characters. -/
theorem decode_of_chars {payload : String} {cs : List Char} {entries : List CatalogEntry}
    (hchars : payload.toList = cs) (hhead : (Text.trimChars cs).head? ≠ some '[')
    (hdocument : ((Json.parseChars (Text.trimChars cs)).bind fun j => (documentDecoder {} j).bind (·.entries)) =
      some entries) : decode payload = .ok entries := by
  obtain ⟨j, hparse, hrest⟩ := Option.bind_eq_some_iff.1 hdocument
  obtain ⟨d, hd, hentries⟩ := Option.bind_eq_some_iff.1 hrest
  have htrim : (Text.trim payload).toList = Text.trimChars cs := by rw [Text.toList_trim, hchars]
  have htext : Json.decodeText documentDecoder {} (Text.trim payload) = .ok d := by
    rw [Json.decodeText, Json.parse, htrim, hparse]
    dsimp only
    rw [hd]
  rw [decode, htrim, if_neg hhead, htext]
  dsimp only
  rw [hentries]

/-- A catalog that has two records for a vulnerability, and one without an identifier. -/
def smallCatalog : String :=
  "\x7b\"title\":\"KEV\",\"Vulnerabilities\":[\x7b\"cveID\":\" cve-2024-0001\",\"product\":\"a\"\x7d," ++
    "\x7b\"cveID\":\"none\",\"product\":\"b\"\x7d,\x7b\"cveID\":\"CVE-2024-0001\",\"product\":\"c\"\x7d]\x7d"

/-- A host without a cache, for which the catalog is published. -/
def smallHost : Host where
  now := ⟨0⟩
  cache := none
  network _ := .answered 200 smallCatalog none

/-- The last record for the vulnerability is told. -/
theorem exploitation_looked_up_small :
    Cve.validate "Cve-2024-0001 " = .ok "CVE-2024-0001" ∧
      ∃ status c', (({} : Client).reset.lookup "Cve-2024-0001 " smallHost).1 = (.ok status, c') ∧
        status.inCatalog = true ∧ Lists
          [{ cveId := " cve-2024-0001", product := "a" }, { cveId := "none", product := "b" },
            { cveId := "CVE-2024-0001", product := "c" }] "CVE-2024-0001" status.entry := by
  have hid : Cve.validate "Cve-2024-0001 " = .ok "CVE-2024-0001" := by decide +kernel
  have hdecode : decode smallCatalog = .ok
      [{ cveId := " cve-2024-0001", product := "a" }, { cveId := "none", product := "b" },
        { cveId := "CVE-2024-0001", product := "c" }] :=
    decode_of_chars (Text.toList_append_of String.toList_ofList String.toList_ofList) (by decide +kernel)
      (by decide +kernel)
  have hfetch : (({} : Client).fetch smallHost).1 = .ok smallCatalog := by decide +kernel
  have hserves : Serves {} smallHost smallCatalog false := .fetched nofun hfetch ⟨_, hdecode⟩
  obtain ⟨⟨status, c', hlookup, htells, -⟩, -⟩ := exploitation_looked_up {} smallHost hid
  refine ⟨hid, status, c', hlookup, ?_, htells.entry _ _ _ hserves hdecode⟩
  rw [htells.inCatalog_iff _ _ _ hserves hdecode]
  exact ⟨_, List.mem_cons_self, by decide +kernel⟩

end Triage.ExploitedCatalog
