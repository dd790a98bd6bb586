import Mathlib.Data.List.Forall2
import Mathlib.Data.List.Nodup
import Triage.Proofs.Settings.Items

/-!
# What a file says about an item

The values of a document are its leaves, each with the keys that lead to it. A key stands for a name that it
differs from in case only. What a file says about an item is the last leaf whose keys stand for the names on the
path of the item (`view_load`).
-/
namespace Triage

/-! ## Leaves -/

namespace Toml

mutual

/-- The values of a node in their order, each with the keys that lead to it. -/
def Node.leaves : Node → List (List String × Value)
  | .value v => [([], v)]
  | .table _ entries => leavesOf entries
  | .tables _ => []

/-- The same for a table. -/
def leavesOf : List (String × Node) → List (List String × Value)
  | [] => []
  | (key, node) :: entries => node.leaves.map (Prod.map (key :: ·) id) ++ leavesOf entries

end

/-- The keys stand for the names on a path. -/
def Spells (path keys : List String) : Prop := List.Forall₂ (fun name key => Text.equalFold name key = true) path keys

instance (path keys : List String) : Decidable (Spells path keys) := inferInstanceAs (Decidable (List.Forall₂ ..))

theorem spells_cons {name key : String} {path keys : List String} :
    Spells (name :: path) (key :: keys) ↔ Text.equalFold name key = true ∧ Spells path keys :=
  List.forall₂_cons

/-- What leaves say about what stands at a path: the last of the values there. -/
def saidAt {β : Type} (read : Value → Option β) (path : List String) (leaves : List (List String × Value)) : Option β :=
  (leaves.filterMap fun (keys, v) => if Spells path keys then read v else none).getLast?

section SaidAt

variable {β : Type} {read : Value → Option β}

theorem saidAt_append (path : List String) (leaves later : List (List String × Value)) :
    saidAt read path (leaves ++ later) = (saidAt read path later).or (saidAt read path leaves) := by
  rw [saidAt, List.filterMap_append, List.getLast?_append]
  rfl

theorem saidAt_map_cons (name : String) (path : List String) (key : String) (leaves : List (List String × Value)) :
    saidAt read (name :: path) (leaves.map (Prod.map (key :: ·) id)) =
      if Text.equalFold name key = true then saidAt read path leaves else none := by
  simp only [saidAt, List.filterMap_map, Function.comp_def, Prod.map, spells_cons, id]
  by_cases h : Text.equalFold name key = true <;> simp [h]

end SaidAt

end Toml

namespace Settings

open Toml (Node leavesOf saidAt)

/-! ## The field of a key -/

variable {α β γ : Type}

/-- The names of fields differ in more than case. -/
def Distinct (fields : List (FieldRule α)) : Prop :=
  (fields.map fun f => f.name.toList.map Text.foldChar).Nodup

instance (fields : List (FieldRule α)) : Decidable (Distinct fields) := inferInstanceAs (Decidable (List.Nodup _))

theorem equalFold_of_fieldNamed? {fields : List (FieldRule α)} {f : FieldRule α} {key : String}
    (h : fieldNamed? fields key = some f) : f ∈ fields ∧ Text.equalFold f.name key = true := by
  unfold fieldNamed? at h
  split at h
  · rename_i g hfind
    cases h
    have hname := List.find?_some hfind
    exact ⟨List.mem_of_find?_eq_some hfind, by simp [Text.equalFold, eq_of_beq hname]⟩
  · have hname := List.find?_some h
    exact ⟨List.mem_of_find?_eq_some h, hname⟩

/-- **The field of a key** is the one whose name differs from it in case only. -/
theorem fieldNamed?_of_equalFold {fields : List (FieldRule α)} (hd : Distinct fields) {f : FieldRule α}
    (hf : f ∈ fields) {key : String} (hkey : Text.equalFold f.name key = true) : fieldNamed? fields key = some f := by
  -- There is one, and all of them have the same name but for the case.
  have hsome : (fieldNamed? fields key).isSome := by
    unfold fieldNamed?
    split
    · rfl
    · exact List.find?_isSome.2 ⟨f, hf, hkey⟩
  obtain ⟨g, hg⟩ := Option.isSome_iff_exists.1 hsome
  obtain ⟨hmem, hgkey⟩ := equalFold_of_fieldNamed? hg
  rw [hg, List.inj_on_of_nodup_map hd hmem hf ((eq_of_beq hgkey).trans (eq_of_beq hkey).symm)]

/-- A field has no part in what `get` observes. -/
def FieldRule.Keeps (f : FieldRule α) (get : α → γ) : Prop :=
  ∀ r node r', f.read r node = some r' → get r' = get r

theorem FieldRule.Keeps.map {f : FieldRule α} {get : α → β} (h : f.Keeps get) (g : β → γ) :
    f.Keeps fun r => g (get r) :=
  fun r node r' hread => congrArg g (h r node r' hread)

theorem keeps_scalar {name : String} {set : α → β → α} {read : Toml.Value → Option β} {get : α → γ}
    (h : ∀ r v, get (set r v) = get r) : (scalar name set read).Keeps get := by
  intro r node r' hread
  cases node with
  | value v =>
    obtain ⟨x, -, rfl⟩ := Option.map_eq_some_iff.1 hread
    exact h r x
  | table implicit entries => cases hread
  | tables last => cases hread

theorem keeps_record {name : String} {get : α → γ} {part : α → β} {set : α → β → α} {fields : List (FieldRule β)}
    (h : ∀ r v, get (set r v) = get r) : (record name part set fields).Keeps get := by
  intro r node r' hread
  cases node with
  | table implicit entries =>
    obtain ⟨x, -, rfl⟩ := Option.map_eq_some_iff.1 hread
    exact h r x
  | value v => cases hread
  | tables last => cases hread

/-- Reading a table into a record leads to what its leaves say at a path, as far as `get` observes it. -/
def ReadsAt (fields : List (FieldRule α)) (path : List String) (get : α → γ) (read : Toml.Value → Option γ) : Prop :=
  ∀ r entries r', readEntries fields r entries = some r' → get r' = (saidAt read path (leavesOf entries)).getD (get r)

/-- **One field is observed**: it does to the observation what its leaves say, and the others do nothing to it. -/
theorem readsAt_of_field {fields : List (FieldRule α)} (hd : Distinct fields) {f : FieldRule α} (hf : f ∈ fields)
    {path : List String} {get : α → γ} {read : Toml.Value → Option γ}
    (hread : ∀ r node r', f.read r node = some r' → get r' = (saidAt read path node.leaves).getD (get r))
    (hothers : ∀ g ∈ fields, g.name ≠ f.name → g.Keeps get) : ReadsAt fields (f.name :: path) get read := by
  intro r entries r' h
  induction entries generalizing r with
  | nil => cases h; rfl
  | cons entry entries ih =>
    obtain ⟨key, node⟩ := entry
    obtain ⟨r₁, hstep, hrest⟩ := Option.bind_eq_some_iff.1 h
    dsimp only at hstep
    have hfirst : get r₁ = (saidAt read (f.name :: path) (node.leaves.map (Prod.map (key :: ·) id))).getD (get r) := by
      rw [Toml.saidAt_map_cons]
      split
      · rename_i hkey
        rw [fieldNamed?_of_equalFold hd hf hkey] at hstep
        exact hread r node r₁ hstep
      · rename_i hkey
        split at hstep
        · cases hstep; rfl
        · rename_i g hg
          obtain ⟨hmem, hgkey⟩ := equalFold_of_fieldNamed? hg
          have hne : g.name ≠ f.name := fun hname => hkey (hname ▸ hgkey)
          exact hothers g hmem hne r node r₁ hstep
    rw [ih r₁ hrest, hfirst, leavesOf, Toml.saidAt_append, Option.getD_or]

theorem readsAt_scalar {fields : List (FieldRule α)} (hd : Distinct fields) (n : Nat) {name : String}
    {set : α → β → α} {read : Toml.Value → Option β} (hf : fields[n]? = some (scalar name set read)) {get : α → γ}
    {wrap : β → γ} (hget : ∀ r v, get (set r v) = wrap v) (hothers : ∀ g ∈ fields, g.name ≠ name → g.Keeps get) :
    ReadsAt fields [name] get fun v => (read v).map wrap := by
  refine readsAt_of_field hd (List.mem_of_getElem? hf) (fun r node r' h => ?_) hothers
  cases node with
  | value v =>
    obtain ⟨x, hx, rfl⟩ := Option.map_eq_some_iff.1 h
    simp [hget, Node.leaves, saidAt, Toml.Spells, hx]
  | table implicit entries => cases h
  | tables last => cases h

theorem readsAt_record {fields : List (FieldRule α)} (hd : Distinct fields) (n : Nat) {name : String}
    {part : α → β} {set : α → β → α} {inner : List (FieldRule β)}
    (hf : fields[n]? = some (record name part set inner)) (hset : ∀ r v, part (set r v) = v)
    (hothers : ∀ g ∈ fields, g.name ≠ name → g.Keeps part)
    {path : List String} {get : β → γ} {read : Toml.Value → Option γ} (h : ReadsAt inner path get read) :
    ReadsAt fields (name :: path) (fun r => get (part r)) read := by
  refine readsAt_of_field hd (List.mem_of_getElem? hf) (fun r node r' hread => ?_) fun g hg hne =>
    (hothers g hg hne).map get
  cases node with
  | table implicit entries =>
    obtain ⟨x, hx, rfl⟩ := Option.map_eq_some_iff.1 hread
    rw [hset, Node.leaves]
    exact h (part r) entries x hx
  | value v => cases hread
  | tables last => cases hread

/-! ## Items -/

/-- Each field changes its own part of the settings only. -/
theorem keeps_parts :
    (∀ f ∈ fields, f.name ≠ "log_level" → f.Keeps (·.logLevel)) ∧
      (∀ f ∈ fields, f.name ≠ "workers" → f.Keeps (·.workers)) ∧
      (∀ f ∈ fields, f.name ≠ "cache" → f.Keeps (·.cache)) ∧
      (∀ f ∈ fields, f.name ≠ "sources" → f.Keeps (·.sources)) ∧
      (∀ f ∈ fields, f.name ≠ "findings" → f.Keeps (·.findings)) ∧
      ∀ f ∈ fields, f.name ≠ "server" → f.Keeps (·.server) := by
  refine ⟨?_, ?_, ?_, ?_, ?_, ?_⟩
  all_goals
    simp only [fields, List.forall_mem_cons, List.not_mem_nil, IsEmpty.forall_iff, implies_true, and_true]
    and_intros <;> first
      | exact fun hne => absurd rfl hne
      | exact fun _ => keeps_scalar fun _ _ => rfl
      | exact fun _ => keeps_record fun _ _ => rfl

theorem readsAt_cacheFields :
    ReadsAt cacheFields ["dir"] (fun s => .text s.directory) (Kind.read .text) ∧
      ReadsAt cacheFields ["ttl"] (fun s => .span s.lifetime) (Kind.read .span) ∧
      ReadsAt cacheFields ["disabled"] (fun s => .flag s.disabled) (Kind.read .flag) := by
  refine ⟨readsAt_scalar (by decide +kernel) 0 rfl (fun _ _ => rfl) ?_,
    readsAt_scalar (by decide +kernel) 1 rfl (fun _ _ => rfl) ?_,
    readsAt_scalar (by decide +kernel) 2 rfl (fun _ _ => rfl) ?_⟩
  all_goals
    simp only [cacheFields, List.forall_mem_cons, List.not_mem_nil, IsEmpty.forall_iff, implies_true, and_true]
    and_intros <;> first
      | exact fun hne => absurd rfl hne
      | exact fun _ => keeps_scalar fun _ _ => rfl

theorem readsAt_sourceFields :
    ReadsAt sourceFields ["enabled"] (fun s => .flag s.enabled) (Kind.read .flag) ∧
      ReadsAt sourceFields ["url"] (fun s => .text s.url) (Kind.read .text) ∧
      ReadsAt sourceFields ["timeout"] (fun s => .span s.timeout) (Kind.read .span) ∧
      ReadsAt sourceFields ["api_key"] (fun s => .text s.key) (Kind.read .text) := by
  refine ⟨readsAt_scalar (by decide +kernel) 0 rfl (fun _ _ => rfl) ?_,
    readsAt_scalar (by decide +kernel) 1 rfl (fun _ _ => rfl) ?_,
    readsAt_scalar (by decide +kernel) 2 rfl (fun _ _ => rfl) ?_,
    readsAt_scalar (by decide +kernel) 3 rfl (fun _ _ => rfl) ?_⟩
  all_goals
    simp only [sourceFields, List.forall_mem_cons, List.not_mem_nil, IsEmpty.forall_iff, implies_true, and_true]
    and_intros <;> first
      | exact fun hne => absurd rfl hne
      | exact fun _ => keeps_scalar fun _ _ => rfl

theorem readsAt_findingsFields :
    ReadsAt findingsFields ["mode"] (fun s => .text s.mode) (Kind.read .text) ∧
      ReadsAt findingsFields ["file"] (fun s => .text s.file) (Kind.read .text) ∧
      ReadsAt findingsFields ["image_list_file"] (fun s => .text s.imageList) (Kind.read .text) ∧
      ReadsAt findingsFields ["ecr_account_id"] (fun s => .text s.account) (Kind.read .text) ∧
      ReadsAt findingsFields ["ecr_region"] (fun s => .text s.region) (Kind.read .text) ∧
      ReadsAt findingsFields ["namespace"] (fun s => .text s.ns) (Kind.read .text) := by
  refine ⟨readsAt_scalar (by decide +kernel) 0 rfl (fun _ _ => rfl) ?_,
    readsAt_scalar (by decide +kernel) 1 rfl (fun _ _ => rfl) ?_,
    readsAt_scalar (by decide +kernel) 2 rfl (fun _ _ => rfl) ?_,
    readsAt_scalar (by decide +kernel) 3 rfl (fun _ _ => rfl) ?_,
    readsAt_scalar (by decide +kernel) 4 rfl (fun _ _ => rfl) ?_,
    readsAt_scalar (by decide +kernel) 5 rfl (fun _ _ => rfl) ?_⟩
  all_goals
    simp only [findingsFields, List.forall_mem_cons, List.not_mem_nil, IsEmpty.forall_iff, implies_true, and_true]
    and_intros <;> first
      | exact fun hne => absurd rfl hne
      | exact fun _ => keeps_scalar fun _ _ => rfl

theorem readsAt_serverFields :
    ReadsAt serverFields ["port"] (fun s => .whole s.port) (Kind.read .whole) ∧
      ReadsAt serverFields ["refresh_interval"] (fun s => .span s.interval) (Kind.read .span) := by
  refine ⟨readsAt_scalar (by decide +kernel) 0 rfl (fun _ _ => rfl) ?_,
    readsAt_scalar (by decide +kernel) 1 rfl (fun _ _ => rfl) ?_⟩
  all_goals
    simp only [serverFields, List.forall_mem_cons, List.not_mem_nil, IsEmpty.forall_iff, implies_true, and_true]
    and_intros <;> first
      | exact fun hne => absurd rfl hne
      | exact fun _ => keeps_scalar fun _ _ => rfl

theorem get_set_of_ne (s : SourcesSettings) {id other : SourceId} (h : other ≠ id) (v : SourceSettings) :
    (s.set other v).get id = s.get id := by
  cases other <;> cases id <;> first | rfl | exact absurd rfl h

theorem keeps_sourcesFields (id : SourceId) : ∀ f ∈ sourcesFields, f.name ≠ id.name → f.Keeps (·.get id) := by
  intro f hf hne
  obtain ⟨other, -, rfl⟩ := List.mem_map.1 hf
  exact keeps_record fun s v => get_set_of_ne s (fun h => hne (congrArg SourceId.name h)) v

theorem readsAt_sourcesFields {path : List String} {get : SourceSettings → Datum} {read : Toml.Value → Option Datum}
    (h : ReadsAt sourceFields path get read) (id : SourceId) :
    ReadsAt sourcesFields (id.name :: path) (fun s => get (s.get id)) read := by
  have hd : Distinct sourcesFields := by decide +kernel
  have hothers := keeps_sourcesFields id
  cases id with
  | catalog => exact readsAt_record hd 0 rfl (fun _ _ => rfl) hothers h
  | forecasts => exact readsAt_record hd 1 rfl (fun _ _ => rfl) hothers h
  | advisories => exact readsAt_record hd 2 rfl (fun _ _ => rfl) hothers h
  | exploits => exact readsAt_record hd 3 rfl (fun _ _ => rfl) hothers h

/-- **Reading a document** gives an item what the leaves say at its path. -/
theorem readsAt_item (i : Item) : ReadsAt fields i.path (fun s => s.view i) i.kind.read := by
  have hd : Distinct fields := by decide +kernel
  obtain ⟨hlogLevel, hworkers, hcache, hsources, hfindings, hserver⟩ := keeps_parts
  have inCache {path} {get : CacheSettings → Datum} {read} (h : ReadsAt cacheFields path get read) :
      ReadsAt fields ("cache" :: path) (fun s => get s.cache) read :=
    readsAt_record hd 2 rfl (fun _ _ => rfl) hcache h
  have inSources {path} {get : SourcesSettings → Datum} {read} (h : ReadsAt sourcesFields path get read) :
      ReadsAt fields ("sources" :: path) (fun s => get s.sources) read :=
    readsAt_record hd 3 rfl (fun _ _ => rfl) hsources h
  have inFindings {path} {get : FindingsSettings → Datum} {read} (h : ReadsAt findingsFields path get read) :
      ReadsAt fields ("findings" :: path) (fun s => get s.findings) read :=
    readsAt_record hd 4 rfl (fun _ _ => rfl) hfindings h
  have inServer {path} {get : ServerSettings → Datum} {read} (h : ReadsAt serverFields path get read) :
      ReadsAt fields ("server" :: path) (fun s => get s.server) read :=
    readsAt_record hd 5 rfl (fun _ _ => rfl) hserver h
  cases i with
  | logLevel => exact readsAt_scalar hd 0 rfl (fun _ _ => rfl) fun f hf hne => (hlogLevel f hf hne).map Datum.text
  | workers => exact readsAt_scalar hd 1 rfl (fun _ _ => rfl) fun f hf hne => (hworkers f hf hne).map Datum.whole
  | cacheDirectory => exact inCache readsAt_cacheFields.1
  | cacheLifetime => exact inCache readsAt_cacheFields.2.1
  | cacheDisabled => exact inCache readsAt_cacheFields.2.2
  | enabled id => exact inSources (readsAt_sourcesFields readsAt_sourceFields.1 id)
  | url id => exact inSources (readsAt_sourcesFields readsAt_sourceFields.2.1 id)
  | timeout id => exact inSources (readsAt_sourcesFields readsAt_sourceFields.2.2.1 id)
  | key id => exact inSources (readsAt_sourcesFields readsAt_sourceFields.2.2.2 id)
  | mode => exact inFindings readsAt_findingsFields.1
  | file => exact inFindings readsAt_findingsFields.2.1
  | imageList => exact inFindings readsAt_findingsFields.2.2.1
  | account => exact inFindings readsAt_findingsFields.2.2.2.1
  | region => exact inFindings readsAt_findingsFields.2.2.2.2.1
  | ns => exact inFindings readsAt_findingsFields.2.2.2.2.2
  | port => exact inServer readsAt_serverFields.1
  | interval => exact inServer readsAt_serverFields.2

/-- **What a file says** about an item is what its leaves say at the path of the item; else the item is as it is
without a file. -/
theorem view_load {disk : Disk} {faults : Faults} {path : String} {s : Settings} (h : load disk faults path = .ok s) :
    (path = "" ∧ s = {}) ∨ ∃ text document, path ≠ "" ∧ disk.read faults path = .ok text ∧
      Toml.parse? text = some document ∧
      ∀ i : Item, s.view i = (saidAt i.kind.read i.path (leavesOf document.entries)).getD (view {} i) := by
  unfold load at h
  split at h
  · rename_i hpath
    cases h
    exact .inl ⟨hpath, rfl⟩
  · rename_i hpath
    split at h
    · cases h
    · rename_i text htext
      split at h
      · cases h
      · rename_i settings hsettings
        cases h
        obtain ⟨document, hdocument, hsettings⟩ := Option.bind_eq_some_iff.1 hsettings
        obtain ⟨s', hread, hs'⟩ := Option.bind_eq_some_iff.1 hsettings
        obtain ⟨rfl, -⟩ := Prod.mk.inj (Option.some.inj hs')
        exact .inr ⟨text, document, hpath, htext, hdocument, fun i => readsAt_item i _ _ _ hread⟩
      · cases h

end Settings

end Triage
