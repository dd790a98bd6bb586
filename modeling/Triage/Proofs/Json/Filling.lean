import Triage.Finding.Document
import Triage.Proofs.Json.Written
import Triage.Proofs.Keyed

/-!
# Records that are written and read again

A document codes a value if the program may write it and the decoder of the value reads it back
(`Codes`). An object is put together of members, some of which are left out when they are empty; what
matters of a member is which field of the record it sets (`Fills`). For each kind of member there is one
lemma here, and a record is coded by the members in a row (`Fills.append`, `Fills.codes`).
-/
namespace Triage.Json

open Decoder (FieldRule field fieldNamed? members)

variable {α β : Type}

/-- The document `j` codes `x`: it nests at most `n` deep, and the decoder reads `x` from it over `zero`. -/
structure Codes (n : Nat) (dec : Decoder α) (zero : α) (j : Json) (x : α) : Prop where
  written : Written n j
  read : dec zero j = some x

/-- The members `ms` turn the record `r` into `r'`, where no two of its fields have the same name. -/
structure Fills (n : Nat) (fields : List (FieldRule α)) (ms : List (String × Json)) (r r' : α) : Prop where
  names : ∀ m ∈ ms, ∃ name, m.1 = escape name
  values : ∀ m ∈ ms, Written n m.2
  read : (fields.map (·.name)).Nodup → members fields r ms = some r'

/-! ## Members in a row -/

theorem members_append (fields : List (FieldRule α)) (r : α) (ms ms' : List (String × Json)) :
    members fields r (ms ++ ms') = (members fields r ms).bind fun r' => members fields r' ms' := by
  induction ms generalizing r with
  | nil => rfl
  | cons m ms ih =>
    obtain ⟨name, j⟩ := m
    simp only [List.cons_append, members]
    cases fieldNamed? fields (unescape name) with
    | none => exact ih r
    | some f => simp only [ih, Option.bind_assoc]

section Fills

variable {n : Nat} {fields : List (FieldRule α)} {ms ms' : List (String × Json)} {r r' r'' : α}

theorem Fills.nil (n : Nat) (fields : List (FieldRule α)) (r : α) : Fills n fields [] r r :=
  ⟨fun _ h => (nomatch h), fun _ h => (nomatch h), fun _ => rfl⟩

theorem Fills.append (h : Fills n fields ms r r') (h' : Fills n fields ms' r' r'') :
    Fills n fields (ms ++ ms') r r'' where
  names := List.forall_mem_append.2 ⟨h.names, h'.names⟩
  values := List.forall_mem_append.2 ⟨h.values, h'.values⟩
  read hnames := by rw [members_append, h.read hnames, Option.bind_some, h'.read hnames]

theorem Fills.cons {m : String × Json} (h : Fills n fields [m] r r') (h' : Fills n fields ms r' r'') :
    Fills n fields (m :: ms) r r'' :=
  h.append h'

theorem Fills.to (h : Fills n fields ms r r') (heq : r' = r'') : Fills n fields ms r r'' := heq ▸ h

/-- A record is coded by members that fill it. -/
theorem Fills.codes (hnames : (fields.map (·.name)).Nodup) (h : Fills n fields ms r r') :
    Codes (n + 1) (Decoder.object fields) r (.object ms) r' :=
  ⟨.object h.names h.values, h.read hnames⟩

end Fills

/-! ## One member -/

/-- The member `name` belongs to the field that `get` and `set` reach. -/
structure Place (fields : List (FieldRule α)) (name : String) (get : α → β) (set : α → β → α)
    (dec : Decoder β) : Prop where
  mem : field name get set dec ∈ fields
  law : ∀ r, set r (get r) = r

/-- The field at the index `i`. -/
theorem place {fields : List (FieldRule α)} (i : Nat) {name : String} {get : α → β} {set : α → β → α}
    {dec : Decoder β} (h : fields[i]? = some (field name get set dec))
    (law : ∀ r, set r (get r) = r := by exact fun _ => rfl) : Place fields name get set dec :=
  ⟨List.mem_of_getElem? h, law⟩

/-- A field is found by its name if no other field has that name. -/
theorem fieldNamed?_of_mem {fields : List (FieldRule α)} (hnames : (fields.map (·.name)).Nodup)
    {f : FieldRule α} (hmem : f ∈ fields) : fieldNamed? fields f.name = some f := by
  have hfind : fields.find? (·.name == f.name) = some f := by
    induction fields with
    | nil => cases hmem
    | cons g fields ih =>
      obtain ⟨hfresh, hnames⟩ := List.nodup_cons.1 hnames
      rcases List.mem_cons.1 hmem with rfl | hmem
      · exact List.find?_cons_of_pos (beq_self_eq_true _)
      · have hne : g.name ≠ f.name := by
          intro heq
          exact hfresh (List.mem_map.2 ⟨f, hmem, heq.symm⟩)
        rw [List.find?_cons_of_neg (by simpa using hne)]
        exact ih hnames hmem
  rw [fieldNamed?, hfind]

theorem equalFold_of_fieldNamed? {fields : List (FieldRule α)} {f : FieldRule α} {key : String}
    (h : fieldNamed? fields key = some f) : f ∈ fields ∧ Text.equalFold f.name key = true := by
  unfold fieldNamed? at h
  split at h
  · rename_i g hfind
    cases h
    have hname := List.find?_some hfind
    exact ⟨List.mem_of_find?_eq_some hfind, by simp [Text.equalFold, eq_of_beq hname]⟩
  · have hname := List.find?_some h
    exact ⟨List.mem_of_find?_eq_some h, hname⟩

/-- A field is found by a name that differs from its own in case only, if the names of the fields differ in more. -/
theorem fieldNamed?_of_equalFold {fields : List (FieldRule α)}
    (hnames : (fields.map fun f => f.name.toList.map Text.foldChar).Nodup) {f : FieldRule α} (hmem : f ∈ fields)
    {key : String} (hkey : Text.equalFold f.name key = true) : fieldNamed? fields key = some f := by
  have hsome : (fieldNamed? fields key).isSome := by
    unfold fieldNamed?
    split
    · rfl
    · exact List.find?_isSome.2 ⟨f, hmem, hkey⟩
  obtain ⟨g, hg⟩ := Option.isSome_iff_exists.1 hsome
  obtain ⟨hgmem, hgkey⟩ := equalFold_of_fieldNamed? hg
  rw [hg, List.inj_on_of_nodup_map hnames hgmem hmem ((eq_of_beq hgkey).trans (eq_of_beq hkey).symm)]

section

variable {n : Nat} {fields : List (FieldRule α)} {name : String} {get : α → β} {set : α → β → α}
  {dec : Decoder β} {r : α} {x : β}

/-- A member that is always there. -/
theorem Fills.member (p : Place fields name get set dec) {j : Json} (h : Codes n dec (get r) j x) :
    Fills n fields [Json.member name j] r (set r x) where
  names := List.forall_mem_singleton.2 ⟨name, rfl⟩
  values := List.forall_mem_singleton.2 h.written
  read hnames := by
    have hfound := fieldNamed?_of_mem hnames p.mem
    have hread : (field name get set dec).read r j = some (set r x) := by
      simp only [field, h.read, Option.map_some]
    simp only [Json.member, members, unescape_escape]
    rw [show name = (field name get set dec).name from rfl, hfound]
    exact congrArg (·.bind fun r => members fields r []) hread

/-- A member that belongs to no field. -/
theorem Fills.passed {j : Json} (hnone : (fieldNamed? fields name).isNone = true) (h : Written n j) :
    Fills n fields [Json.member name j] r r where
  names := List.forall_mem_singleton.2 ⟨name, rfl⟩
  values := List.forall_mem_singleton.2 h
  read _ := by
    simp only [Json.member, members, unescape_escape, Option.isNone_iff_eq_none.1 hnone]

/-- A member that is left out when the record holds the value already. -/
theorem Fills.sparse (p : Place fields name get set dec) {ms : List (String × Json)}
    (h : ms = [] ∧ get r = x ∨ ∃ j, ms = [Json.member name j] ∧ Codes n dec (get r) j x) :
    Fills n fields ms r (set r x) := by
  rcases h with ⟨rfl, rfl⟩ | ⟨j, rfl, h⟩
  · exact (Fills.nil n fields r).to (p.law r).symm
  · exact .member p h

end

/-! ## Values -/

theorem codes_text (n : Nat) (old s : String) : Codes n Decoder.text old (ofText s) s :=
  ⟨.text s, congrArg some (unescape_escape s)⟩

theorem codes_bool (n : Nat) (old b : Bool) : Codes n Decoder.bool old (.bool b) b := ⟨.bool b, rfl⟩

theorem Codes.optional {n : Nat} {dec : Decoder α} {zero x : α} {j : Json} (h : Codes n dec zero j x) :
    Codes n (Decoder.optional zero dec) none j (some x) := by
  refine ⟨h.written, ?_⟩
  have hread : (dec zero j).map some = some (some x) := by rw [h.read, Option.map_some]
  cases h.written <;> exact hread

theorem items_of_forall₂ {n : Nat} {dec : Decoder α} {zero : α} {js : List Json} {xs : List α}
    (h : List.Forall₂ (Codes n dec zero) js xs) : Decoder.items zero dec [] js = some xs := by
  induction h with
  | nil => rfl
  | cons hx _ ih =>
    simp only [Decoder.items, List.head?_nil, Option.getD_none, List.tail_nil, hx.read, ih, bind,
      Option.bind_some, pure]

theorem codes_list {n : Nat} {dec : Decoder α} {zero : α} {js : List Json} {xs : List α}
    (h : List.Forall₂ (Codes n dec zero) js xs) :
    Codes (n + 1) (Decoder.list zero dec) none (.array js) (some xs) := by
  have hwritten : ∀ j ∈ js, Written n j :=
    ((List.forall₂_and_left _ _).1 (h.imp fun _ _ hx => ⟨hx.written, hx⟩)).1
  refine ⟨.array hwritten, ?_⟩
  simp only [Decoder.list, Option.getD_none, items_of_forall₂ h, Option.map_some]

theorem codes_plainList {n : Nat} {dec : Decoder α} {zero : α} {write : α → Json} {xs : List α}
    (h : ∀ x ∈ xs, Codes n dec zero (write x) x) :
    Codes (n + 1) (Decoder.plainList zero dec) [] (.array (xs.map write)) xs := by
  have hall : List.Forall₂ (Codes n dec zero) (xs.map write) xs :=
    List.forall₂_map_left_iff.2 (List.forall₂_same.2 h)
  refine ⟨(codes_list hall).written, ?_⟩
  simp only [Decoder.plainList, Decoder.list, Option.getD_some, items_of_forall₂ hall, Option.map_some]

/-- The entries of a map are read in the order of their keys. -/
theorem codes_entries (n : Nat) {entries : List (String × String)} (h : Keyed.Sorted entries) :
    Codes (n + 1) (Decoder.plainMap "" Decoder.text) []
      (.object (entries.map fun (k, v) => member k (ofText v))) entries := by
  have hfold (m : List (String × String)) :
      (entries.map fun e => member e.1 (ofText e.2)).foldlM (fun entries e =>
        (Decoder.text "" e.2).map fun v => Keyed.insert (unescape e.1) v entries) m =
        some (Keyed.insertAll entries m) := by
    induction entries generalizing m with
    | nil => rfl
    | cons kv entries ih =>
      obtain ⟨k, v⟩ := kv
      have hv := (codes_text n "" v).read
      rw [List.map_cons, List.foldlM_cons]
      simp only [member, hv, Option.map_some, unescape_escape, bind, Option.bind_some]
      exact ih (List.pairwise_cons.1 h).2 (Keyed.insert k v m)
  refine ⟨.object (fun m hm => ?_) (fun m hm => ?_), ?_⟩
  · obtain ⟨⟨k, v⟩, -, rfl⟩ := List.mem_map.1 hm
    exact ⟨k, rfl⟩
  · obtain ⟨⟨k, v⟩, -, rfl⟩ := List.mem_map.1 hm
    exact .text v
  · simp only [Decoder.plainMap, Decoder.map, Option.getD_some, hfold, Option.map_some]
    exact congrArg some (Keyed.ofList_of_sorted h)

/-! ## Members of each kind -/

namespace Fills

variable {n : Nat} {fields : List (FieldRule α)} {name : String} {r : α}

theorem text {get : α → String} {set : α → String → α} (p : Place fields name get set Decoder.text)
    {s : String} (hempty : get r = "" := by rfl) :
    Fills n fields (textUnlessEmpty name s) r (set r s) := by
  refine .sparse p ?_
  unfold textUnlessEmpty
  split
  next hs => exact .inl ⟨rfl, hempty.trans hs.symm⟩
  next => exact .inr ⟨_, rfl, codes_text _ _ _⟩

theorem flag {get : α → Bool} {set : α → Bool → α} (p : Place fields name get set Decoder.bool)
    {b : Bool} (hempty : get r = false := by rfl) : Fills n fields (flagIfSet name b) r (set r b) := by
  refine .sparse p ?_
  cases b with
  | false => exact .inl ⟨rfl, hempty⟩
  | true => exact .inr ⟨_, rfl, codes_bool _ _ _⟩

theorem option {get : α → Option β} {set : α → Option β → α} {zero : β} {dec : Decoder β}
    (p : Place fields name get set (Decoder.optional zero dec)) {write : β → Json} {o : Option β}
    (h : ∀ x ∈ o, Codes n dec zero (write x) x) (hempty : get r = none := by rfl) :
    Fills n fields (o.map fun x => Json.member name (write x)).toList r (set r o) := by
  refine .sparse p ?_
  cases o with
  | none => exact .inl ⟨rfl, hempty⟩
  | some x => exact .inr ⟨_, rfl, hempty ▸ (h x rfl).optional⟩

theorem list {get : α → List β} {set : α → List β → α} {zero : β} {dec : Decoder β}
    (p : Place fields name get set (Decoder.plainList zero dec)) {write : β → Json} {xs : List β}
    (h : ∀ x ∈ xs, Codes n dec zero (write x) x) (hempty : get r = [] := by rfl) :
    Fills (n + 1) fields (listUnlessEmpty name (xs.map write)) r (set r xs) := by
  refine .sparse p ?_
  cases xs with
  | nil => exact .inl ⟨rfl, hempty⟩
  | cons x xs => exact .inr ⟨_, rfl, hempty ▸ codes_plainList h⟩

theorem map {get : α → List (String × String)} {set : α → List (String × String) → α}
    (p : Place fields name get set (Decoder.plainMap "" Decoder.text))
    {entries : List (String × String)} (h : Keyed.Sorted entries) (hempty : get r = [] := by rfl) :
    Fills (n + 1) fields (mapUnlessEmpty name entries) r (set r entries) := by
  refine .sparse p ?_
  cases entries with
  | nil => exact .inl ⟨rfl, hempty⟩
  | cons kv entries => exact .inr ⟨_, rfl, hempty ▸ codes_entries n h⟩

end Fills

end Triage.Json
