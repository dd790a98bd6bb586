import Triage.Cache.Record
import Triage.Proofs.Json.Members
import Triage.Proofs.Keyed
import Triage.Proofs.Time.Stamp

/-!
# What cache files hold

A well-formed file is read as what it says, at every key (`Holds.rel_lookup`). What is read from a file,
whatever it holds, is a map of sound records (`sound_ofFile`): their payloads are documents, and their times
have a written form up to their year. When sound records are written, the file holds the same keys, the same
times and the same documents (`ofFile_toText`).
-/
namespace Triage.Cache

open Time (Stamp)
open Json (Spells Tells SameDocument maxDepth)

/-- A record as it comes from a file or from a store. -/
structure Record.Sound (r : Record) : Prop where
  document : (Json.parse r.payload).isSome
  whole : r.fetchedAt.Whole

/-- Records as they come from a file or from a store. -/
structure Records.Sound (rs : Records) : Prop where
  sorted : Keyed.Sorted rs
  records : ∀ kr ∈ rs, kr.2.Sound

theorem Records.sound_nil : Records.Sound [] := ⟨List.Pairwise.nil, fun _ h => nomatch h⟩

theorem Records.Sound.insert {rs : Records} (h : rs.Sound) (key : String) {r : Record} (hr : r.Sound) :
    Records.Sound (Keyed.insert key r rs) := by
  refine ⟨Keyed.sorted_insert h.sorted key r, fun kr hkr => ?_⟩
  rcases Keyed.eq_or_mem_of_mem_insert hkr with rfl | hkr
  · exact hr
  · exact h.records kr hkr

/-! ## Reading -/

/-- The text of a member is that of a document. -/
def IsRaw (raw : String) : Prop := ∃ j, Spells (maxDepth - 1) (.value j) raw.toList

theorem parse_of_spells {j : Json} {raw : String} (h : Spells (maxDepth - 1) (.value j) raw.toList) :
    Json.parse raw = some j := by
  have hparse := h.parse (Nat.sub_le _ _)
  rwa [String.ofList_toList] at hparse

theorem IsRaw.isSome {raw : String} (h : IsRaw raw) : (Json.parse raw).isSome := by
  obtain ⟨j, hj⟩ := h
  rw [parse_of_spells hj]
  rfl

theorem whole_of_readTime {raw : String} {s : Stamp} (h : readTime raw = some (some s)) : s.Whole := by
  unfold readTime at h
  split at h
  · cases h
  · obtain ⟨t, ht, heq⟩ := Option.map_eq_some_iff.1 h
    cases heq
    exact Stamp.whole_of_parse? ht
  · cases h

/-- What has been read of a record is sound. -/
structure Draft.Sound (draft : Draft) : Prop where
  document : ∀ payload ∈ draft.payload, (Json.parse payload).isSome
  whole : ∀ s ∈ draft.fetchedAt, s.Whole

theorem Draft.Sound.readMembers {members : List (String × String)} (hraw : ∀ m ∈ members, IsRaw m.2)
    {draft draft' : Draft} (h : draft.Sound) (hread : draft.readMembers members = some draft') :
    draft'.Sound := by
  induction members generalizing draft with
  | nil => cases hread; exact h
  | cons m members ih =>
    obtain ⟨name, raw⟩ := m
    have hrest : ∀ m ∈ members, IsRaw m.2 := fun m hm => hraw m (List.mem_cons_of_mem _ hm)
    rw [Draft.readMembers] at hread
    split at hread
    · have hnext : Draft.Sound { draft with payload := some raw } := by
        refine ⟨fun payload hp => ?_, h.whole⟩
        cases hp
        exact (hraw (name, raw) List.mem_cons_self).isSome
      exact ih hrest hnext hread
    · split at hread
      · obtain ⟨t, ht, hread⟩ := Option.bind_eq_some_iff.1 hread
        have hnext : Draft.Sound { draft with fetchedAt := t } := by
          refine ⟨h.document, fun s hs => ?_⟩
          cases hs
          exact whole_of_readTime ht
        exact ih hrest hnext hread
      · exact ih hrest h hread

theorem sound_ofRaw {modified : Stamp} (hmodified : modified.Whole) {raw : String} (h : IsRaw raw) :
    (Record.ofRaw modified raw).Sound := by
  unfold Record.ofRaw
  split
  · rename_i payload fetchedAt hdraft
    obtain ⟨members, hmembers, hread⟩ := Option.bind_eq_some_iff.1 hdraft
    have hempty : Draft.Sound {} := ⟨fun _ h => (nomatch h), fun _ h => (nomatch h)⟩
    have hsound := hempty.readMembers (Json.spells_of_rawMembers hmembers) hread
    refine ⟨hsound.document payload rfl, ?_⟩
    cases fetchedAt with
    | none => exact hmodified
    | some s => exact hsound.whole s rfl
  · exact ⟨h.isSome, hmodified⟩

/-- **Whatever a file holds**, its records are sound. -/
theorem sound_ofFile (file : File) : (Records.ofFile file).Sound := by
  unfold Records.ofFile
  split
  · exact Records.sound_nil
  · rename_i members hmembers
    refine ⟨Keyed.sorted_ofList _, fun kr hkr => ?_⟩
    obtain ⟨⟨key, raw⟩, hmem, rfl⟩ := List.mem_map.1 (Keyed.mem_of_mem_ofList hkr)
    exact sound_ofRaw (Stamp.whole_universal _) (Json.spells_of_rawMembers hmembers _ hmem)

/-! ## What a file says -/

/-- A member of a file says a payload and its time. A record names both; a bare payload, which names none, is
as old as the file. -/
inductive Says (modified : Stamp) : Json → Json → Stamp → Prop
  | record {ms : List (String × Json)} {payload : Json} {time : Stamp}
    (hasPayload : ∃ m ∈ ms, isField "payload" (Json.unescape m.1) = true)
    (payloads : ∀ m ∈ ms, isField "payload" (Json.unescape m.1) = true → m.2 = payload)
    (hasTime : ∃ m ∈ ms, isField "fetched_at" (Json.unescape m.1) = true)
    (times : ∀ m ∈ ms, isField "fetched_at" (Json.unescape m.1) = true →
      ∃ text, m.2 = .string text ∧ Stamp.parse? text = some time) :
    Says modified (.object ms) payload time
  | bare {payload : Json}
    (h : ∀ ms, payload = .object ms → ∀ m ∈ ms, isField "payload" (Json.unescape m.1) = false) :
    Says modified payload payload modified

theorem fold_of_isField {field name : String} (h : isField field name = true) :
    field.toList.map Text.foldChar = name.toList.map Text.foldChar := by
  rcases Bool.or_eq_true_iff.1 h with h | h
  · rw [eq_of_beq h]
  · exact eq_of_beq h

theorem isField_payload_of_time {name : String} (h : isField "fetched_at" name = true) :
    isField "payload" name = false := by
  refine Bool.eq_false_iff.2 fun hpayload => ?_
  exact absurd ((fold_of_isField hpayload).trans (fold_of_isField h).symm) (by decide)

/-- What has been read of a record is right. -/
structure Draft.Right (payload : Json) (time : Stamp) (draft : Draft) : Prop where
  payload : ∀ text ∈ draft.payload, Json.parse text = some payload
  time : ∀ t ∈ draft.fetchedAt, t = time

/-- The members of a record are read in any order, and all others are passed over. -/
theorem Draft.Right.readMembers {ms : List (String × Json)} {raws : List (String × String)}
    (htell : List.Forall₂ Tells ms raws) {payload : Json} {time : Stamp}
    (payloads : ∀ m ∈ ms, isField "payload" (Json.unescape m.1) = true → m.2 = payload)
    (times : ∀ m ∈ ms, isField "fetched_at" (Json.unescape m.1) = true →
      ∃ text, m.2 = .string text ∧ Stamp.parse? text = some time)
    {draft : Draft} (h : draft.Right payload time) :
    ∃ draft', draft.readMembers raws = some draft' ∧ draft'.Right payload time ∧
      ((draft.payload.isSome ∨ ∃ m ∈ ms, isField "payload" (Json.unescape m.1) = true) →
        draft'.payload.isSome) ∧
      ((draft.fetchedAt.isSome ∨ ∃ m ∈ ms, isField "fetched_at" (Json.unescape m.1) = true) →
        draft'.fetchedAt.isSome) := by
  induction htell generalizing draft with
  | nil => exact ⟨draft, rfl, h, by simp, by simp⟩
  | @cons m raw ms raws hm _ ih =>
    obtain ⟨name, text⟩ := raw
    obtain ⟨hname, hspells⟩ := hm
    dsimp only at hname hspells
    subst hname
    have hnext {draft' : Draft} (h' : draft'.Right payload time) :=
      ih (fun m hm => payloads m (List.mem_cons_of_mem _ hm)) (fun m hm => times m (List.mem_cons_of_mem _ hm)) h'
    by_cases hpayload : isField "payload" (Json.unescape m.1) = true
    · have hvalue := parse_of_spells hspells
      rw [payloads m List.mem_cons_self hpayload] at hvalue
      have hright : Draft.Right payload time { draft with payload := some text } :=
        ⟨fun _ ht => Option.mem_some.1 ht ▸ hvalue, h.time⟩
      have htime : isField "fetched_at" (Json.unescape m.1) = false :=
        Bool.eq_false_iff.2 fun htime => absurd (isField_payload_of_time htime) (by simp [hpayload])
      obtain ⟨draft', hread, hright', hsome, hsome'⟩ := hnext hright
      refine ⟨draft', by rw [Draft.readMembers, if_pos hpayload, hread], hright', fun _ => hsome (.inl rfl), ?_⟩
      simpa [htime] using hsome'
    · by_cases htime : isField "fetched_at" (Json.unescape m.1) = true
      · obtain ⟨body, hbody, hstamp⟩ := times m List.mem_cons_self htime
        have hvalue := parse_of_spells hspells
        rw [hbody] at hvalue
        have hread : readTime text = some (some time) := by
          simp only [readTime, hvalue, hstamp, Option.map_some]
        have hright : Draft.Right payload time { draft with fetchedAt := some time } :=
          ⟨h.payload, fun _ ht => (Option.mem_some.1 ht).symm⟩
        obtain ⟨draft', hread', hright', hsome, hsome'⟩ := hnext hright
        refine ⟨draft', ?_, hright', by simpa [hpayload] using hsome, fun _ => hsome' (.inl rfl)⟩
        rw [Draft.readMembers, if_neg hpayload, if_pos htime, hread, Option.bind_some, hread']
      · obtain ⟨draft', hread, hright', hsome, hsome'⟩ := hnext h
        refine ⟨draft', by rw [Draft.readMembers, if_neg hpayload, if_neg htime, hread], hright', ?_, ?_⟩
        · simpa [hpayload] using hsome
        · simpa [htime] using hsome'

/-- Without a payload among the members, none is read. -/
theorem payload_readMembers {ms : List (String × Json)} {raws : List (String × String)}
    (htell : List.Forall₂ Tells ms raws) (h : ∀ m ∈ ms, isField "payload" (Json.unescape m.1) = false)
    {draft draft' : Draft} (hread : draft.readMembers raws = some draft') : draft'.payload = draft.payload := by
  induction htell generalizing draft with
  | nil => cases hread; rfl
  | @cons m raw ms raws hm _ ih =>
    have hrest : ∀ m ∈ ms, isField "payload" (Json.unescape m.1) = false :=
      fun m hm => h m (List.mem_cons_of_mem _ hm)
    have hpayload : isField "payload" raw.1 = false := by rw [hm.1, h m List.mem_cons_self]
    rw [Draft.readMembers, if_neg (by simp [hpayload])] at hread
    split at hread
    · obtain ⟨t, -, hread⟩ := Option.bind_eq_some_iff.1 hread
      have hsame := ih hrest hread
      exact hsame
    · exact ih hrest hread

/-- A member is read as what it says. -/
theorem ofRaw_of_says {modified : Stamp} {j payload : Json} {time : Stamp} (h : Says modified j payload time)
    {raw : String} (hraw : Spells (maxDepth - 1) (.value j) raw.toList) :
    ∃ text, Record.ofRaw modified raw = ⟨text, time⟩ ∧ Json.parse text = some payload := by
  have hparse := parse_of_spells hraw
  cases h with
  | record hasPayload payloads hasTime times =>
    obtain ⟨raws, hraws, htell⟩ := Json.rawMembers_of_parse hparse
    have hempty : Draft.Right payload time {} := ⟨fun _ h => (nomatch h), fun _ h => (nomatch h)⟩
    obtain ⟨⟨text, t⟩, hread, hright, hsome, hsome'⟩ := hempty.readMembers htell payloads times
    obtain ⟨text, rfl⟩ := Option.isSome_iff_exists.1 (hsome (.inr hasPayload))
    obtain ⟨t, rfl⟩ := Option.isSome_iff_exists.1 (hsome' (.inr hasTime))
    refine ⟨text, ?_, hright.payload text rfl⟩
    rw [Record.ofRaw, hraws, Option.bind_some, hread, ← hright.time t rfl]
    rfl
  | bare hbare =>
    refine ⟨raw, ?_, hparse⟩
    unfold Record.ofRaw
    split
    · rename_i text fetchedAt hdraft
      obtain ⟨members, hmembers, hread⟩ := Option.bind_eq_some_iff.1 hdraft
      obtain ⟨ms, rfl⟩ := Json.isObject_of_rawMembers hmembers hparse
      obtain ⟨raws, hraws, htell⟩ := Json.rawMembers_of_parse hparse
      cases hmembers.symm.trans hraws
      cases payload_readMembers htell (hbare ms rfl) hread
    · rfl

/-- What a file says at a key, and the record that is read from it. -/
structure Means (entry : Json × Stamp) (r : Record) : Prop where
  payload : Json.parse r.payload = some entry.1
  fetchedAt : r.fetchedAt = entry.2

/-- A well-formed file with its entries: an object with one member for each key. -/
def Holds (file : File) (entries : List (String × Json × Stamp)) : Prop :=
  (entries.map (·.1)).Nodup ∧ ∃ ms, Json.parse file.data = some (.object ms) ∧
    List.Forall₂ (fun m e => e.1 = Json.unescape m.1 ∧ Says ⟨file.modified, 0⟩ m.2 e.2.1 e.2.2) ms entries

theorem forall₂_means {modified : Stamp} {ms : List (String × Json)} {raws : List (String × String)}
    (htell : List.Forall₂ Tells ms raws) {entries : List (String × Json × Stamp)}
    (h : List.Forall₂ (fun m e => e.1 = Json.unescape m.1 ∧ Says modified m.2 e.2.1 e.2.2) ms entries) :
    List.Forall₂ (fun e kr => kr.1 = e.1 ∧ Means e.2 kr.2) entries
      (raws.map fun (key, raw) => (key, Record.ofRaw modified raw)) := by
  induction h generalizing raws with
  | nil => cases htell; exact .nil
  | cons hsays _ ih =>
    cases htell with
    | cons htells htell =>
      obtain ⟨text, hrecord, hparse⟩ := ofRaw_of_says hsays.2 htells.2
      refine .cons ⟨htells.1.trans hsays.1.symm, ?_⟩ (ih htell)
      dsimp only
      rw [hrecord]
      exact ⟨hparse, rfl⟩

/-- **A well-formed file** is read as what it says, at every key. -/
theorem Holds.rel_lookup {file : File} {entries : List (String × Json × Stamp)} (h : Holds file entries)
    (key : String) : Option.Rel Means (entries.lookup key) ((Records.ofFile file).lookup key) := by
  obtain ⟨hnodup, ms, hparse, hsays⟩ := h
  obtain ⟨raws, hraws, htell⟩ := Json.rawMembers_of_parse hparse
  have hmeans := forall₂_means htell hsays
  have hkeys := Keyed.keys_eq_of_forall₂ hmeans
  simp only [Records.ofFile, hraws]
  rw [Keyed.lookup_ofList (by rw [hkeys]; exact hnodup)]
  exact Keyed.rel_lookup hmeans key

/-! ## Writing -/

theorem spellable_toJson {r : Record} (h : (Json.parse r.payload).isSome) : r.toJson.Spellable := by
  obtain ⟨j, hj⟩ := Option.isSome_iff_exists.1 h
  refine Json.spellable_object fun m hm => ?_
  rcases List.mem_cons.1 hm with rfl | hm
  · refine ⟨Json.isBody_escape _, ?_⟩
    rw [Json.member, hj]
    exact Json.spellable_of_parse hj
  · rw [List.mem_singleton.1 hm]
    exact ⟨Json.isBody_escape _, Json.spellable_string (Json.isBody_escape _)⟩

theorem Records.Sound.spellable {rs : Records} (h : rs.Sound) : rs.toJson.Spellable := by
  refine Json.spellable_object fun m hm => ?_
  obtain ⟨kr, hkr, rfl⟩ := List.mem_map.1 hm
  exact ⟨Json.isBody_escape _, spellable_toJson (h.records kr hkr).document⟩

/-- What records a text is written for, and what the text is. -/
theorem toText_eq_ok {rs : Records} {text : String} (h : rs.toText = .ok text) :
    (∀ kr ∈ rs, kr.2.fetchedAt.unwritable? = none) ∧ text = Json.indented rs.toJson ∧
      Json.isValid text = true := by
  unfold Records.toText at h
  split at h
  · cases h
  · rename_i hnone
    dsimp only at h
    split at h
    · rename_i hvalid
      cases h
      exact ⟨fun kr hkr => List.findSome?_eq_none_iff.1 hnone kr hkr, rfl, hvalid⟩
    · cases h

/-- The text of a time has nothing to escape. -/
theorem escape_text {s : Stamp} (h : s.unwritable? = none) : Json.escape s.text = s.text := by
  have hplain {c : Char} (hc : Stamp.IsPlain c) : Json.escapeChar c = [c] := by
    rcases hc with hc | hc
    · have hrange : 48 ≤ c.toNat ∧ c.toNat ≤ 57 := Char.isDigit_iff_toNat.1 hc
      have hall : ∀ n ≤ 57, 48 ≤ n → Json.escapeChar (Char.ofNat n) = [Char.ofNat n] := by decide
      have hdigit := hall c.toNat hrange.2 hrange.1
      rwa [Char.ofNat_toNat] at hdigit
    · have hall : ∀ c ∈ ['-', ':', 'T', 'Z', '+', '.'], Json.escapeChar c = [c] :=
        List.all_iff_forall_prop.1 (by decide)
      exact hall c hc
  have hyear : 0 ≤ s.date.year := by
    refine Int.not_lt.1 fun hneg => ?_
    rw [Stamp.unwritable?, if_pos (.inl hneg)] at h
    cases h
  exact Json.escape_eq_self fun c hc => hplain (Stamp.isPlain_text hyear c hc)

/-- A name is read as it was, whatever it is. -/
theorem unescape_member (name : String) : Json.unescape (Json.escapeMarkup (Json.escape name)) = name := by
  rw [Json.escapeMarkup_escape, Json.unescape_escape]

/-- The same time and the same document. -/
structure Alike (before after : Record) : Prop where
  fetchedAt : after.fetchedAt = before.fetchedAt
  payload : SameDocument before.payload after.payload

/-- The same key with the same time and the same document. -/
structure Kept (before after : String × Record) : Prop where
  key : after.1 = before.1
  record : Alike before.2 after.2

/-- A record is read from its written form with the same time and the same document. -/
theorem alike_ofRaw {r : Record} (h : r.Sound) (hwritable : r.fetchedAt.unwritable? = none)
    {raw : String} (hraw : Spells (maxDepth - 1) (.value r.toJson.markupSafe) raw.toList) (modified : Stamp) :
    Alike r (Record.ofRaw modified raw) := by
  obtain ⟨j, hj⟩ := Option.isSome_iff_exists.1 h.document
  have hobject : r.toJson.markupSafe =
      .object [(Json.escapeMarkup (Json.escape "payload"), j.markupSafe),
        (Json.escapeMarkup (Json.escape "fetched_at"),
          .string (Json.escapeMarkup (Json.escape r.fetchedAt.text)))] := by
    rw [Record.toJson, hj]
    rfl
  rw [hobject] at hraw
  have hsays : Says modified (.object [(Json.escapeMarkup (Json.escape "payload"), j.markupSafe),
      (Json.escapeMarkup (Json.escape "fetched_at"), .string r.fetchedAt.text)]) j.markupSafe r.fetchedAt := by
    refine .record ⟨_, List.mem_cons_self, ?_⟩ ?_ ⟨_, List.mem_cons_of_mem _ List.mem_cons_self, ?_⟩ ?_
    · rw [unescape_member]
      decide
    · simp [unescape_member, isField_payload_of_time (by decide : isField "fetched_at" "fetched_at" = true)]
    · rw [unescape_member]
      decide
    · have hpayload : isField "fetched_at" "payload" = false := by decide
      simp [unescape_member, hpayload, Stamp.parse?_text hwritable h.whole]
  rw [Json.escapeMarkup_escape r.fetchedAt.text, escape_text hwritable] at hraw
  obtain ⟨text, hrecord, hparse⟩ := ofRaw_of_says hsays hraw
  rw [hrecord]
  exact ⟨rfl, Json.sameDocument_of_markupSafe hj hparse⟩

theorem sorted_of_keys_eq {rs rs' : Records} (h : Keyed.Sorted rs) (heq : rs'.map (·.1) = rs.map (·.1)) :
    Keyed.Sorted rs' := by
  have hkeys : (rs.map (·.1)).Pairwise (· < ·) := List.pairwise_map.2 h
  rw [← heq] at hkeys
  exact List.pairwise_map.1 hkeys

/-- Member by member, the texts that tell written records are read as these records. -/
theorem kept_of_tells {rs : Records} {raws : List (String × String)}
    (h : List.Forall₂ (fun kr => Tells (Json.escapeMarkup (Json.escape kr.1), kr.2.toJson.markupSafe)) rs raws)
    (hsound : ∀ kr ∈ rs, kr.2.Sound) (hwritable : ∀ kr ∈ rs, kr.2.fetchedAt.unwritable? = none)
    (modified : Stamp) :
    List.Forall₂ Kept rs (raws.map fun (key, raw) => (key, Record.ofRaw modified raw)) := by
  induction h with
  | nil => exact .nil
  | @cons kr raw rs raws htell _ ih =>
    obtain ⟨key, r⟩ := kr
    obtain ⟨name, text⟩ := raw
    obtain ⟨hname, hspells⟩ := htell
    rw [unescape_member] at hname
    dsimp only at hname hspells
    subst hname
    have hhead := alike_ofRaw (hsound _ List.mem_cons_self) (hwritable _ List.mem_cons_self) hspells modified
    have htail := ih (fun kr hkr => hsound kr (List.mem_cons_of_mem _ hkr))
      (fun kr hkr => hwritable kr (List.mem_cons_of_mem _ hkr))
    exact .cons ⟨rfl, hhead⟩ htail

/-- **A file that was written** holds the same keys, times and documents, whenever it was written. -/
theorem ofFile_toText {rs : Records} (h : rs.Sound) {text : String} (htext : rs.toText = .ok text)
    (modified : Time.Instant) : List.Forall₂ Kept rs (Records.ofFile ⟨text, modified⟩) := by
  obtain ⟨hwritable, rfl, hvalid⟩ := toText_eq_ok htext
  have hparse := Json.parse_indented h.spellable hvalid
  have hobject : rs.toJson.markupSafe = .object (rs.map fun kr =>
      (Json.escapeMarkup (Json.escape kr.1), kr.2.toJson.markupSafe)) := by
    rw [Records.toJson, Json.markupSafe, Json.mapTexts, Json.mapMembers_eq_map, List.map_map]
    rfl
  rw [hobject] at hparse
  obtain ⟨raws, hraws, htell⟩ := Json.rawMembers_of_parse hparse
  rw [List.forall₂_map_left_iff] at htell
  have hkept := kept_of_tells htell h.records hwritable ⟨modified, 0⟩
  have hsorted := sorted_of_keys_eq h.sorted (Keyed.keys_eq_of_forall₂ (hkept.imp fun _ _ h => ⟨h.key, h.record⟩))
  simp only [Records.ofFile, hraws]
  rw [Keyed.ofList_of_sorted hsorted]
  exact hkept

/-! ## Looking records up -/

theorem mem_of_lookup {rs : Records} {key : String} {r : Record} (h : rs.lookup key = some r) :
    (key, r) ∈ rs := by
  obtain ⟨front, back, rfl, -⟩ := List.lookup_eq_some_iff.1 h
  simp

/-- What is kept is found at the same keys. -/
theorem rel_lookup {before after : Records} (h : List.Forall₂ Kept before after) (key : String) :
    Option.Rel Alike (before.lookup key) (after.lookup key) :=
  Keyed.rel_lookup (h.imp fun _ _ hkept => ⟨hkept.key, hkept.record⟩) key

/-- Sound records are like themselves. -/
theorem Records.Sound.rel_lookup_self {rs : Records} (h : rs.Sound) (key : String) :
    Option.Rel Alike (rs.lookup key) (rs.lookup key) := by
  cases hlookup : rs.lookup key with
  | none => exact .none
  | some r =>
    obtain ⟨j, hj⟩ := Option.isSome_iff_exists.1 (h.records (key, r) (mem_of_lookup hlookup)).document
    exact .some ⟨rfl, j, j, hj, hj, rfl⟩

end Triage.Cache
