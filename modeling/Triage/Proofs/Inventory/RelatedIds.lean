import Triage.Inventory.Document
import Triage.Proofs.Cve.Spelling
import Triage.Proofs.Text.Pieces

/-!
# The identifier of a matcher's entry

An entry names a vulnerability and related ones, and the identifier of its finding should be the first one among them
(`namedCve?`). The finding is made before any text is validated, though: the text that counts is the first one that
opens with `CVE-` (`Opens`), without a look at what follows and with nothing allowed before it. So an entry that does
name an identifier may lose it (`Missed`), or give it up for another one (`Displaced`). Main statement:
`entry_resolved_by_opening`.
-/
namespace Triage.Inventory

open Text Cve

/-! ## Opening texts -/

/-- The text begins with `CVE-`, in letters of either case. -/
def Opens (s : String) : Prop := "CVE-".toList <+: s.toUpper.toList

instance (s : String) : Decidable (Opens s) := inferInstanceAs (Decidable ("CVE-".toList <+: s.toUpper.toList))

theorem looksLikeCve_iff {s : String} : looksLikeCve s = true ↔ Opens s := by
  have hplain : ("CVE-".toList.all isPlain) = true := by decide +kernel
  have hlist : (upper s).toList = s.toList.map upperChar := String.toList_ofList
  rw [looksLikeCve, startsWith_iff, hlist, Opens, String.toUpper, String.toList_map, List.prefix_iff_eq_take,
    List.prefix_iff_eq_take, ← List.map_take, ← List.map_take, eq_comm,
    map_upperChar_eq_iff (List.all_eq_true.1 hplain), eq_comm]

/-- **An identifier opens like one** exactly if there is no white space before it. -/
theorem opens_iff_of_spells {s : String} (h : Spells (trim s)) :
    Opens s ↔ ∀ c ∈ s.toList.head?, isBlank c = false := by
  obtain ⟨front, back, hs, hblank⟩ := exists_trimChars s.toList
  rw [← toList_trim] at hs
  constructor
  · rintro ⟨rest, hrest⟩ c hc
    rw [String.toUpper, String.toList_map] at hrest
    have hC : c.toUpper = 'C' := by
      have hhead := congrArg List.head? hrest
      rw [List.head?_map, Option.mem_def.1 hc] at hhead
      exact (Option.some.inj hhead).symm
    have hall : ∀ n < 0x80, (Char.ofNat n).toUpper = 'C' → isBlank (Char.ofNat n) = false := by decide +kernel
    by_cases hascii : c.toNat < 0x80
    · simpa only [Char.ofNat_toNat, hC, true_implies] using hall c.toNat hascii
    · rw [← toUpper_of_not_ascii (Nat.not_lt.1 hascii), hC]
      rfl
  · intro hhead
    cases front with
    | cons c front =>
      have hc : isBlank c = true := hblank c List.mem_cons_self
      rw [hhead c (by rw [hs]; rfl)] at hc
      cases hc
    | nil =>
      obtain ⟨year, number, hform, -⟩ := h
      refine ⟨year ++ '-' :: number ++ back.map Char.toUpper, ?_⟩
      rw [String.toUpper, String.toList_map, hs, List.nil_append, List.map_append, ← String.toList_map,
        ← String.toUpper, hform]
      simp

/-- `t` is the first one of some texts that opens like an identifier. -/
def FirstOpening (ids : List String) (t : String) : Prop :=
  ∃ front back, ids = front ++ t :: back ∧ Opens t ∧ ∀ u ∈ front, ¬ Opens u

/-- `s` is the first one of some texts that spells an identifier. -/
def FirstSpelled (ids : List String) (s : String) : Prop :=
  ∃ front back, ids = front ++ s :: back ∧ Spells (trim s) ∧ ∀ u ∈ front, ¬ Spells (trim u)

theorem find?_looksLikeCve_iff {ids : List String} {t : String} :
    ids.find? looksLikeCve = some t ↔ FirstOpening ids t := by
  rw [List.find?_eq_some_iff_append, looksLikeCve_iff]
  constructor
  · rintro ⟨ht, front, back, hids, hfront⟩
    exact ⟨front, back, hids, ht, fun u hu h => by simpa [looksLikeCve_iff.2 h] using hfront u hu⟩
  · rintro ⟨front, back, hids, ht, hfront⟩
    exact ⟨ht, front, back, hids, fun u hu => by simpa using mt looksLikeCve_iff.1 (hfront u hu)⟩

theorem findSome?_canonical?_iff {ids : List String} {c : String} :
    ids.findSome? canonical? = some c ↔ ∃ s, FirstSpelled ids s ∧ c = (trim s).toUpper := by
  simp only [List.findSome?_eq_some_iff, canonical?_eq_some_iff, canonical?_eq_none_iff]
  constructor
  · rintro ⟨front, s, back, hids, ⟨hs, hc⟩, hfront⟩
    exact ⟨s, ⟨front, back, hids, hs, hfront⟩, hc⟩
  · rintro ⟨s, ⟨front, back, hids, hs, hfront⟩, hc⟩
    exact ⟨front, s, back, hids, ⟨hs, hc⟩, hfront⟩

/-! ## Entries -/

namespace ScannerMatch

/-- The texts of an entry that may be identifiers, in the order in which they count. -/
def ids (m : ScannerMatch) : List String := m.id :: m.relatedIds

/-- The identifier that an entry names: that of its vulnerability, or else of the first related one that has one. -/
def namedCve? (m : ScannerMatch) : Option String := m.ids.findSome? canonical?

/-- No text that counts is an identifier, but a related one is. -/
structure Missed (m : ScannerMatch) : Prop where
  opening : ∀ t, FirstOpening m.ids t → ¬ Spells (trim t)
  own : ¬ Spells (trim m.id)
  related : ∃ s ∈ m.relatedIds, Spells (trim s)

/-- The text that counts is another identifier than the first one. -/
def Displaced (m : ScannerMatch) : Prop :=
  ∃ s t, FirstSpelled m.ids s ∧ FirstOpening m.ids t ∧ Spells (trim t) ∧ (trim s).toUpper ≠ (trim t).toUpper

variable {m : ScannerMatch}

/-- **What is resolved** for an entry: the first text that opens like an identifier, or else its own. -/
theorem resolveCve?_toFinding (m : ScannerMatch) :
    m.toFinding.resolveCve? = ((m.ids.find? looksLikeCve).bind canonical?).or (canonical? m.id) := by
  have hempty : canonical? "" = none := by decide +kernel
  have hown : (m.toFinding.id :: m.toFinding.vulnerabilityId.toList).findSome? canonical? = canonical? m.id := by
    by_cases hid : m.id = ""
    · simp [toFinding, hid, hempty]
    · cases hc : canonical? m.id <;> simp [toFinding, hid, hc]
  have hcve : canonical? m.toFinding.cve =
      if looksLikeCve m.id then none else (m.relatedIds.find? looksLikeCve).bind canonical? := by
    simp only [toFinding, relatedCve]
    split
    · exact hempty
    · cases m.relatedIds.find? looksLikeCve with
      | none => rw [Option.getD_none, hempty, Option.bind_none]
      | some t => rw [Option.getD_some, Option.bind_some]
  have hresolve (f : Finding) : f.resolveCve? =
      (canonical? f.cve).or ((f.id :: f.vulnerabilityId.toList).findSome? canonical?) := by
    rw [Finding.resolveCve?, Finding.identifiers, List.findSome?_cons]
    cases canonical? f.cve with
    | none => rw [Option.none_or]
    | some c => rw [Option.some_or]
  rw [hresolve, hown, hcve, ids, List.find?_cons]
  split
  · rename_i hlooks
    simp [hlooks]
  · rename_i hlooks
    simp [hlooks]

theorem resolveCve?_of_opening {t : String} (ht : FirstOpening m.ids t) (hspells : Spells (trim t)) :
    m.toFinding.resolveCve? = some (trim t).toUpper := by
  rw [resolveCve?_toFinding, find?_looksLikeCve_iff.2 ht, Option.bind_some,
    canonical?_eq_some_iff.2 ⟨hspells, rfl⟩, Option.some_or]

theorem resolveCve?_of_no_opening (h : ∀ t, FirstOpening m.ids t → ¬ Spells (trim t)) :
    m.toFinding.resolveCve? = canonical? m.id := by
  have hnone : (m.ids.find? looksLikeCve).bind canonical? = none :=
    Option.bind_eq_none_iff.2 fun t ht => canonical?_eq_none_iff.2 (h t (find?_looksLikeCve_iff.1 ht))
  rw [resolveCve?_toFinding, hnone, Option.none_or]

/-- The own text of an entry is the first one that is an identifier, if it is one. -/
theorem namedCve?_of_own (h : Spells (trim m.id)) : m.namedCve? = canonical? m.id := by
  rw [namedCve?, ids, List.findSome?_cons, canonical?_eq_some_iff.2 ⟨h, rfl⟩]

theorem Missed.resolveCve? (h : m.Missed) : m.toFinding.resolveCve? = none :=
  (resolveCve?_of_no_opening h.opening).trans (canonical?_eq_none_iff.2 h.own)

theorem Missed.ne_namedCve? (h : m.Missed) : m.toFinding.resolveCve? ≠ m.namedCve? := by
  obtain ⟨s, hs, hspells⟩ := h.related
  rw [h.resolveCve?, namedCve?, ne_comm, ne_eq, List.findSome?_eq_none_iff]
  exact fun hnone => canonical?_eq_none_iff.1 (hnone s (List.mem_cons_of_mem _ hs)) hspells

theorem Displaced.ne_namedCve? (h : m.Displaced) : m.toFinding.resolveCve? ≠ m.namedCve? := by
  obtain ⟨s, t, hs, ht, hspells, hne⟩ := h
  rw [resolveCve?_of_opening ht hspells, namedCve?, findSome?_canonical?_iff.2 ⟨s, hs, rfl⟩]
  exact fun heq => hne (Option.some.inj heq).symm

/-- **Only these two** can go wrong. -/
theorem resolveCve?_eq_namedCve? (hmissed : ¬ m.Missed) (hdisplaced : ¬ m.Displaced) :
    m.toFinding.resolveCve? = m.namedCve? := by
  by_cases hopening : ∃ t, FirstOpening m.ids t ∧ Spells (trim t)
  · -- What counts is an identifier, so there is a first one, and it is the same.
    obtain ⟨t, ht, hspells⟩ := hopening
    rw [resolveCve?_of_opening ht hspells]
    cases hnamed : m.namedCve? with
    | none =>
      obtain ⟨front, back, hids, -⟩ := ht
      have hmem : t ∈ m.ids := hids ▸ List.mem_append_right _ List.mem_cons_self
      exact absurd hspells (canonical?_eq_none_iff.1 (List.findSome?_eq_none_iff.1 hnamed t hmem))
    | some c =>
      obtain ⟨s, hs, rfl⟩ := findSome?_canonical?_iff.1 hnamed
      by_contra hne
      exact hdisplaced ⟨s, t, hs, ht, hspells, fun heq => hne (congrArg some heq.symm)⟩
  · have hopening : ∀ t, FirstOpening m.ids t → ¬ Spells (trim t) := fun t ht hs => hopening ⟨t, ht, hs⟩
    rw [resolveCve?_of_no_opening hopening]
    by_cases hown : Spells (trim m.id)
    · rw [namedCve?_of_own hown]
    · have hrelated : ∀ s ∈ m.relatedIds, ¬ Spells (trim s) := fun s hs h => hmissed ⟨hopening, hown, s, hs, h⟩
      have hall : ∀ s ∈ m.ids, canonical? s = none :=
        List.forall_mem_cons.2 ⟨canonical?_eq_none_iff.2 hown, fun s hs => canonical?_eq_none_iff.2 (hrelated s hs)⟩
      rw [hall m.id List.mem_cons_self, namedCve?, List.findSome?_eq_none_iff.2 hall]

/-- An entry in which no identifier has white space before it, and nothing else opens like one. -/
def Plain (m : ScannerMatch) : Prop :=
  ∀ s ∈ m.ids, (Spells (trim s) → ∀ c ∈ s.toList.head?, isBlank c = false) ∧ (Opens s → Spells (trim s))

theorem Plain.opens_iff (h : m.Plain) {s : String} (hs : s ∈ m.ids) : Opens s ↔ Spells (trim s) :=
  ⟨(h s hs).2, fun hspells => (opens_iff_of_spells hspells).2 ((h s hs).1 hspells)⟩

theorem Plain.firstOpening (h : m.Plain) {s : String} (hs : FirstSpelled m.ids s) : FirstOpening m.ids s := by
  obtain ⟨front, back, hids, hspells, hfront⟩ := hs
  have hmem : ∀ u ∈ front ++ s :: back, u ∈ m.ids := fun u hu => hids ▸ hu
  refine ⟨front, back, hids, (h.opens_iff (hmem s (by simp))).2 hspells, fun u hu hopens => hfront u hu ?_⟩
  exact (h.opens_iff (hmem u (List.mem_append_left _ hu))).1 hopens

/-- **Nothing goes wrong in a plain entry.** -/
theorem Plain.not_missed (h : m.Plain) : ¬ m.Missed ∧ ¬ m.Displaced := by
  constructor
  · rintro ⟨hopening, hown, s, hs, hspells⟩
    have hsome : m.namedCve? ≠ none := fun hnone =>
      canonical?_eq_none_iff.1 (List.findSome?_eq_none_iff.1 hnone s (List.mem_cons_of_mem _ hs)) hspells
    obtain ⟨c, hc⟩ := Option.ne_none_iff_exists'.1 hsome
    obtain ⟨t, ht, -⟩ := findSome?_canonical?_iff.1 hc
    have hopens := h.firstOpening ht
    obtain ⟨-, -, -, hspells, -⟩ := ht
    exact hopening t hopens hspells
  · rintro ⟨s, t, hs, ht, -, hne⟩
    have hsame : some s = some t :=
      (find?_looksLikeCve_iff.2 (h.firstOpening hs)).symm.trans (find?_looksLikeCve_iff.2 ht)
    exact hne (by rw [Option.some.inj hsame])

/-- **The identifier of an entry is resolved by how its texts open.** Whatever texts an entry has:

* the identifier that is resolved is the one that the entry names, exactly if it is neither missed nor displaced;
* if it is missed, nothing is resolved;
* what is resolved is an identifier that a text of the entry spells;
* nothing goes wrong if no identifier has white space before it and nothing else opens like one. -/
theorem entry_resolved_by_opening (m : ScannerMatch) :
    (m.toFinding.resolveCve? = m.namedCve? ↔ ¬ m.Missed ∧ ¬ m.Displaced) ∧
    (m.Missed → m.toFinding.resolveCve? = none) ∧
    (∀ c, m.toFinding.resolveCve? = some c → ∃ s ∈ m.ids, Spells (trim s) ∧ c = (trim s).toUpper) ∧
    (m.Plain → m.toFinding.resolveCve? = m.namedCve?) := by
  refine ⟨⟨fun heq => ?_, fun h => resolveCve?_eq_namedCve? h.1 h.2⟩, Missed.resolveCve?, fun c hc => ?_, fun h => ?_⟩
  · exact ⟨fun hmissed => hmissed.ne_namedCve? heq, fun hdisplaced => hdisplaced.ne_namedCve? heq⟩
  · rw [resolveCve?_toFinding, Option.or_eq_some_iff, Option.bind_eq_some_iff] at hc
    rcases hc with ⟨t, ht, hc⟩ | ⟨-, hc⟩
    · exact ⟨t, List.mem_of_find?_eq_some ht, canonical?_eq_some_iff.1 hc⟩
    · exact ⟨m.id, List.mem_cons_self, canonical?_eq_some_iff.1 hc⟩
  · exact resolveCve?_eq_namedCve? h.not_missed.1 h.not_missed.2

/-- An entry for an advisory that is related to two identifiers. -/
def plainEntry : ScannerMatch where
  id := "GHSA-jfh8-c2jp-5v3q"
  relatedIds := ["RHSA-1", "cve-2021-44228 ", "CVE-2023-4863"]

theorem entry_resolved_by_opening_plain :
    plainEntry.Plain ∧ plainEntry.toFinding.resolveCve? = plainEntry.namedCve? ∧
      plainEntry.namedCve? = some "CVE-2021-44228" := by
  have hplain : plainEntry.Plain := by
    intro s hs
    simp only [ids, plainEntry, List.mem_cons, List.not_mem_nil, or_false] at hs
    rcases hs with rfl | rfl | rfl | rfl
    · exact ⟨fun h => absurd h (by decide +kernel), fun h => absurd h (by decide +kernel)⟩
    · exact ⟨fun h => absurd h (by decide +kernel), fun h => absurd h (by decide +kernel)⟩
    · exact ⟨fun h => (opens_iff_of_spells h).1 (by decide +kernel), fun _ => by decide +kernel⟩
    · exact ⟨fun h => (opens_iff_of_spells h).1 (by decide +kernel), fun _ => by decide +kernel⟩
  exact ⟨hplain, (entry_resolved_by_opening plainEntry).2.2.2 hplain, by decide +kernel⟩

/-- **An identifier is missed, and another one displaced.** The first entry is related to an identifier after a text
that only opens like one, and nothing is resolved. The second one has an identifier of its own after a space, and a
related one is resolved. -/
theorem identifier_missed_or_displaced :
    let missed : ScannerMatch := { id := "GHSA-jfh8-c2jp-5v3q", relatedIds := ["CVE-PENDING", "CVE-2021-44228"] }
    let displaced : ScannerMatch := { id := " CVE-2021-44228", relatedIds := ["CVE-2023-4863"] }
    missed.toFinding.resolveCve? = none ∧ missed.namedCve? = some "CVE-2021-44228" ∧
      displaced.toFinding.resolveCve? = some "CVE-2023-4863" ∧ displaced.namedCve? = some "CVE-2021-44228" := by
  decide +kernel

end ScannerMatch

end Triage.Inventory
