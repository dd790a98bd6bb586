import Triage.Finding.Document
import Triage.Json.Decode
import Triage.Proofs.Json.Members
import Triage.Proofs.Listing
import Triage.Proofs.Number.Finite

/-!
# Findings that can be written

A finding has a written form exactly if its numbers are finite, and a list of findings exactly if each of them has
one: a single number that is not finite leaves the whole list unwritten. The numbers of a document that was read are
finite (`Forecast.finite_of_decodeText`), since there is no literal for one that is not.
-/
namespace Triage

open Number (SpellsNaN isFinite)

/-! ## Numbers of documents -/

namespace Json

theorem toLower_of_isDigit {c : Char} (h : isDigit c = true) : c.toLower = c := by
  have hle : c ≤ '9' := by
    unfold isDigit Number.digitValue? at h
    split at h
    · rename_i hc
      exact hc.2
    · cases h
  have hle : c.val ≤ 57 := hle
  unfold Char.toLower
  split
  · rename_i hc
    have : (65 : UInt32) ≤ c.val := hc.1
    exact absurd (UInt32.le_trans this hle) (by decide)
  · rfl

theorem IsMagnitude.head {cs : List Char} (h : IsMagnitude cs) : ∃ c tail, cs = c :: tail ∧ isDigit c = true := by
  obtain ⟨whole, fraction, power, hwhole, -, -, rfl⟩ := h
  rcases hwhole with rfl | ⟨hds, -⟩
  · exact ⟨'0', _, rfl, by decide⟩
  · obtain ⟨c, tail, rfl, hc⟩ := hds.head?
    exact ⟨c, _, rfl, hc⟩

/-- A magnitude spells no word. -/
theorem IsMagnitude.map_toLower_ne {cs : List Char} (h : IsMagnitude cs) (c : Char) (word : List Char)
    (hc : isDigit c = false) : cs.map Char.toLower ≠ c :: word := by
  obtain ⟨d, tail, rfl, hd⟩ := h.head
  rw [List.map_cons, toLower_of_isDigit hd]
  intro heq
  rw [(List.cons.inj heq).1, hc] at hd
  cases hd

theorem IsMagnitude.readSign {cs : List Char} (h : IsMagnitude cs) : Number.readSign cs = (false, cs) := by
  obtain ⟨d, tail, rfl, hd⟩ := h.head
  unfold Number.readSign
  split
  · rename_i heq
    rw [(List.cons.inj heq).1] at hd
    exact absurd hd (by decide)
  · rename_i heq
    rw [(List.cons.inj heq).1] at hd
    exact absurd hd (by decide)
  · rfl

/-- What the literal of a number is read as is finite. -/
theorem isFinite_of_isNumber {literal : String} (h : IsNumber literal.toList) {x : Float}
    (hx : Number.readFloat? literal = some x) : isFinite x = true := by
  have hnan : ¬ SpellsNaN literal := by
    intro hnan
    rcases h with hm | ⟨m, -, hm⟩
    · exact hm.map_toLower_ne 'n' ['a', 'n'] (by decide) hnan
    · rw [SpellsNaN, hm] at hnan
      exact absurd (List.cons.inj hnan).1 (by decide)
  obtain ⟨m, hm, hsign⟩ : ∃ m, IsMagnitude m ∧ (Number.readSign literal.toList).2 = m := by
    rcases h with hm | ⟨m, hm, heq⟩
    · exact ⟨_, hm, by rw [hm.readSign]⟩
    · exact ⟨m, hm, by rw [heq]; rfl⟩
  rcases Number.readFloat?_cases hx with ⟨hs, -⟩ | ⟨-, -, hfinite | hword⟩
  · exact absurd hs hnan
  · exact hfinite
  · rw [hsign] at hword
    rcases List.mem_cons.1 hword with hword | hword
    · exact absurd hword (hm.map_toLower_ne 'i' ['n', 'f'] (by decide))
    · exact absurd (List.mem_singleton.1 hword) (hm.map_toLower_ne 'i' "nfinity".toList (by decide))
/-- The members of an object that can be spelled can be spelled themselves. -/
theorem Spells.of_mem_members {d : Nat} {ms : List (String × Json)} {cs : List Char}
    (h : Spells d (.members ms) cs) : ∀ m ∈ ms, ∃ cs, Spells d (.value m.2) cs := by
  induction ms generalizing cs with
  | nil => exact fun m hm => absurd hm List.not_mem_nil
  | cons m ms ih =>
    intro m' hm'
    cases h with
    | lastMember hlabel hgap hvalue hws => exact ⟨_, by rwa [List.mem_singleton.1 hm']⟩
    | member hlabel hgap hvalue hws hws' hrest =>
      rcases List.mem_cons.1 hm' with rfl | hm'
      · exact ⟨_, hvalue⟩
      · exact ih hrest m' hm'

/-- If the document is a number, it has the literal of one. -/
def Proper (j : Json) : Prop := ∀ literal, j = .number literal → IsNumber literal.toList

/-- The members of an object that was read are proper. -/
theorem proper_of_parse {s : String} {ms : List (String × Json)} (h : parse s = some (.object ms)) :
    ∀ m ∈ ms, Proper m.2 := by
  obtain ⟨ws, text, ws', -, -, hspells, -⟩ := parse_eq_some_iff.1 h
  rcases hspells.of_object with ⟨rfl, -⟩ | ⟨-, cs, -, hmembers, -⟩
  · exact fun m hm => absurd hm List.not_mem_nil
  · intro m hm literal hliteral
    obtain ⟨cs, hvalue⟩ := hmembers.of_mem_members m hm
    rw [hliteral] at hvalue
    cases hvalue with
    | scalar hscalar =>
      cases hscalar with
      | number hnumber => rwa [String.toList_ofList]

namespace Decoder

/-- What the reading of each field keeps is kept by the reading of all members. -/
theorem members_invariant {α : Type} {P : α → Prop} {fields : List (FieldRule α)}
    (hfields : ∀ f ∈ fields, ∀ r j r', P r → Proper j → f.read r j = some r' → P r') {ms : List (String × Json)}
    (hms : ∀ m ∈ ms, Proper m.2) {r r' : α} (hr : P r) (h : members fields r ms = some r') : P r' := by
  induction ms generalizing r with
  | nil =>
    cases h
    exact hr
  | cons m ms ih =>
    obtain ⟨name, j⟩ := m
    have hrest : ∀ m ∈ ms, Proper m.2 := fun m hm => hms m (List.mem_cons_of_mem _ hm)
    unfold members at h
    split at h
    · exact ih hrest hr h
    · rename_i f hf
      obtain ⟨r₁, hread, hr₁⟩ := Option.bind_eq_some_iff.1 h
      refine ih hrest (hfields f ?_ r j r₁ hr (hms _ List.mem_cons_self) hread) hr₁
      unfold fieldNamed? at hf
      split at hf
      · cases hf
        exact List.mem_of_find?_eq_some ‹_›
      · exact List.mem_of_find?_eq_some hf

/-- A number is read over a finite one to a finite one. -/
theorem isFinite_of_float {old x : Float} {j : Json} (hold : isFinite old = true)
    (hj : Proper j) (h : float old j = some x) : isFinite x = true := by
  cases j with
  | null =>
    cases h
    exact hold
  | number literal => exact isFinite_of_isNumber (hj literal rfl) h
  | _ => cases h

end Decoder

end Json

/-! ## Forecasts that can be written -/

namespace Forecast

/-- Both numbers are finite. -/
def Finite (f : Forecast) : Prop := isFinite f.probability = true ∧ isFinite f.percentile = true

/-- The forecast is one for the vulnerability, with both numbers in range. -/
structure Sound (cve : String) (f : Forecast) : Prop where
  cve : f.cve = cve
  probability : 0 ≤ f.probability ∧ f.probability ≤ 1
  percentile : 0 ≤ f.percentile ∧ f.percentile ≤ 1

theorem Sound.finite {cve : String} {f : Forecast} (h : f.Sound cve) : f.Finite :=
  ⟨Number.isFinite_of_unit h.probability.1 h.probability.2, Number.isFinite_of_unit h.percentile.1 h.percentile.2⟩

theorem sound_blank (cve error : String) : Sound cve { cve, error } := by
  have hzero : (0 : Float) ≤ 0 ∧ (0 : Float) ≤ 1 := by decide +kernel
  exact ⟨rfl, hzero, hzero⟩

/-- **A forecast can be written** exactly if both of its numbers are finite. -/
theorem isSome_toJson?_iff (f : Forecast) : f.toJson?.isSome = true ↔ f.Finite := by
  simp only [toJson?, Json.ofFloat?, Finite]
  cases isFinite f.probability <;> cases isFinite f.percentile <;> simp

/-- **What is read from a document is finite**, whatever the document is. -/
theorem finite_of_decodeText {s : String} {f : Forecast} (h : Json.decodeText decoder {} s = .ok f) : f.Finite := by
  have hblank : Finite {} := (sound_blank "" "").finite
  unfold Json.decodeText at h
  split at h
  · cases h
  · rename_i j hparse
    split at h
    · cases h
    · rename_i f' hf
      cases h
      cases j with
      | null =>
        cases hf
        exact hblank
      | object ms =>
        refine Json.Decoder.members_invariant ?_ (Json.proper_of_parse hparse) hblank hf
        intro rule hrule r j r' hr hj hread
        simp only [List.mem_cons, List.not_mem_nil, or_false] at hrule
        rcases hrule with rfl | rfl | rfl | rfl | rfl | rfl <;>
          obtain ⟨v, hv, rfl⟩ := Option.map_eq_some_iff.1 hread
        · exact hr
        · exact ⟨Json.Decoder.isFinite_of_float hr.1 hj hv, hr.2⟩
        · exact ⟨hr.1, Json.Decoder.isFinite_of_float hr.2 hj hv⟩
        · exact hr
        · exact hr
        · exact hr
      | _ => cases hf

end Forecast

/-! ## Findings -/

namespace Finding

/-- The score and the rounded risk of a finding are finite. -/
def Measured (f : Finding) : Prop :=
  (∀ x ∈ f.cvssScore, isFinite x = true) ∧ isFinite (Number.roundCents f.riskScore) = true

/-- **A finding can be written** exactly if all of its numbers are finite. -/
theorem isSome_toJson?_iff (f : Finding) :
    f.toJson?.isSome = true ↔ f.Measured ∧ ∀ s ∈ f.forecast, s.toJson?.isSome = true := by
  have hscore : (Json.floatMember? "cvss_score" f.cvssScore).isSome = true ↔
      ∀ x ∈ f.cvssScore, isFinite x = true := by
    cases f.cvssScore with
    | none => simp [Json.floatMember?]
    | some x => cases hx : isFinite x <;> simp [Json.floatMember?, Json.ofFloat?, hx]
  have hforecast : (Json.forecastMember? f.forecast).isSome = true ↔ ∀ s ∈ f.forecast, s.toJson?.isSome = true := by
    cases f.forecast <;> simp [Json.forecastMember?]
  have hrisk : (Json.ofFloat? (Number.roundCents f.riskScore)).isSome = true ↔
      isFinite (Number.roundCents f.riskScore) = true := by
    cases hx : isFinite (Number.roundCents f.riskScore) <;> simp [Json.ofFloat?, hx]
  rw [Measured, ← hscore, ← hforecast, ← hrisk, toJson?]
  cases Json.floatMember? "cvss_score" f.cvssScore <;> cases Json.forecastMember? f.forecast <;>
    cases Json.ofFloat? (Number.roundCents f.riskScore) <;> simp

/-- **A list of findings can be written** exactly if each of them can. -/
theorem isSome_listToJson?_iff (fs : List Finding) :
    (listToJson? fs).isSome = true ↔ ∀ f ∈ fs, f.toJson?.isSome = true := by
  rw [listToJson?, Option.isSome_map, Listing.isSome_mapM_iff]

end Finding

end Triage
