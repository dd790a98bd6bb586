import Mathlib
import Triage.Engine.Enrich
import Triage.Proofs.Text.Case

/-!
# Canonical identifiers

A canonical identifier is its own canonical form, so that resolving the identifier of a finding a
second time changes nothing.
-/
namespace Triage

namespace Text

/-- A character that neither trimming nor upper case changes. -/
def Settled (c : Char) : Prop := isBlank c = false ∧ upperChar c = c

theorem trimChars_of_settled {cs : List Char} (h : ∀ c ∈ cs, Settled c) : trimChars cs = cs :=
  trimChars_of_ends (fun c hc => (h c (List.mem_of_mem_head? hc)).1) fun c hc => (h c (List.mem_of_mem_getLast? hc)).1

theorem map_upperChar_of_settled {cs : List Char} (h : ∀ c ∈ cs, Settled c) : cs.map upperChar = cs := by
  calc cs.map upperChar = cs.map id := List.map_congr_left fun c hc => (h c hc).2
    _ = cs := List.map_id cs

end Text

namespace Cve

open Text

theorem range_of_isDigit {c : Char} (h : isDigit c = true) : 48 ≤ c.toNat ∧ c.toNat ≤ 57 := by
  simp only [isDigit, Number.digitValue?] at h
  split at h
  · rename_i hc; exact hc
  · cases h

theorem settled_of_isDigit {c : Char} (h : isDigit c = true) : Settled c := by
  have hrange := range_of_isDigit h
  constructor
  · simp only [isBlank]
    grind
  · have hsmall : c.toNat < 0x80 := by omega
    have hlow : ¬ (97 ≤ c.toNat ∧ c.toNat ≤ 122) := by omega
    rw [upperChar, if_pos hsmall, Char.toUpper, dif_neg]
    exact fun h => hlow h

/-- A canonical identifier has only four letters and signs besides digits. -/
theorem forall_mem_of_isCanonical {P : Char → Prop} {cs : List Char} (h : isCanonical cs = true)
    (hletters : P 'C' ∧ P 'V' ∧ P 'E' ∧ P '-') (hdigit : ∀ c, isDigit c = true → P c) : ∀ c ∈ cs, P c := by
  unfold isCanonical at h
  split at h
  · simp only [Bool.and_eq_true, List.all_eq_true] at h
    obtain ⟨⟨⟨⟨⟨ha, hb⟩, hc⟩, hd⟩, -⟩, hnumber⟩ := h
    obtain ⟨hC, hV, hE, hhyphen⟩ := hletters
    simp only [List.forall_mem_cons]
    exact ⟨hC, hV, hE, hhyphen, hdigit _ ha, hdigit _ hb, hdigit _ hc, hdigit _ hd, hhyphen,
      fun c hc => hdigit c (hnumber c hc)⟩
  · cases h

theorem settled_of_isCanonical {cs : List Char} (h : isCanonical cs = true) : ∀ c ∈ cs, Settled c := by
  refine forall_mem_of_isCanonical h ?_ fun _ => settled_of_isDigit
  simp only [Settled]
  decide

theorem normalize_of_isCanonical {s : String} (h : isCanonical s.toList = true) : normalize s = s := by
  have hs := settled_of_isCanonical h
  rw [normalize, upper, toList_trim, trimChars_of_settled hs, map_upperChar_of_settled hs,
    String.ofList_toList]

theorem canonical?_of_isCanonical {s : String} (h : isCanonical s.toList = true) :
    canonical? s = some s := by
  have hne : s ≠ "" := fun he => by rw [he] at h; cases h
  simp only [canonical?, validate, normalize_of_isCanonical h, if_neg hne, if_pos h]
  rfl

theorem isCanonical_of_validate {s c : String} (h : validate s = .ok c) : isCanonical c.toList = true := by
  simp only [validate] at h
  generalize normalize s = id at h
  split at h
  · cases h
  · split at h
    · rename_i hc
      cases h
      exact hc
    · cases h

/-- **The canonical form of an identifier is its own canonical form.** -/
theorem canonical?_canonical {s c : String} (h : canonical? s = some c) : canonical? c = some c := by
  apply canonical?_of_isCanonical
  unfold canonical? at h
  cases hv : validate s with
  | error e => rw [hv] at h; cases h
  | ok c' =>
    rw [hv] at h
    cases h
    exact isCanonical_of_validate hv

end Cve

namespace Engine

/-- A finding has an identifier after it was resolved exactly if it had one before. -/
theorem resolveCve?_prepare (f : Finding) : (prepare f).resolveCve? = f.resolveCve? := by
  unfold prepare
  split
  · rename_i cve h
    have hcanonical : Cve.canonical? cve = some cve := by
      obtain ⟨s, -, hs⟩ := List.exists_of_findSome?_eq_some h
      exact Cve.canonical?_canonical hs
    rw [h]
    simp [Finding.resolveCve?, Finding.identifiers, hcanonical]
  · unfold Finding.addWarning
    split <;> rfl

theorem prepare_of_resolved {f : Finding} {cve : String} (h : f.resolveCve? = some cve) :
    prepare f = { f with cve } := by
  rw [prepare, h]

theorem prepare_of_unresolved {f : Finding} (h : f.resolveCve? = none) :
    prepare f = f.addWarning unresolvedWarning := by
  rw [prepare, h]

end Engine

end Triage
