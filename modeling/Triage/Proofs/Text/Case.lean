import Mathlib.Data.List.Infix
import Triage.Text.Case

/-!
# Trimming and lower case

No letter that a run of lower case leads to is covered by a run itself, and none is a blank. So a text in
lower case without blanks around it stays as it is when it is trimmed and put in lower case again
(`lower_trim_lower_trim`).
-/
namespace Triage.Text

/-! ## Runs -/

namespace CaseRun

/-- The first and the last code point that a run leads to. -/
def images (r : CaseRun) : Nat × Nat :=
  ((Int.ofNat r.first + r.shift).toNat, (Int.ofNat r.last + r.shift).toNat)

/-- No code point that a run leads to is covered by another run: they are in different ranges, or both runs
have every second code point of a range and the one leads to those between the ones of the other. -/
def misses (r : CaseRun) (images : Nat × Nat) (other : CaseRun) : Bool :=
  Nat.blt images.2 other.first || Nat.blt other.last images.1 ||
    ((r.step == 2 || r.first == r.last) && other.step == 2 && (images.1 + other.first) % 2 == 1)

/-- The ranges of the blanks above the small letters. -/
def blanks : List CaseRun :=
  [ ⟨0x85, 0x85, 1, 0⟩, ⟨0xA0, 0xA0, 1, 0⟩, ⟨0x1680, 0x1680, 1, 0⟩, ⟨0x2000, 0x200A, 1, 0⟩,
    ⟨0x2028, 0x2029, 1, 0⟩, ⟨0x202F, 0x202F, 1, 0⟩, ⟨0x205F, 0x205F, 1, 0⟩, ⟨0x3000, 0x3000, 1, 0⟩ ]

variable {r other : CaseRun} {n : Nat}

theorem images_of_mem (h : r ∈ lowerRuns) :
    0x61 ≤ r.images.1 ∧ (r.images.2 < 0xD800 ∨ 0xDFFF < r.images.1 ∧ r.images.2 < 0x110000) := by
  have hall : ∀ r ∈ lowerRuns,
      0x61 ≤ r.images.1 ∧ (r.images.2 < 0xD800 ∨ 0xDFFF < r.images.1 ∧ r.images.2 < 0x110000) := by
    decide +kernel
  exact hall r h

theorem misses_of_mem (h : r ∈ lowerRuns) (hother : other ∈ blanks ++ lowerRuns) :
    r.misses r.images other = true := by
  have hall : (lowerRuns.all fun r => (blanks ++ lowerRuns).all (r.misses r.images)) = true := by
    decide +kernel
  exact List.all_eq_true.1 (List.all_eq_true.1 hall r h) other hother

theorem covers_iff : r.covers n = true ↔ r.first ≤ n ∧ n ≤ r.last ∧ (n - r.first) % r.step = 0 := by
  simp [covers, and_assoc]

/-- Where a run leads is between the first and the last code point that it leads to. -/
theorem image_mem_images (h : r.covers n = true) :
    r.images.1 ≤ (Int.ofNat n + r.shift).toNat ∧ (Int.ofNat n + r.shift).toNat ≤ r.images.2 := by
  obtain ⟨hfirst, hlast, -⟩ := covers_iff.1 h
  simp only [images, Int.ofNat_eq_natCast]
  omega

theorem covers_image_eq_false (hr : r ∈ lowerRuns) (hother : other ∈ blanks ++ lowerRuns)
    (h : r.covers n = true) : other.covers (Int.ofNat n + r.shift).toNat = false := by
  have hmisses := misses_of_mem hr hother
  have hpos := (images_of_mem hr).1
  obtain ⟨hlow, hhigh⟩ := image_mem_images h
  obtain ⟨hfirst, hlast, hstep⟩ := covers_iff.1 h
  rw [Bool.eq_false_iff, ne_eq, covers_iff]
  rintro ⟨hfirst', hlast', hstep'⟩
  simp only [misses, images, Int.ofNat_eq_natCast, Nat.blt_eq, Bool.or_eq_true, Bool.and_eq_true,
    beq_iff_eq] at hmisses hpos hlow hhigh hfirst' hlast' hstep'
  rcases hmisses with (hm | hm) | ⟨⟨hstep₁, hstep₂⟩, hodd⟩
  · omega
  · omega
  · rw [hstep₂] at hstep'
    rcases hstep₁ with hstep₁ | hsingle
    · rw [hstep₁] at hstep
      omega
    · omega

end CaseRun

/-! ## Characters -/

theorem exists_covers_of_isBlank {c : Char} (h : 0x61 ≤ c.toNat) (hblank : isBlank c = true) :
    ∃ r ∈ CaseRun.blanks, r.covers c.toNat = true := by
  simp only [isBlank, Bool.or_eq_true, Bool.and_eq_true, decide_eq_true_eq, beq_iff_eq] at hblank
  simp only [CaseRun.blanks, List.exists_mem_cons_iff, CaseRun.covers_iff, Nat.mod_one, and_true]
  omega

/-- **A character in lower case** stays as it is in lower case. It is no blank, unless it was one before. -/
theorem lowerChar_lowerChar (c : Char) :
    lowerChar (lowerChar c) = lowerChar c ∧ (isBlank (lowerChar c) = true → isBlank c = true) := by
  by_cases hascii : c.toNat < 0x80
  · have hall : ∀ n < 0x80, lowerChar (lowerChar (Char.ofNat n)) = lowerChar (Char.ofNat n) ∧
        (isBlank (lowerChar (Char.ofNat n)) = true → isBlank (Char.ofNat n) = true) := by decide +kernel
    simpa only [Char.ofNat_toNat] using hall c.toNat hascii
  · have hlower : lowerChar c = shiftBy lowerRuns c := if_neg hascii
    unfold shiftBy at hlower
    split at hlower
    · rename_i r hfind
      have hr := List.mem_of_find?_eq_some hfind
      have hcovers := List.find?_some hfind
      obtain ⟨hlow, hhigh⟩ := CaseRun.image_mem_images hcovers
      obtain ⟨hpos, hchars⟩ := CaseRun.images_of_mem hr
      have hvalid : (Int.ofNat c.toNat + r.shift).toNat.isValidChar := by
        unfold Nat.isValidChar
        omega
      have hnat : (lowerChar c).toNat = (Int.ofNat c.toNat + r.shift).toNat := by
        rw [hlower, Char.ofNat, dif_pos hvalid]
        rfl
      have hmisses : ∀ other ∈ CaseRun.blanks ++ lowerRuns, other.covers (lowerChar c).toNat = false :=
        fun other hother => hnat ▸ CaseRun.covers_image_eq_false hr hother hcovers
      constructor
      · by_cases hsmall : (lowerChar c).toNat < 0x80
        · have hall : ∀ n < 0x80, 0x61 ≤ n → lowerChar (Char.ofNat n) = Char.ofNat n := by decide +kernel
          simpa only [Char.ofNat_toNat] using hall (lowerChar c).toNat hsmall (by omega)
        · have hnone : lowerRuns.find? (·.covers (lowerChar c).toNat) = none :=
            List.find?_eq_none.2 fun other hother => by simp [hmisses other (List.mem_append_right _ hother)]
          calc lowerChar (lowerChar c) = shiftBy lowerRuns (lowerChar c) := if_neg hsmall
            _ = lowerChar c := by rw [shiftBy, hnone]
      · intro hblank
        obtain ⟨other, hother, hcovered⟩ := exists_covers_of_isBlank (by omega) hblank
        rw [hmisses other (List.mem_append_left _ hother)] at hcovered
        cases hcovered
    · rw [hlower]
      exact ⟨hlower, id⟩

/-! ## Texts -/

theorem trimChars_of_ends {cs : List Char} (hhead : ∀ c ∈ cs.head?, isBlank c = false)
    (hlast : ∀ c ∈ cs.getLast?, isBlank c = false) : trimChars cs = cs := by
  have hdrop : ∀ l : List Char, (∀ c ∈ l.head?, isBlank c = false) → l.dropWhile isBlank = l := by
    intro l hl
    cases l with
    | nil => rfl
    | cons c l => simp [hl c rfl]
  rw [trimChars, hdrop cs hhead, dropEnd, hdrop cs.reverse (by simpa using hlast), List.reverse_reverse]

/-- What is trimmed neither begins nor ends with a blank. -/
theorem ends_trimChars (cs : List Char) :
    (∀ c ∈ (trimChars cs).head?, isBlank c = false) ∧ ∀ c ∈ (trimChars cs).getLast?, isBlank c = false := by
  have hhead : ∀ (l : List Char), ∀ c ∈ (l.dropWhile isBlank).head?, isBlank c = false := by
    intro l c hc
    have h := List.head?_dropWhile_not isBlank l
    rw [Option.mem_def.1 hc] at h
    exact h
  rw [trimChars, dropEnd, List.head?_reverse, List.getLast?_reverse]
  refine ⟨fun c hc => ?_, hhead _⟩
  -- What is left at the end was there before the end was trimmed.
  obtain ⟨dropped, hdropped⟩ := List.dropWhile_suffix (l := (cs.dropWhile isBlank).reverse) isBlank
  refine hhead cs c ?_
  rw [← List.getLast?_reverse, ← hdropped, List.getLast?_append, Option.mem_def.1 hc]
  rfl

theorem trim_trim (s : String) : trim (trim s) = trim s := by
  obtain ⟨hhead, hlast⟩ := ends_trimChars s.toList
  rw [trim, toList_trim, trimChars_of_ends hhead hlast, trim]

/-- A text between two others without white space around them has none around it either. -/
theorem trim_enclosed {front back : String} (hfront : trim front = front) (hback : trim back = back)
    (hfirst : front ≠ "") (hlast : back ≠ "") (middle : String) :
    trim (front ++ middle ++ back) = front ++ middle ++ back := by
  have hends : ∀ {s : String}, trim s = s →
      (∀ c ∈ s.toList.head?, isBlank c = false) ∧ ∀ c ∈ s.toList.getLast?, isBlank c = false := by
    intro s hs
    have h := ends_trimChars s.toList
    rwa [← toList_trim, hs] at h
  rw [← String.toList_inj, toList_trim, String.toList_append, String.toList_append]
  refine trimChars_of_ends ?_ ?_
  · rw [List.append_assoc, List.head?_append_of_ne_nil _ (mt String.toList_eq_nil_iff.1 hfirst)]
    exact (hends hfront).1
  · rw [List.getLast?_append_of_ne_nil _ (mt String.toList_eq_nil_iff.1 hlast)]
    exact (hends hback).2

theorem notBlank_map {c? : Option Char} (h : ∀ c ∈ c?, isBlank c = false) :
    ∀ c ∈ c?.map lowerChar, isBlank c = false := by
  intro d hd
  obtain ⟨c, hc, rfl⟩ := Option.map_eq_some_iff.1 hd
  exact Bool.eq_false_iff.2 fun hblank => Bool.eq_false_iff.1 (h c hc) ((lowerChar_lowerChar c).2 hblank)

/-- **Trimming and lower case**: the second time nothing changes. -/
theorem lower_trim_lower_trim (s : String) : lower (trim (lower (trim s))) = lower (trim s) := by
  obtain ⟨hhead, hlast⟩ := ends_trimChars s.toList
  have htrim : trimChars ((trimChars s.toList).map lowerChar) = (trimChars s.toList).map lowerChar := by
    refine trimChars_of_ends ?_ ?_
    · rw [List.head?_map]
      exact notBlank_map hhead
    · rw [List.getLast?_map]
      exact notBlank_map hlast
  simp only [lower, trim, String.toList_ofList, htrim, List.map_map]
  congr 1
  exact List.map_congr_left fun c _ => (lowerChar_lowerChar c).1

end Triage.Text
