import Triage.Proofs.Cve
import Triage.Proofs.Text.Folding

/-!
# How identifiers are spelled

Texts are trimmed and put in upper case by the rules of Unicode, but an identifier is made of ASCII. No character
outside of ASCII has a letter of `CVE`, a digit or a hyphen for its upper case, so it is enough to ignore the case of
ASCII: a text is an identifier exactly if, without the white space around it, it is `CVE-`, four digits, a hyphen and
four digits at least, in letters of either case (`Spells`). The canonical form is that text in upper case
(`validate_eq_ok_iff`), and the identifier of a finding is the first one among its texts. Main statement:
`identifiers_by_spelling`.
-/
namespace Triage

/-! ## White space around a text -/

namespace Text

/-- `t` is `s` without the white space around it. -/
structure Stripped (s t : String) : Prop where
  around : ∃ front back, s.toList = front ++ t.toList ++ back ∧ ∀ c ∈ front ++ back, isBlank c = true
  head : ∀ c ∈ t.toList.head?, isBlank c = false
  last : ∀ c ∈ t.toList.getLast?, isBlank c = false

theorem trimChars_append_left {front : List Char} (h : ∀ c ∈ front, isBlank c = true) (cs : List Char) :
    trimChars (front ++ cs) = trimChars cs := by
  rw [trimChars, List.dropWhile_append_of_pos h, trimChars]

theorem trimChars_append_right {back : List Char} (h : ∀ c ∈ back, isBlank c = true) (cs : List Char) :
    trimChars (cs ++ back) = trimChars cs := by
  have hback : back.dropWhile isBlank = [] := List.dropWhile_eq_nil_iff.2 h
  have hend : ∀ l : List Char, dropEnd isBlank (l ++ back) = dropEnd isBlank l := by
    intro l
    rw [dropEnd, List.reverse_append, List.dropWhile_append_of_pos, dropEnd]
    exact fun c hc => h c (List.mem_reverse.1 hc)
  rw [trimChars, List.dropWhile_append]
  split
  · rename_i hempty
    rw [hback, trimChars, List.isEmpty_iff.1 hempty]
  · rw [hend, trimChars]

/-- What is trimmed off is white space. -/
theorem exists_trimChars (cs : List Char) :
    ∃ front back, cs = front ++ trimChars cs ++ back ∧ ∀ c ∈ front ++ back, isBlank c = true := by
  have hblank : ∀ l : List Char, ∀ c ∈ l.takeWhile isBlank, isBlank c = true := fun _ _ => List.mem_takeWhile_imp
  refine ⟨cs.takeWhile isBlank, ((cs.dropWhile isBlank).reverse.takeWhile isBlank).reverse, ?_, ?_⟩
  · rw [trimChars, dropEnd, List.append_assoc, ← List.reverse_append, List.takeWhile_append_dropWhile,
      List.reverse_reverse, List.takeWhile_append_dropWhile]
  · refine List.forall_mem_append.2 ⟨hblank cs, fun c hc => ?_⟩
    exact hblank _ c (List.mem_reverse.1 hc)

/-- **Trimming** takes off the white space around a text, and nothing else. -/
theorem stripped_iff {s t : String} : Stripped s t ↔ t = trim s := by
  constructor
  · rintro ⟨⟨front, back, hs, hblank⟩, hhead, hlast⟩
    obtain ⟨hfront, hback⟩ := List.forall_mem_append.1 hblank
    rw [← String.toList_inj, toList_trim, hs, trimChars_append_right hback, trimChars_append_left hfront,
      trimChars_of_ends hhead hlast]
  · rintro rfl
    obtain ⟨hhead, hlast⟩ := ends_trimChars s.toList
    refine ⟨?_, ?_, ?_⟩
    · rw [toList_trim]
      exact exists_trimChars s.toList
    · rwa [toList_trim]
    · rwa [toList_trim]

/-! ## The upper case of ASCII -/

theorem toUpper_of_not_ascii {c : Char} (hc : 0x80 ≤ c.toNat) : c.toUpper = c := by
  refine dif_neg fun h => ?_
  have hlow : c.toNat ≤ 0x7A := UInt32.le_iff_toNat_le.1 h.2
  omega

/-- **A plain character is the upper case of characters of ASCII only.** -/
theorem upperChar_eq_iff {c x : Char} (hx : isPlain x = true) : upperChar c = x ↔ c.toUpper = x := by
  have hfacts : ∀ n < 0x80, isPlain (Char.ofNat n) = true → Char.ofNat n ∉ ['I', 'S'] := by decide +kernel
  have hsmall : x.toNat < 0x80 := by
    simp only [isPlain, Bool.and_eq_true, decide_eq_true_eq] at hx
    exact hx.1.1
  have hother : x ∉ ['I', 'S'] := by
    simpa only [Char.ofNat_toNat, hx, true_implies] using hfacts x.toNat hsmall
  by_cases hc : c.toNat < 0x80
  · rw [upperChar, if_pos hc]
  · have hc : 0x80 ≤ c.toNat := Nat.not_lt.1 hc
    refine iff_of_false (fun h => ?_) fun h => ?_
    · rcases upperChar_of_not_ascii hc with hout | hin
      · rw [h] at hout
        omega
      · exact hother (h ▸ hin)
    · rw [toUpper_of_not_ascii hc] at h
      rw [h] at hc
      omega

/-- A text of plain characters is the upper case of another one exactly if it is so by the rules of ASCII. -/
theorem map_upperChar_eq_iff {cs xs : List Char} (hxs : ∀ x ∈ xs, isPlain x = true) :
    cs.map upperChar = xs ↔ cs.map Char.toUpper = xs := by
  induction cs generalizing xs with
  | nil => rfl
  | cons c cs ih =>
    cases xs with
    | nil => simp
    | cons x xs =>
      obtain ⟨hx, hxs⟩ := List.forall_mem_cons.1 hxs
      rw [List.map_cons, List.map_cons, List.cons.injEq, List.cons.injEq, upperChar_eq_iff hx, ih hxs]

end Text

/-! ## Identifiers -/

namespace Cve

open Text

/-- `CVE-`, four digits, a hyphen and four digits at least. -/
def Formed (cs : List Char) : Prop :=
  ∃ year number, cs = "CVE-".toList ++ year ++ '-' :: number ∧ year.length = 4 ∧ 4 ≤ number.length ∧
    ∀ c ∈ year ++ number, c.isDigit = true

/-- The text is an identifier in letters of either case of ASCII. -/
def Spells (t : String) : Prop := Formed t.toUpper.toList

theorem isDigit_iff {c : Char} : isDigit c = true ↔ c.isDigit = true := by
  simp only [isDigit, Number.digitValue?, Char.isDigit, Bool.and_eq_true, decide_eq_true_eq]
  split
  · rename_i h
    exact iff_of_true rfl h
  · rename_i h
    exact iff_of_false Bool.false_ne_true h

theorem isCanonical_iff {cs : List Char} : isCanonical cs = true ↔ Formed cs := by
  constructor
  · intro h
    unfold isCanonical at h
    split at h
    · rename_i a b c d number
      simp only [Bool.and_eq_true, decide_eq_true_eq, List.all_eq_true, isDigit_iff] at h
      obtain ⟨⟨⟨⟨⟨ha, hb⟩, hc⟩, hd⟩, hlength⟩, hnumber⟩ := h
      refine ⟨[a, b, c, d], number, rfl, rfl, hlength, ?_⟩
      simpa [ha, hb, hc, hd] using hnumber
    · cases h
  · rintro ⟨year, number, rfl, hyear, hlength, hdigits⟩
    obtain ⟨a, b, c, d, rfl⟩ := List.length_eq_four.1 hyear
    simp only [List.forall_mem_append, List.forall_mem_cons, ← isDigit_iff] at hdigits
    obtain ⟨⟨ha, hb, hc, hd, -⟩, hnumber⟩ := hdigits
    simpa [isCanonical, ha, hb, hc, hd, hlength] using hnumber

instance (cs : List Char) : Decidable (Formed cs) := decidable_of_iff _ isCanonical_iff

instance (t : String) : Decidable (Spells t) := inferInstanceAs (Decidable (Formed _))

theorem isPlain_of_isDigit {c : Char} (h : isDigit c = true) : isPlain c = true := by
  have hall : ∀ n < 58, 48 ≤ n → isPlain (Char.ofNat n) = true := by decide +kernel
  obtain ⟨hlow, hhigh⟩ := range_of_isDigit h
  simpa only [Char.ofNat_toNat] using hall c.toNat (by omega) hlow

theorem isPlain_of_isCanonical {cs : List Char} (h : isCanonical cs = true) : ∀ c ∈ cs, isPlain c = true :=
  forall_mem_of_isCanonical h (by decide +kernel) fun _ => isPlain_of_isDigit

/-- The upper case of Unicode makes an identifier of a text exactly if that of ASCII does, and it is the same one. -/
theorem upper_eq_iff {t c : String} (hc : isCanonical c.toList = true) : upper t = c ↔ t.toUpper = c := by
  rw [← String.toList_inj, ← String.toList_inj, upper, String.toList_ofList, String.toUpper, String.toList_map]
  exact map_upperChar_eq_iff (isPlain_of_isCanonical hc)

theorem validate_eq_ok_iff_normalize {s c : String} :
    validate s = .ok c ↔ normalize s = c ∧ isCanonical c.toList = true := by
  unfold validate
  dsimp only
  split
  · rename_i hempty
    refine iff_of_false nofun ?_
    rintro ⟨rfl, h⟩
    rw [hempty] at h
    cases h
  · split
    · rename_i h
      constructor
      · intro hc
        have hc := Except.ok.inj hc
        exact ⟨hc, hc ▸ h⟩
      · rintro ⟨hc, -⟩
        exact congrArg Except.ok hc
    · rename_i h
      refine iff_of_false nofun ?_
      rintro ⟨rfl, hc⟩
      exact h hc

/-- **A text is validated by its spelling.** -/
theorem validate_eq_ok_iff {s c : String} : validate s = .ok c ↔ Spells (trim s) ∧ c = (trim s).toUpper := by
  rw [validate_eq_ok_iff_normalize, Spells, ← isCanonical_iff]
  constructor
  · rintro ⟨hnormalize, hcanonical⟩
    have hc : (trim s).toUpper = c := (upper_eq_iff hcanonical).1 hnormalize
    exact ⟨hc ▸ hcanonical, hc.symm⟩
  · rintro ⟨hcanonical, rfl⟩
    exact ⟨(upper_eq_iff hcanonical).2 rfl, hcanonical⟩

theorem canonical?_eq_some_iff {s c : String} : canonical? s = some c ↔ Spells (trim s) ∧ c = (trim s).toUpper := by
  rw [← validate_eq_ok_iff, canonical?]
  cases validate s <;> simp [Except.toOption]

theorem canonical?_eq_none_iff {s : String} : canonical? s = none ↔ ¬ Spells (trim s) := by
  simp only [Option.eq_none_iff_forall_ne_some, ne_eq, canonical?_eq_some_iff, not_and]
  exact ⟨fun h hs => h _ hs rfl, fun h _ hs => absurd hs h⟩

/-- An identifier is validated to itself, and has no white space around it. -/
theorem validate_of_validate {s c : String} (h : validate s = .ok c) : trim c = c ∧ validate c = .ok c := by
  have hcanonical := isCanonical_of_validate h
  constructor
  · rw [trim, trimChars_of_settled (settled_of_isCanonical hcanonical), String.ofList_toList]
  · exact validate_eq_ok_iff_normalize.2 ⟨normalize_of_isCanonical hcanonical, hcanonical⟩

end Cve

/-! ## Findings -/

namespace Finding

open Text Cve

/-- A finding whose identifier has been stored has the same identifier. -/
theorem resolveCve?_store {f : Finding} {c : String} (h : f.resolveCve? = some c) :
    { f with cve := c }.resolveCve? = some c := by
  obtain ⟨s, -, hs⟩ := List.exists_of_findSome?_eq_some h
  simp [resolveCve?, identifiers, canonical?_canonical hs]

theorem resolveCve?_eq_some_iff {f : Finding} {c : String} :
    f.resolveCve? = some c ↔ ∃ front t back, [f.cve, f.id] ++ f.vulnerabilityId.toList = front ++ t :: back ∧
      (∀ t' ∈ front, ¬ Spells (trim t')) ∧ Spells (trim t) ∧ c = (trim t).toUpper := by
  simp only [resolveCve?, List.findSome?_eq_some_iff, canonical?_eq_some_iff, canonical?_eq_none_iff]
  constructor
  · rintro ⟨front, t, back, hids, ht, hfront⟩
    exact ⟨front, t, back, hids, hfront, ht⟩
  · rintro ⟨front, t, back, hids, hfront, ht⟩
    exact ⟨front, t, back, hids, ht, hfront⟩

theorem resolveCve?_eq_none_iff {f : Finding} :
    f.resolveCve? = none ↔ ∀ t ∈ [f.cve, f.id] ++ f.vulnerabilityId.toList, ¬ Spells (trim t) := by
  simp only [resolveCve?, List.findSome?_eq_none_iff, canonical?_eq_none_iff]
  rfl

end Finding

namespace Cve

open Text

/-- **Identifiers are told by their spelling.**

* A text is accepted exactly if it spells an identifier without the white space around it.
* The canonical form is what is left, in the upper case of ASCII. It has no white space around it and is its own
  canonical form.
* Two texts have the same canonical form exactly if what is left of them differs in the case of ASCII only.
* A finding has the identifier of the first of its texts that spells one, and none exactly if no text does. Storing
  it in the finding does not change it. -/
theorem identifiers_by_spelling :
    (∀ s t, Stripped s t ↔ t = trim s) ∧
    (∀ s, (∃ c, validate s = .ok c) ↔ Spells (trim s)) ∧
    (∀ s c, validate s = .ok c → c = (trim s).toUpper ∧ Stripped c c ∧ validate c = .ok c) ∧
    (∀ s s' c c', validate s = .ok c → validate s' = .ok c' → (c = c' ↔ (trim s).toUpper = (trim s').toUpper)) ∧
    ∀ f : Finding,
      (∀ c, f.resolveCve? = some c ↔
        ∃ front t back, [f.cve, f.id] ++ f.vulnerabilityId.toList = front ++ t :: back ∧
          (∀ t' ∈ front, ¬ Spells (trim t')) ∧ Spells (trim t) ∧ c = (trim t).toUpper) ∧
      (f.resolveCve? = none ↔ ∀ t ∈ [f.cve, f.id] ++ f.vulnerabilityId.toList, ¬ Spells (trim t)) ∧
      ∀ c, f.resolveCve? = some c → { f with cve := c }.resolveCve? = f.resolveCve? := by
  refine ⟨fun s t => stripped_iff, fun s => ?_, fun s c h => ?_, fun s s' c c' h h' => ?_,
    fun f => ⟨fun c => ?_, ?_, ?_⟩⟩
  · simp only [validate_eq_ok_iff, exists_and_left, exists_eq, and_true]
  · obtain ⟨htrim, hself⟩ := validate_of_validate h
    exact ⟨(validate_eq_ok_iff.1 h).2, stripped_iff.2 htrim.symm, hself⟩
  · rw [(validate_eq_ok_iff.1 h).2, (validate_eq_ok_iff.1 h').2]
  · exact Finding.resolveCve?_eq_some_iff
  · exact Finding.resolveCve?_eq_none_iff
  · intro c h
    rw [h]
    exact Finding.resolveCve?_store h

/-- A finding with an advisory, an identifier in mixed case after a no-break space, and another identifier. -/
def oddFinding : Finding where
  cve := "GHSA-jfh8-c2jp-5v3q"
  id := "\u00a0cvE-2021-44228\n"
  vulnerabilityId := some "CVE-2020-0001"

theorem identifiers_by_spelling_odd :
    validate oddFinding.id = .ok "CVE-2021-44228" ∧ validate "CVE-2021-44228" = .ok "CVE-2021-44228" ∧
      Spells (trim oddFinding.id) ∧ (trim oddFinding.id).toUpper = (trim "CVE-2021-44228").toUpper ∧
      oddFinding.resolveCve? = some "CVE-2021-44228" ∧
      { oddFinding with cve := "CVE-2021-44228" }.resolveCve? = oddFinding.resolveCve? := by
  obtain ⟨-, haccepted, hform, hsame, hfinding⟩ := identifiers_by_spelling
  have hodd : validate oddFinding.id = .ok "CVE-2021-44228" :=
    validate_eq_ok_iff_normalize.2 ⟨by decide +kernel, by decide +kernel⟩
  have hself := (hform _ _ hodd).2.2
  have hresolved : oddFinding.resolveCve? = some "CVE-2021-44228" := by decide +kernel
  exact ⟨hodd, hself, (haccepted _).1 ⟨_, hodd⟩, (hsame _ _ _ _ hodd hself).1 rfl, hresolved,
    (hfinding oddFinding).2.2 _ hresolved⟩

end Cve

end Triage
