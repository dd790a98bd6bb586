import Triage.Proofs.Text.Case

/-!
# Upper case and comparison without case

Two letters outside of ASCII have a letter of ASCII as their upper case, `ı` and `ſ`, and two have one as their lower
case, `İ` and the sign for kelvin. So a text that has none of `I`, `K` and `S` is equal to another one without regard
to case exactly if it is the upper case of it (`equalFold_iff_upper`).
-/
namespace Triage.Text

/-! ## Out of ASCII and into it -/

/-- A run that begins outside of ASCII stays outside, or leads a single letter to one of the exceptions. -/
def CaseRun.staysOutside (exceptions : List Char) (r : CaseRun) : Bool :=
  Nat.blt r.last 0x80 ||
    (Nat.ble 0x80 r.images.1 &&
      (Nat.blt r.images.2 0xD800 || (Nat.blt 0xDFFF r.images.1 && Nat.blt r.images.2 0x110000))) ||
    (r.first == r.last && exceptions.any (·.toNat == r.images.1))

theorem toNat_ofNat_of_valid {n : Nat} (h : n.isValidChar) : (Char.ofNat n).toNat = n := by
  rw [Char.ofNat, dif_pos h]
  rfl

/-- **A character outside of ASCII** is led to one outside, or to one of the exceptions. -/
theorem shiftBy_of_not_ascii {runs : List CaseRun} {exceptions : List Char}
    (hruns : runs.all (·.staysOutside exceptions) = true) {c : Char} (hc : 0x80 ≤ c.toNat) :
    0x80 ≤ (shiftBy runs c).toNat ∨ shiftBy runs c ∈ exceptions := by
  unfold shiftBy
  split
  · rename_i r hfind
    have hcovers := List.find?_some hfind
    have hr := List.all_eq_true.1 hruns r (List.mem_of_find?_eq_some hfind)
    obtain ⟨hlow, hhigh⟩ := CaseRun.image_mem_images hcovers
    obtain ⟨hfirst, hlast, -⟩ := CaseRun.covers_iff.1 hcovers
    simp only [CaseRun.staysOutside, Bool.or_eq_true, Bool.and_eq_true, Nat.blt_eq, Nat.ble_eq, beq_iff_eq,
      List.any_eq_true] at hr
    rcases hr with (hbefore | ⟨hout, hchars⟩) | ⟨hsingle, e, he, himage⟩
    · omega
    · left
      have hvalid : (Int.ofNat c.toNat + r.shift).toNat.isValidChar := by
        unfold Nat.isValidChar
        omega
      rw [toNat_ofNat_of_valid hvalid]
      omega
    · right
      have hone : r.images.1 = r.images.2 := by rw [CaseRun.images, hsingle]
      have hnat : (Int.ofNat c.toNat + r.shift).toNat = e.toNat := by omega
      rw [hnat, Char.ofNat_toNat]
      exact he
  · exact .inl hc

/-- The letters outside of ASCII that are led into it. -/
theorem caseRuns_stayOutside :
    upperRuns.all (·.staysOutside ['I', 'S']) = true ∧ lowerRuns.all (·.staysOutside ['i', 'k']) = true := by
  decide +kernel

theorem upperChar_of_not_ascii {c : Char} (hc : 0x80 ≤ c.toNat) :
    0x80 ≤ (upperChar c).toNat ∨ upperChar c ∈ ['I', 'S'] := by
  rw [upperChar, if_neg (Nat.not_lt.2 hc)]
  exact shiftBy_of_not_ascii caseRuns_stayOutside.1 hc

theorem lowerChar_of_not_ascii {c : Char} (hc : 0x80 ≤ c.toNat) :
    0x80 ≤ (lowerChar c).toNat ∨ lowerChar c ∈ ['i', 'k'] := by
  rw [lowerChar, if_neg (Nat.not_lt.2 hc)]
  exact shiftBy_of_not_ascii caseRuns_stayOutside.2 hc

theorem foldChar_of_not_ascii {c : Char} (hc : 0x80 ≤ c.toNat) :
    0x80 ≤ (foldChar c).toNat ∨ foldChar c ∈ ['i', 'k', 's'] := by
  unfold foldChar
  split
  · exact .inl hc
  · rcases upperChar_of_not_ascii hc with hupper | hupper
    · refine (lowerChar_of_not_ascii hupper).imp_right fun hlower => ?_
      simp only [List.mem_cons, List.not_mem_nil, or_false] at hlower ⊢
      exact hlower.imp_right .inl
    · right
      simp only [List.mem_cons, List.not_mem_nil, or_false] at hupper
      rcases hupper with h | h
      · rw [h]
        decide
      · rw [h]
        decide

/-! ## Letters with no relatives outside of ASCII -/

/-- A character of ASCII in upper case whose only relative is its own lower case. -/
def isPlain (c : Char) : Bool := c.toNat < 0x80 && upperChar c == c && !(['I', 'K', 'S'].contains c)

theorem foldChar_eq_iff {c x : Char} (hx : isPlain x = true) : foldChar c = foldChar x ↔ upperChar c = x := by
  have hfacts : ∀ n < 0x80, isPlain (Char.ofNat n) = true →
      foldChar (Char.ofNat n) = lowerChar (Char.ofNat n) ∧ (lowerChar (Char.ofNat n)).toNat < 0x80 ∧
        lowerChar (Char.ofNat n) ∉ ['i', 'k', 's'] ∧ Char.ofNat n ∉ ['I', 'S'] := by decide +kernel
  have hsmall : x.toNat < 0x80 := by
    simp only [isPlain, Bool.and_eq_true, decide_eq_true_eq] at hx
    exact hx.1.1
  obtain ⟨hfold, hlower, hrelative, hplain⟩ := by
    simpa only [Char.ofNat_toNat, hx, true_implies] using hfacts x.toNat hsmall
  by_cases hc : c.toNat < 0x80
  · -- In ASCII the upper case can be had back from the lower case.
    have hback : ∀ n < 0x80, foldChar (Char.ofNat n) = lowerChar (upperChar (Char.ofNat n)) ∧
        upperChar (lowerChar (upperChar (Char.ofNat n))) = upperChar (Char.ofNat n) := by decide +kernel
    obtain ⟨hfoldc, hbackc⟩ := by simpa only [Char.ofNat_toNat] using hback c.toNat hc
    have hbackx := (hback x.toNat hsmall).2
    have hupper : upperChar x = x := by
      simp only [isPlain, Bool.and_eq_true, beq_iff_eq] at hx
      exact hx.1.2
    simp only [Char.ofNat_toNat, hupper] at hbackx
    constructor
    · intro h
      calc upperChar c = upperChar (foldChar c) := by rw [hfoldc, hbackc]
        _ = x := by rw [h, hfold, hbackx]
    · intro h
      rw [hfoldc, h, hfold]
  · have hc : 0x80 ≤ c.toNat := Nat.not_lt.1 hc
    refine iff_of_false (fun h => ?_) fun h => ?_
    · rw [hfold] at h
      rcases foldChar_of_not_ascii hc with hout | hin
      · rw [h] at hout
        omega
      · exact hrelative (h ▸ hin)
    · rcases upperChar_of_not_ascii hc with hout | hin
      · rw [h] at hout
        omega
      · exact hplain (h ▸ hin)

/-- **A text of plain characters** is equal to another one without regard to case exactly if it is its upper case. -/
theorem equalFold_iff_upper {s t : String} (ht : ∀ c ∈ t.toList, isPlain c = true) :
    equalFold s t = true ↔ upper s = t := by
  have hlists : ∀ cs ds : List Char, (∀ d ∈ ds, isPlain d = true) →
      (cs.map foldChar = ds.map foldChar ↔ cs.map upperChar = ds) := by
    intro cs
    induction cs with
    | nil => intro ds _; cases ds <;> simp
    | cons c cs ih =>
      intro ds hds
      cases ds with
      | nil => simp
      | cons d ds =>
        obtain ⟨hd, hds⟩ := List.forall_mem_cons.1 hds
        rw [List.map_cons, List.map_cons, List.map_cons, List.cons.injEq, List.cons.injEq, foldChar_eq_iff hd,
          ih ds hds]
  rw [equalFold, beq_iff_eq, hlists _ _ ht, upper, ← String.toList_inj, String.toList_ofList]

end Triage.Text
