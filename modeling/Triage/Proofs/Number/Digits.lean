import Triage.Number.Layout
import Triage.Number.Reader
import Triage.Time.Instant

/-!
# Digits and the numbers they spell

A number that is written with zeros in front up to a width is read again by the readers of digits.
-/
namespace Triage.Number

theorem digitValue?_of_isDigit {c : Char} (h : c.isDigit = true) : digitValue? c = some (c.toNat - 48) := by
  have hrange := Char.isDigit_iff_toNat.1 h
  exact if_pos hrange

theorem isDigit_of_digitValue? {c : Char} (h : (digitValue? c).isSome) : c.isDigit = true := by
  unfold digitValue? at h
  split at h
  · rename_i hrange
    exact Char.isDigit_iff_toNat.2 hrange
  · cases h

theorem digitsToNat_filterMap {cs : List Char} (h : ∀ c ∈ cs, c.isDigit = true) :
    digitsToNat 10 (cs.filterMap digitValue?) = Nat.ofDigitChars 10 cs 0 := by
  have hfold (n : Nat) : (cs.filterMap digitValue?).foldl (fun n d => n * 10 + d) n =
      Nat.ofDigitChars 10 cs n := by
    induction cs generalizing n with
    | nil => rfl
    | cons c cs ih =>
      have hc := digitValue?_of_isDigit (h c List.mem_cons_self)
      rw [List.filterMap_cons_some hc, List.foldl_cons, Nat.ofDigitChars_cons, Nat.mul_comm 10 n]
      exact ih (fun c hc => h c (List.mem_cons_of_mem _ hc)) _
  exact hfold 0

/-! ## Numbers of a fixed width -/

theorem isDigit_of_mem_zeroPadded {width n : Nat} {c : Char} (h : c ∈ zeroPadded width n) :
    c.isDigit = true := by
  rcases List.mem_append.1 h with h | h
  · rw [List.eq_of_mem_replicate h]
    rfl
  · exact Nat.isDigit_of_mem_toDigits (by decide) (by decide) h

theorem length_zeroPadded {width n : Nat} (hwidth : 0 < width) (h : n < Nat.pow 10 width) :
    (zeroPadded width n).length = width := by
  have hle : (Nat.toDigits 10 n).length ≤ width := (Nat.length_toDigits_le_iff (by decide) hwidth).2 h
  simp only [zeroPadded, digitChars, List.length_append, List.length_replicate]
  omega

theorem ofDigitChars_zeroPadded (width n : Nat) : Nat.ofDigitChars 10 (zeroPadded width n) 0 = n := by
  rw [zeroPadded, Nat.ofDigitChars_append, Nat.ofDigitChars_replicate_zero, Nat.mul_zero, digitChars,
    Nat.ofDigitChars_ten_toDigits]

end Triage.Number

namespace Triage.Time

theorem readFixed_of_isDigit {cs : List Char} (h : ∀ c ∈ cs, c.isDigit = true) (rest : List Char) :
    readFixed cs.length (cs ++ rest) = some (Nat.ofDigitChars 10 cs 0, rest) := by
  induction cs with
  | nil => rfl
  | cons c cs ih =>
    have hc := Number.digitValue?_of_isDigit (h c List.mem_cons_self)
    have ih := ih fun c hc => h c (List.mem_cons_of_mem _ hc)
    have hvalue : Nat.ofDigitChars 10 (c :: cs) 0 =
        (c.toNat - 48) * Nat.pow 10 cs.length + Nat.ofDigitChars 10 cs 0 := calc
      _ = Nat.ofDigitChars 10 cs (10 * 0 + (c.toNat - 48)) := Nat.ofDigitChars_cons
      _ = 10 ^ cs.length * (10 * 0 + (c.toNat - 48)) + Nat.ofDigitChars 10 cs 0 :=
        Nat.ofDigitChars_eq_ofDigitChars_zero
      _ = _ := by rw [Nat.mul_zero, Nat.zero_add, Nat.mul_comm]; rfl
    simp only [List.length_cons, List.cons_append, readFixed, hc, ih, bind, Option.bind_some, pure, hvalue]

/-- **A number of a fixed width** is read again. -/
theorem readFixed_zeroPadded {width n : Nat} (hwidth : 0 < width) (h : n < Nat.pow 10 width) (rest : List Char) :
    readFixed width (Number.zeroPadded width n ++ rest) = some (n, rest) := by
  have hdigits : ∀ c ∈ Number.zeroPadded width n, c.isDigit = true :=
    fun _ => Number.isDigit_of_mem_zeroPadded
  have hread := readFixed_of_isDigit hdigits rest
  rwa [Number.length_zeroPadded hwidth h, Number.ofDigitChars_zeroPadded] at hread

end Triage.Time
