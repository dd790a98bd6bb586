import Mathlib.Data.List.Basic
import Triage.Proofs.Activities
import Triage.Proofs.Number.Digits

/-!
# Spelled whole numbers

A whole number is spelled by decimal digits with an optional sign, leading zeros included. The reader of
whole numbers accepts exactly the spellings of those that fit into 64 bits (`readInt64_eq_ok_iff`).
-/
namespace Triage.Number

/-- At least one decimal digit, and nothing else. -/
def Numeral (cs : List Char) : Prop := cs ≠ [] ∧ ∀ c ∈ cs, c.isDigit = true

/-- The text is a numeral with an optional sign, and this is its number. -/
inductive Denotes : (cs : List Char) → Int → Prop
  | unsigned {cs : List Char} : Numeral cs → Denotes cs (Nat.ofDigitChars 10 cs 0)
  | positive {cs : List Char} : Numeral cs → Denotes ('+' :: cs) (Nat.ofDigitChars 10 cs 0)
  | negative {cs : List Char} : Numeral cs → Denotes ('-' :: cs) (-Nat.ofDigitChars 10 cs 0)

/-! ## Digits -/

theorem alphanumericValue?_of_isDigit {c : Char} (h : c.isDigit = true) :
    (alphanumericValue? c).filter (· < 10) = some (c.toNat - '0'.toNat) := by
  have hrange : c.toNat ≤ 57 := (Char.isDigit_iff_toNat.1 h).2
  have hsmall : c.toNat - 48 < 10 := by omega
  simp [alphanumericValue?, h, hsmall]

theorem alphanumericValue?_of_not_isDigit {c : Char} (h : c.isDigit = false) :
    (alphanumericValue? c).filter (· < 10) = none := by
  unfold alphanumericValue?
  split
  · rename_i hdigit
    rw [h] at hdigit
    cases hdigit
  · split
    · simp
    · rfl

theorem le_ofDigitChars (cs : List Char) (n : Nat) : n ≤ Nat.ofDigitChars 10 cs n := by
  induction cs generalizing n with
  | nil => exact Nat.le_refl n
  | cons c cs ih =>
    rw [Nat.ofDigitChars_cons]
    exact Nat.le_trans (by omega) (ih _)

/-- The digits after `n` are read to their end exactly if the number they lead to is not too large. -/
theorem readDigits_eq_ok_iff {n m : Nat} (hn : n < unsignedLimit) {cs : List Char} :
    readDigits 10 false n cs = .ok m ↔
      (∀ c ∈ cs, c.isDigit = true) ∧ m = Nat.ofDigitChars 10 cs n ∧ m < unsignedLimit := by
  induction cs generalizing n with
  | nil =>
    simp only [readDigits, Except.ok.injEq, List.not_mem_nil, false_imp_iff, implies_true, true_and,
      Nat.ofDigitChars_nil]
    exact ⟨fun h => ⟨h.symm, h ▸ hn⟩, fun h => h.1.symm⟩
  | cons c cs ih =>
    simp only [readDigits, Bool.false_and, Bool.false_eq_true, if_false, List.forall_mem_cons]
    cases hc : c.isDigit with
    | false => simp [alphanumericValue?_of_not_isDigit hc]
    | true =>
      simp only [alphanumericValue?_of_isDigit hc, true_and, Nat.ofDigitChars_cons, Nat.mul_comm 10 n]
      split
      · rename_i hlarge
        -- What is too large already only grows.
        refine iff_of_false (fun h => by cases h) fun ⟨_, hm, hsmall⟩ => ?_
        have hle := le_ofDigitChars cs (n * 10 + (c.toNat - '0'.toNat))
        omega
      · rename_i hsmall
        exact ih (Nat.lt_of_not_le hsmall)

theorem toInt64_eq_ok_iff {negative : Bool} {m : Nat} {n : Int} :
    toInt64 negative m = .ok n ↔ n = (if negative then -(m : Int) else m) ∧ fitsSigned n = true := by
  have hlimit : signedLimit = 9223372036854775808 := rfl
  unfold toInt64 fitsSigned
  cases negative with
  | false =>
    simp only [Bool.false_eq_true, if_false, Int.ofNat_eq_natCast, Bool.and_eq_true, decide_eq_true_eq]
    split
    · rw [Except.ok.injEq]
      omega
    · refine iff_of_false (fun h => by cases h) ?_
      omega
  | true =>
    simp only [if_true, Int.ofNat_eq_natCast, Bool.and_eq_true, decide_eq_true_eq]
    split
    · rw [Except.ok.injEq]
      omega
    · refine iff_of_false (fun h => by cases h) ?_
      omega

/-! ## Signs -/

theorem Numeral.readSign {cs : List Char} (h : Numeral cs) : readSign cs = (false, cs) := by
  obtain ⟨hne, hdigits⟩ := h
  unfold Number.readSign
  split
  · cases hdigits '+' List.mem_cons_self
  · cases hdigits '-' List.mem_cons_self
  · rfl

theorem denotes_iff {cs : List Char} {n : Int} :
    Denotes cs n ↔ Numeral (readSign cs).2 ∧
      n = if (readSign cs).1 then -(Nat.ofDigitChars 10 (readSign cs).2 0 : Int)
        else Nat.ofDigitChars 10 (readSign cs).2 0 := by
  constructor
  · rintro (h | h | h)
    · rw [h.readSign]
      exact ⟨h, rfl⟩
    · exact ⟨h, rfl⟩
    · exact ⟨h, rfl⟩
  · rintro ⟨h, rfl⟩
    revert h
    unfold readSign
    split
    · exact .positive
    · exact .negative
    · exact .unsigned

/-- **The reader accepts exactly the spellings of numbers that fit into 64 bits.** -/
theorem readInt64_eq_ok_iff {s : String} {n : Int} :
    readInt64 s = .ok n ↔ Denotes s.toList n ∧ fitsSigned n = true := by
  rw [denotes_iff]
  unfold readInt64 Numeral
  generalize readSign s.toList = signed
  obtain ⟨negative, cs⟩ := signed
  dsimp only
  cases cs with
  | nil => simp
  | cons c cs =>
    have hlimit : signedLimit = 9223372036854775808 ∧ unsignedLimit = 18446744073709551616 := ⟨rfl, rfl⟩
    simp only [List.isEmpty_cons, Bool.false_eq_true, if_false, bind_eq_ok_iff, toInt64_eq_ok_iff,
      readDigits_eq_ok_iff (show 0 < unsignedLimit by decide), ne_eq, reduceCtorEq, not_false_eq_true, true_and]
    constructor
    · rintro ⟨m, ⟨hdigits, rfl, -⟩, hn⟩
      exact ⟨⟨hdigits, hn.1⟩, hn.2⟩
    · rintro ⟨⟨hdigits, hn⟩, hfits⟩
      refine ⟨_, ⟨hdigits, rfl, ?_⟩, hn, hfits⟩
      simp only [fitsSigned, Int.ofNat_eq_natCast, Bool.and_eq_true, decide_eq_true_eq] at hfits
      split at hn <;> omega

end Triage.Number
