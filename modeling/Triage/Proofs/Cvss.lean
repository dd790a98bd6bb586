import Mathlib.Data.List.Dedup
import Triage.Cvss
import Triage.Proofs.Number.Rounding

/-!
# Base scores lie between zero and ten

A score of version 3 is a whole number of tenths, rounded up from a sum that is cut off at ten. On doubles that takes an
argument: ten times a hundred thousand may be missed, but by so little that the nearest whole number is the same
(`nearestNat_mul_le`). In version 2 the score is rounded from a difference, which the lowest impact that is not zero
already keeps above zero; there are few enough impacts and exploitabilities to go through all of them.
-/
namespace Triage.Cvss

open Number

/-! ## Version 3 -/

theorem zero_le_roundUp (x : Float) : 0 ≤ roundUp x :=
  zero_le_ite _ (zero_le_div (zero_le_ofNat _) (by decide)) (zero_le_div (zero_le_ofNat _) (by decide))

theorem zero_le_score3 (power : Float → Float) (ms : Metrics) : 0 ≤ score3 power ms :=
  zero_le_ite _ (by decide) (zero_le_roundUp _)

theorem nearestNat_le {x : Float} (h : amount x < 2 ^ 52) : (nearestNat x : ℚ) ≤ amount x + 1 / 2 := by
  unfold nearestNat
  split
  · rename_i negative m e hparts
    have hneg := exponent_neg_of_parts hparts h
    have he : e = -(e.natAbs : Int) := by omega
    rw [if_neg (not_le.2 hneg)]
    rw [he] at hparts
    exact roundDiv_le_amount hparts .even
  · have hnonneg := amount_nonneg x
    push_cast
    linarith

theorem tame_ten : Tame (10 : Float).toModel.unpack := tame_iff.2 (by decide)

theorem amount_ten : amount 10 = 10 := amount_eq (m := 5629499534213120) (e := -49) rfl (by norm_num)

theorem amount_hundredThousand : amount 100000 = 100000 :=
  amount_eq (m := 6871947673600000) (e := -36) rfl (by norm_num)

/-- Up to ten there are at most a million of the parts that a score is rounded to. -/
theorem nearestNat_mul_le {x : Float} (h₀ : 0 ≤ x) (h : x ≤ 10) : nearestNat (x * 100000) ≤ 1000000 := by
  have hx := tame_of_le h₀ tame_ten h
  have hle : amount x ≤ 10 := amount_ten ▸ amount_le_of_le hx tame_ten h
  have hproduct : amount x * amount 100000 ≤ 1000000 := by
    rw [amount_hundredThousand]
    linarith
  have hnear : Near 20 (amount x * amount 100000) (x * 100000).toModel.unpack :=
    amount_mul hx (tame_iff.2 (by decide)) (.inr (by decide)) (by decide) (by decide)
      (hproduct.trans_lt (by norm_num))
  have hsmall : (2 : ℚ) ^ ((20 : Int) - 51) < 1 / 2 := by norm_num
  have hamount : amount (x * 100000) < 1000000 + 1 / 2 := hnear.amount_le.trans_lt (by linarith)
  have hnearest := nearestNat_le (hamount.trans (by norm_num))
  have hlt : (nearestNat (x * 100000) : ℚ) < 1000001 := by linarith
  exact Nat.le_of_lt_succ (by exact_mod_cast hlt)

/-- What is below ten by more than rounding may add. -/
theorem ofNat_div_le_ten {n : Nat} {d : Float} (hn : n ≤ 2 ^ 20) (hd : isPositive d = true)
    (h : (n : ℚ) + 1 / 1000 ≤ 9.99 * amount d) : Float.ofNat n / d ≤ 10 := by
  obtain ⟨htame, hle⟩ := amount_ofNat hn
  have hn₀ : (0 : ℚ) ≤ n := Nat.cast_nonneg n
  have hpos : 0 < amount d := by linarith
  have hquotient : amount (Float.ofNat n) / amount d ≤ 9.99 := by
    rw [div_le_iff₀ hpos]
    exact hle.trans h
  obtain ⟨htame', hle'⟩ := amount_div (k := 4) htame hd (by decide) (by decide) (hquotient.trans_lt (by norm_num))
  have hsmall : (2 : ℚ) ^ ((4 : Int) - 51) < 1 / 1000 := by norm_num
  have hlt : amount (Float.ofNat n / d) < amount 10 := by
    rw [amount_ten]
    linarith
  exact Number.le_of_lt (lt_of_amount_lt htame' tame_ten hlt)

theorem tenths_le_ten {n : Nat} (h : n ≤ 100) : Float.ofNat n / 10 ≤ 10 := by
  rcases Nat.lt_or_eq_of_le h with hlt | rfl
  · have hn : (n : ℚ) ≤ 99 := by exact_mod_cast Nat.le_of_lt_succ hlt
    refine ofNat_div_le_ten (by omega) (by decide) ?_
    rw [amount_ten]
    linarith
  · decide

theorem parts_le_ten {n : Nat} (h : n ≤ 1000000) (hwhole : n % 10000 = 0) : Float.ofNat n / 100000 ≤ 10 := by
  rcases Nat.lt_or_eq_of_le h with hlt | rfl
  · have hn : (n : ℚ) ≤ 990000 := by exact_mod_cast (by omega : n ≤ 990000)
    refine ofNat_div_le_ten (by omega) (by decide) ?_
    rw [amount_hundredThousand]
    linarith
  · decide

theorem roundUp_le_ten {x : Float} (h₀ : 0 ≤ x) (h : x ≤ 10) : roundUp x ≤ 10 := by
  have hle := nearestNat_mul_le h₀ h
  unfold roundUp
  generalize nearestNat (x * 100000) = n at hle
  dsimp only
  split
  · rename_i hwhole
    exact parts_le_ten hle hwhole
  · exact tenths_le_ten (by omega)

/-- What is cut off at ten is rounded up to ten at most. A sum that is NaN is cut off as well. -/
theorem roundUp_cutOff_le_ten {total : Float} (h : total < 10 → 0 ≤ total) :
    roundUp (if total < 10 then total else 10) ≤ 10 := by
  by_cases hlt : total < 10
  · rw [if_pos hlt]
    exact roundUp_le_ten (h hlt) (Number.le_of_lt hlt)
  · rw [if_neg hlt]
    exact roundUp_le_ten (by decide) (by decide)

/-- The sum that a score is made of is not negative if the impact is not. -/
theorem zero_le_total {impact exploitability : Float} (hpos : ¬ impact ≤ 0) (hexploitability : 0 ≤ exploitability)
    (changed : Bool)
    (hnan : (if changed then 1.08 * (impact + exploitability) else impact + exploitability).isNaN = false) :
    0 ≤ if changed then 1.08 * (impact + exploitability) else impact + exploitability := by
  have himpact : impact.isNaN = false := by
    by_contra hnot
    have hsum := isNaN_add_left (Bool.eq_true_of_not_eq_false hnot) exploitability
    cases changed with
    | true => exact Bool.false_ne_true (hnan.symm.trans (isNaN_mul_right hsum 1.08))
    | false => exact Bool.false_ne_true (hnan.symm.trans hsum)
  have hsum := zero_le_add (zero_le_of_not_le himpact hpos) hexploitability
  exact zero_le_ite _ (zero_le_mul_left (by decide) hsum) hsum

theorem isPositive_vectorWeight3 (value : String) : isPositive (vectorWeight3 value) = true := by
  unfold vectorWeight3
  split_ifs <;> decide

theorem isPositive_privilegeWeight3 (changed : Bool) (value : String) :
    isPositive (privilegeWeight3 changed value) = true := by
  unfold privilegeWeight3
  split_ifs <;> decide

theorem score3_le_ten (power : Float → Float) (ms : Metrics) : score3 power ms ≤ 10 := by
  unfold score3
  extract_lets changed iss impact ac ui exploitability
  by_cases hpos : impact ≤ 0
  · rw [if_pos hpos]
    decide
  · rw [if_neg hpos]
    refine roundUp_cutOff_le_ten fun hlt => zero_le_total hpos ?_ changed (isNaN_of_lt hlt).1
    have hbase : 0 ≤ (8.22 : Float) := by decide
    refine zero_le_mul_right (zero_le_mul_right (zero_le_mul_right (zero_le_mul_right hbase ?_) ?_) ?_) ?_
    · exact isPositive_vectorWeight3 _
    · unfold ac
      split <;> decide
    · exact isPositive_privilegeWeight3 _ _
    · unfold ui
      split <;> decide

/-! ## Version 2 -/

/-- The weights that the impact values of version 2 may have. -/
def impactWeights2 : List Float := [0, 0.275, 0.66]

/-- The impacts of version 2, before any repetition is left out. -/
def impacts2 : List Float :=
  impactWeights2.flatMap fun c => impactWeights2.flatMap fun i => impactWeights2.map fun a =>
    10.41 * (1 - (1 - c) * (1 - i) * (1 - a))

def exploitabilities2 : List Float :=
  [0.395, 0.646, 1].flatMap fun av => [0.71, 0.61, 0.35].flatMap fun ac =>
    [0.45, 0.56, 0.704].map fun au => 20 * av * ac * au

theorem impactWeight2_mem (value : String) : impactWeight2 value ∈ impactWeights2 := by
  unfold impactWeight2 impactWeights2
  split
  · simp
  · split <;> simp

def isZero (x : Float) : Bool :=
  match x.toModel.unpack with
  | .zero _ => true
  | _ => false

theorem tame_of_isZero {x : Float} (h : isZero x = true) : Tame x.toModel.unpack ∧ amount x = 0 := by
  unfold isZero at h
  split at h
  · rename_i hu
    rw [amount, hu]
    exact ⟨tame_zero _, rfl⟩
  · cases h

/-- Without any impact the score is zero. Otherwise the impact outweighs what is taken off. -/
theorem shares_bounds :
    (∀ p ∈ impacts2.dedup, (p == 0) = true → ∀ q ∈ exploitabilities2,
      isZero ((0.6 * p + 0.4 * q - 1.5) * 0 * 10) = true) ∧
    (∀ x ∈ (impacts2.dedup.filter fun p => !(p == 0)).map (0.6 * ·), 1.625 ≤ x ∧ x ≤ 6.03125) ∧
    ∀ y ∈ exploitabilities2.map (0.4 * ·), 0 ≤ y ∧ y ≤ 4 := by
  decide +kernel

theorem amount_four : amount 4 = 4 := amount_eq (m := 4503599627370496) (e := -50) rfl (by norm_num)

theorem amount_leastImpact : amount 1.625 = 13 / 8 := amount_eq (m := 7318349394477056) (e := -52) rfl (by norm_num)

theorem amount_greatestImpact : amount 6.03125 = 193 / 32 :=
  amount_eq (m := 6790583813144576) (e := -50) rfl (by norm_num)

theorem amount_takenOff : amount 1.5 = 3 / 2 := amount_eq (m := 6755399441055744) (e := -52) rfl (by norm_num)

theorem amount_factor : amount 1.176 = 5296233161787703 / 2 ^ 52 :=
  amount_eq (m := 5296233161787703) (e := -52) rfl (by norm_num)

/-- The sum of the shares, less what is taken off, is between zero and a little over eight and a half. -/
theorem unscaled_bounds {x y : Float} (hx : x ∈ (impacts2.dedup.filter fun p => !(p == 0)).map (0.6 * ·))
    (hy : y ∈ exploitabilities2.map (0.4 * ·)) :
    Tame (x + y - 1.5).toModel.unpack ∧ amount (x + y - 1.5) ≤ 8.54 := by
  obtain ⟨hxlow, hxhigh⟩ := shares_bounds.2.1 x hx
  obtain ⟨hylow, hyhigh⟩ := shares_bounds.2.2 y hy
  have hxtame := tame_of_le (le_of_le_of_le (by decide) hxlow) (tame_iff.2 (by decide)) hxhigh
  have hytame := tame_of_le hylow (tame_iff.2 (by decide)) hyhigh
  have hxlow := amount_le_of_le (tame_iff.2 (by decide)) hxtame hxlow
  have hxhigh := amount_le_of_le hxtame (tame_iff.2 (by decide)) hxhigh
  have hyhigh := amount_le_of_le hytame (tame_iff.2 (by decide)) hyhigh
  have hylow := amount_nonneg y
  rw [amount_leastImpact] at hxlow
  rw [amount_greatestImpact] at hxhigh
  rw [amount_four] at hyhigh
  have hsmall : (2 : ℚ) ^ ((4 : Int) - 51) ≤ 1 / 1000 := by norm_num
  have hsum : Near 4 (amount x + amount y) (x + y).toModel.unpack :=
    amount_add hxtame hytame (by decide) (by decide) (lt_of_le_of_lt (add_le_add hxhigh hyhigh) (by norm_num))
  have hsumlow : 3 / 2 ≤ amount (x + y) := le_trans (by linarith) hsum.le_amount
  have hsumhigh : amount (x + y) ≤ 10.033 := hsum.amount_le.trans (by linarith)
  have hdifference : Near 4 (amount (x + y) - amount 1.5) (x + y - 1.5).toModel.unpack := by
    refine amount_sub hsum.tame (by decide) (by decide) (by decide) ?_ ?_
    · rw [amount_takenOff]
      exact hsumlow
    · rw [amount_takenOff]
      exact lt_of_le_of_lt (sub_le_sub_right hsumhigh _) (by norm_num)
  refine ⟨hdifference.tame, hdifference.amount_le.trans ?_⟩
  rw [amount_takenOff]
  linarith

/-- What a score of version 2 is rounded from is between zero and a little over a hundred. -/
theorem scaled_bounds {p q : Float} (hp : p ∈ impacts2) (hq : q ∈ exploitabilities2) :
    Tame ((0.6 * p + 0.4 * q - 1.5) * (if p == 0 then 0 else 1.176) * 10).toModel.unpack ∧
      amount ((0.6 * p + 0.4 * q - 1.5) * (if p == 0 then 0 else 1.176) * 10) < (100 : Nat) + 1 / 2 := by
  have hp : p ∈ impacts2.dedup := List.mem_dedup.2 hp
  split
  · rename_i hzero
    obtain ⟨htame, hamount⟩ := tame_of_isZero (shares_bounds.1 p hp hzero q hq)
    exact ⟨htame, by rw [hamount]; norm_num⟩
  · rename_i hpos
    have hp : p ∈ impacts2.dedup.filter fun p => !(p == 0) := by simpa [hp] using hpos
    obtain ⟨htame, hhigh⟩ := unscaled_bounds (List.mem_map_of_mem hp) (List.mem_map_of_mem hq)
    have hlow := amount_nonneg (0.6 * p + 0.4 * q - 1.5)
    have hproduct : amount (0.6 * p + 0.4 * q - 1.5) * amount 1.176 ≤ 10.044 := by
      rw [amount_factor]
      linarith
    have hscaled : Near 4 (amount (0.6 * p + 0.4 * q - 1.5) * amount 1.176) _ :=
      amount_mul htame (tame_iff.2 (by decide)) (.inr (by decide)) (by decide) (by decide)
        (hproduct.trans_lt (by norm_num))
    have hsmall : (2 : ℚ) ^ ((4 : Int) - 51) ≤ 1 / 1000 := by norm_num
    have hscaledhigh : amount ((0.6 * p + 0.4 * q - 1.5) * 1.176) ≤ 10.045 := hscaled.amount_le.trans (by linarith)
    have hten : Near 7 (amount ((0.6 * p + 0.4 * q - 1.5) * 1.176) * amount 10) _ :=
      amount_mul hscaled.tame tame_ten (.inr (by decide)) (by decide) (by decide)
        (by rw [amount_ten]; exact lt_of_le_of_lt (mul_le_mul_of_nonneg_right hscaledhigh (by norm_num)) (by norm_num))
    have hsmall' : (2 : ℚ) ^ ((7 : Int) - 51) ≤ 1 / 1000 := by norm_num
    refine ⟨hten.tame, hten.amount_le.trans_lt ?_⟩
    rw [amount_ten]
    push_cast
    linarith

theorem round_bounds {p q : Float} (hp : p ∈ impacts2) (hq : q ∈ exploitabilities2) :
    0 ≤ Number.round ((0.6 * p + 0.4 * q - 1.5) * (if p == 0 then 0 else 1.176) * 10) / 10 ∧
      Number.round ((0.6 * p + 0.4 * q - 1.5) * (if p == 0 then 0 else 1.176) * 10) / 10 ≤ 10 := by
  obtain ⟨htame, hamount⟩ := scaled_bounds hp hq
  constructor
  · exact zero_le_div (zero_le_round (tame_iff.1 htame).1) (by decide)
  · rcases exists_round htame (by decide) hamount with ⟨n, hn, hround⟩ | hround
    · rw [hround]
      exact tenths_le_ten (by omega)
    · rw [hround]
      decide

theorem score2_bounds (ms : Metrics) : 0 ≤ score2 ms ∧ score2 ms ≤ 10 := by
  refine round_bounds ?_ ?_
  · simp only [impacts2, List.mem_flatMap, List.mem_map]
    exact ⟨_, impactWeight2_mem _, _, impactWeight2_mem _, _, impactWeight2_mem _, rfl⟩
  · simp only [exploitabilities2, List.mem_flatMap, List.mem_map]
    refine ⟨_, ?_, _, ?_, _, ?_, rfl⟩
    · split
      · simp
      · split <;> simp
    · split
      · simp
      · split <;> simp
    · split
      · simp
      · split <;> simp

/-! ## Any version -/

/-- **A base score lies between zero and ten.** -/
theorem score?_bounds {vector : String} {x : Float} (h : score? vector = some x) : 0 ≤ x ∧ x ≤ 10 := by
  unfold score? scoreChars? at h
  dsimp only at h
  split at h
  · obtain ⟨body, -, h⟩ := Option.bind_eq_some_iff.1 h
    obtain ⟨ms, -, rfl⟩ := Option.map_eq_some_iff.1 h
    exact ⟨zero_le_score3 power31 ms, score3_le_ten power31 ms⟩
  split at h
  · obtain ⟨body, -, h⟩ := Option.bind_eq_some_iff.1 h
    obtain ⟨ms, -, rfl⟩ := Option.map_eq_some_iff.1 h
    exact ⟨zero_le_score3 power30 ms, score3_le_ten power30 ms⟩
  split at h
  · obtain ⟨ms, -, rfl⟩ := Option.map_eq_some_iff.1 h
    exact score2_bounds ms
  · cases h

theorem zero_le_of_score? {vector : String} {x : Float} (h : score? vector = some x) : 0 ≤ x := (score?_bounds h).1

end Triage.Cvss
