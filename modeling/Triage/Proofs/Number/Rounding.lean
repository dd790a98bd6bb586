import Mathlib
import Triage.Proofs.Number.Finite

/-!
# Doubles as rational numbers

A finite double stands for a rational number (`amount`). Among doubles that are not negative the order is that of the
amounts (`lt_of_amount_lt`). Sums and products are rounded: an exact result below `2 ^ k` is missed by `2 ^ (k - 51)` at
most (`amount_add`, `amount_mul`), and a quotient is at most that much too large (`amount_div`).
-/
namespace Triage.Number

open Float.Model Float.Model.UnpackedFloat

/-! ## Mantissas and exponents of doubles -/

/-- The worth of a double, and zero if it is not finite. -/
def worth : UnpackedFloat → ℚ
  | .finite _ m e _ => m * 2 ^ e
  | _ => 0

/-- The mantissa and the exponent are those of a double: the mantissa fills its bits, or the exponent is the least. -/
structure Canonical (m : Nat) (e : Int) : Prop where
  lt : m < 2 ^ 53
  full : 2 ^ 52 ≤ m ∨ e = -1074
  least : -1074 ≤ e

theorem toNat_one_append (f : BitVec 52) : (1#1 ++ f).toNat = 2 ^ 52 + f.toNat := by
  rw [BitVec.toNat_append, ← Nat.shiftLeft_add_eq_or_of_lt f.isLt]
  rfl

theorem canonical_of_unpack {b : BitVec 64} {s : Sign} {m : Nat} {e : Int} {hm : 0 < m}
    (h : UnpackedFloat.unpack .binary64 b = .finite s m e hm) : Canonical m e := by
  unfold UnpackedFloat.unpack at h
  dsimp only at h
  have hbias : ((Format.exponentBias .binary64 : Nat) : Int) + (52 : Nat) = 1075 := rfl
  have hlt : (@unpackMantissa .binary64 b).toNat < 2 ^ 52 := (@unpackMantissa .binary64 b).isLt
  rw [hbias] at h
  split at h
  · split at h <;> cases h
  · split at h
    · rename_i hlow
      split at h
      · cases h
      · cases h
        have hzero : (@unpackExponent .binary64 b).toNat = 0 := congrArg BitVec.toNat hlow
        exact ⟨by omega, .inr (by omega), by omega⟩
    · rename_i hlow
      cases h
      have hpos : (@unpackExponent .binary64 b).toNat ≠ 0 := fun hzero => hlow (BitVec.toNat_inj.1 hzero)
      have hfull := toNat_one_append (@unpackMantissa .binary64 b)
      exact ⟨by omega, .inl (by omega), by omega⟩

theorem unpack_of_exponent {e : BitVec 11} (hinf : e ≠ -1#11) (hlow : e ≠ 0#11) (f : BitVec 52) :
    UnpackedFloat.unpack .binary64 (packComponents .binary64 .positive e f) =
      .finite .positive (1#1 ++ f).toNat ((e.toNat : Int) - 1075) (by rw [toNat_one_append]; omega) := by
  unfold UnpackedFloat.unpack
  simp only [unpackMantissa_packComponents, unpackExponent_packComponents, unpackSign_packComponents]
  rw [if_neg hinf, if_neg hlow]
  rfl

theorem unpack_of_no_exponent {f : BitVec 52} (h : 0 < f.toNat) :
    UnpackedFloat.unpack .binary64 (packComponents .binary64 .positive 0#11 f) =
      .finite .positive f.toNat (-1074) h := by
  have hne : f ≠ 0#52 := fun heq => h.ne' (congrArg BitVec.toNat heq)
  unfold UnpackedFloat.unpack
  simp only [unpackMantissa_packComponents, unpackExponent_packComponents, unpackSign_packComponents]
  rw [if_neg (by decide), if_pos trivial, dif_neg hne]
  rfl

theorem finite_congr {s : Sign} {m m' : Nat} {e e' : Int} {h : 0 < m} {h' : 0 < m'} (hm : m = m') (he : e = e') :
    UnpackedFloat.finite s m e h = .finite s m' e' h' := by
  subst hm he
  rfl

/-- **A double comes back from its bits.** -/
theorem unpack_pack_of_canonical {m : Nat} {e : Int} (h : Canonical m e) (he : e ≤ 971) (hm : 0 < m) :
    UnpackedFloat.unpack .binary64 (UnpackedFloat.pack .binary64 (.finite .positive m e hm)) =
      .finite .positive m e hm := by
  have hlt := h.lt
  have hleast := h.least
  have hbiased : (e + (Format.exponentBias .binary64 : Nat) + (52 : Nat)).toNat = (e + 1075).toNat := by
    rw [add_assoc]
    rfl
  have hbits : Format.mantissaBits .binary64 = 53 := rfl
  simp only [UnpackedFloat.pack, hbiased, hbits]
  rw [if_neg (show ¬ 2 ^ 11 ≤ (e + 1075).toNat + 1 by omega)]
  have hmin : 2 ^ m.log2 ≤ m := Nat.log2_self_le hm.ne'
  split
  · rename_i hfull
    rw [show m.log2 = 52 by omega] at hmin
    have hexponent : (BitVec.ofNat 11 (e + 1075).toNat).toNat = (e + 1075).toNat := by
      rw [BitVec.toNat_ofNat, Nat.mod_eq_of_lt (by omega)]
    have hne {e' : BitVec 11} (h : (e + 1075).toNat ≠ e'.toNat) : BitVec.ofNat 11 (e + 1075).toNat ≠ e' :=
      fun heq => h (hexponent.symm.trans (congrArg BitVec.toNat heq))
    have hmax : (-1#11).toNat = 2047 := rfl
    have hzero : (0#11).toNat = 0 := rfl
    rw [unpack_of_exponent (hne (by omega)) (hne (by omega))]
    refine finite_congr ?_ (by omega)
    rw [toNat_one_append, BitVec.toNat_ofNat]
    omega
  · rename_i hnot
    have hsmall : m < 2 ^ 52 := by
      by_contra hge
      have hlog : m.log2 = 52 := (Nat.log2_eq_iff hm.ne').2 ⟨not_lt.1 hge, hlt⟩
      omega
    have hmod : (BitVec.ofNat 52 m).toNat = m := by rw [BitVec.toNat_ofNat, Nat.mod_eq_of_lt hsmall]
    rw [unpack_of_no_exponent (hmod.symm ▸ hm)]
    exact finite_congr hmod (h.full.resolve_left (not_le.2 hsmall)).symm

/-! ## Rounding -/

theorem mantissa_shiftRight (em : ExtendedMantissa) (n : Nat) : (em >>> n).mantissa = em.mantissa / 2 ^ n := by
  show (n.repeat ExtendedMantissa.shiftRightOne em).mantissa = _
  induction n with
  | zero => simp [Nat.repeat]
  | succ n ih =>
    rw [Nat.repeat, ExtendedMantissa.shiftRightOne, ih, Nat.div_div_eq_div_mul, Nat.pow_succ]

theorem mantissa_le_roundedMantissa (em : ExtendedMantissa) :
    em.mantissa ≤ em.roundedMantissa ∧ em.roundedMantissa ≤ em.mantissa + 1 := by
  unfold ExtendedMantissa.roundedMantissa Accuracy.roundToNearestEven
  split <;> omega

theorem mantissa_ofMantissaAndAccuracy (m : Nat) (acc : Accuracy) :
    (ExtendedMantissa.ofMantissaAndAccuracy m acc).mantissa = m := by
  rcases acc with _ | _ | _ | _ <;> rfl

/-- The mantissa that rounding leads to, before it is shifted once more. What was cut off before is known by `acc`. -/
def roundedOnce (acc : Accuracy) (m : Nat) (e : Int) : Nat :=
  (ExtendedMantissa.ofMantissaAndAccuracy m acc >>>
    (Format.targetExponent .binary64 (totalExponent m e) - e).toNat).roundedMantissa

/-- The exponent that the first of two shifts leads to, if that is not below the one there is. -/
def exponentOnce (m : Nat) (e : Int) : Int := Format.targetExponent .binary64 (totalExponent m e)

section Rounding

variable {m : Nat} {e : Int} (acc : Accuracy)

theorem roundedOnce_bounds (he : e ≤ exponentOnce m e) :
    ((roundedOnce acc m e : ℚ) * 2 ^ exponentOnce m e ≤ m * 2 ^ e + 2 ^ exponentOnce m e) ∧
      (m : ℚ) * 2 ^ e ≤ roundedOnce acc m e * 2 ^ exponentOnce m e + 2 ^ exponentOnce m e := by
  obtain ⟨s, hs⟩ := Int.le.dest he
  have hshift : (Format.targetExponent .binary64 (totalExponent m e) - e).toNat = s := by
    show (exponentOnce m e - e).toNat = s
    omega
  have hbounds := mantissa_le_roundedMantissa
    (ExtendedMantissa.ofMantissaAndAccuracy m acc >>> s)
  rw [mantissa_shiftRight, mantissa_ofMantissaAndAccuracy] at hbounds
  have hr : roundedOnce acc m e = (ExtendedMantissa.ofMantissaAndAccuracy m acc >>> s).roundedMantissa := by
    rw [roundedOnce, hshift]
  rw [← hr] at hbounds
  have hmod := Nat.mod_lt m (Nat.two_pow_pos s)
  have hdiv := Nat.div_mul_le_self m (2 ^ s)
  have hdiv' := Nat.div_add_mod' m (2 ^ s)
  have hupper : roundedOnce acc m e * 2 ^ s ≤ (m / 2 ^ s + 1) * 2 ^ s := Nat.mul_le_mul_right _ hbounds.2
  have hlower : m / 2 ^ s * 2 ^ s ≤ roundedOnce acc m e * 2 ^ s := Nat.mul_le_mul_right _ hbounds.1
  rw [Nat.add_mul, Nat.one_mul] at hupper
  have hupper : roundedOnce acc m e * 2 ^ s ≤ m + 2 ^ s := by omega
  have hlower : m ≤ roundedOnce acc m e * 2 ^ s + 2 ^ s := by omega
  have hpos : (0 : ℚ) ≤ 2 ^ e := zpow_nonneg (by norm_num) e
  have hpow : (2 : ℚ) ^ exponentOnce m e = 2 ^ s * 2 ^ e := by
    rw [← hs, zpow_add₀ (by norm_num), zpow_natCast, mul_comm]
  have hupper : (roundedOnce acc m e : ℚ) * 2 ^ s ≤ m + 2 ^ s := by exact_mod_cast hupper
  have hlower : (m : ℚ) ≤ roundedOnce acc m e * 2 ^ s + 2 ^ s := by exact_mod_cast hlower
  rw [hpow]
  constructor
  · nlinarith [mul_le_mul_of_nonneg_right hupper hpos]
  · nlinarith [mul_le_mul_of_nonneg_right hlower hpos]

/-- The least exponent, or one for which the mantissa fills its bits. -/
theorem exponentOnce_eq (m : Nat) (e : Int) : exponentOnce m e = max (m.log2 + 1 + e - 53) (-1074) := rfl

/-- The exponent and the mantissa after the second shift, which is needed if rounding has led to one more bit. -/
def exponentTwice (acc : Accuracy) (m : Nat) (e : Int) : Int := exponentOnce (roundedOnce acc m e) (exponentOnce m e)

@[inherit_doc exponentTwice]
def roundedTwice (acc : Accuracy) (m : Nat) (e : Int) : Nat :=
  roundedOnce acc m e / 2 ^ (exponentTwice acc m e - exponentOnce m e).toNat

theorem exponentOnce_le_exponentTwice (he : e ≤ exponentOnce m e) : exponentOnce m e ≤ exponentTwice acc m e := by
  by_cases hleast : exponentOnce m e = -1074
  · rw [hleast, exponentTwice, exponentOnce_eq]
    exact le_max_right _ _
  · -- The first shift leaves all bits of the mantissa in use, and rounding does not lead below.
    obtain ⟨s, hs⟩ := Int.le.dest he
    have hlog : m.log2 = 52 + s := by
      rw [exponentOnce_eq] at hs hleast
      omega
    have hm : m ≠ 0 := by
      rintro rfl
      rw [Nat.log2_zero] at hlog
      omega
    have hdiv : 2 ^ 52 ≤ m / 2 ^ s := by
      rw [Nat.le_div_iff_mul_le (Nat.two_pow_pos s), ← Nat.pow_add, ← hlog]
      exact Nat.log2_self_le hm
    have hr : 2 ^ 52 ≤ roundedOnce acc m e := by
      refine hdiv.trans ?_
      have hshift : (Format.targetExponent .binary64 (totalExponent m e) - e).toNat = s := by
        show (exponentOnce m e - e).toNat = s
        omega
      rw [roundedOnce, hshift]
      refine le_trans (le_of_eq ?_) (mantissa_le_roundedMantissa _).1
      rw [mantissa_shiftRight, mantissa_ofMantissaAndAccuracy]
    have hlog' : 52 ≤ (roundedOnce acc m e).log2 := (Nat.le_log2 (by omega)).2 hr
    rw [exponentTwice, exponentOnce_eq (roundedOnce acc m e)]
    omega

theorem roundWithAccuracy_eq (he : e ≤ exponentOnce m e) :
    roundWithAccuracy .binary64 .positive m e acc =
      if h : roundedTwice acc m e = 0 then .zero .positive
      else .finite .positive (roundedTwice acc m e) (exponentTwice acc m e) (Nat.pos_of_ne_zero h) := by
  have hfirst : e + (exponentOnce m e - e).toNat = exponentOnce m e := by omega
  have htwice := exponentOnce_le_exponentTwice acc he
  have hsecond : exponentOnce m e + (exponentTwice acc m e - exponentOnce m e).toNat = exponentTwice acc m e := by omega
  have hshift : shiftToTargetExponent .binary64 m e acc =
      (ExtendedMantissa.ofMantissaAndAccuracy m acc >>> (exponentOnce m e - e).toNat, exponentOnce m e) :=
    Prod.ext rfl hfirst
  have hshift' : shiftToTargetExponent .binary64 (roundedOnce acc m e) (exponentOnce m e) .exact =
      (ExtendedMantissa.ofMantissaAndAccuracy (roundedOnce acc m e) .exact >>>
        (exponentTwice acc m e - exponentOnce m e).toNat, exponentTwice acc m e) :=
    Prod.ext rfl hsecond
  have hrounded : (ExtendedMantissa.ofMantissaAndAccuracy m acc >>>
      (exponentOnce m e - e).toNat).roundedMantissa = roundedOnce acc m e := rfl
  unfold roundWithAccuracy
  simp only [hshift, hrounded, hshift', mantissa_shiftRight]
  rfl

theorem canonical_roundedTwice (hne : roundedTwice acc m e ≠ 0) (he : e ≤ exponentOnce m e) :
    Canonical (roundedTwice acc m e) (exponentTwice acc m e) := by
  obtain ⟨s, hs⟩ := Int.le.dest (exponentOnce_le_exponentTwice acc he)
  have hshift : (exponentTwice acc m e - exponentOnce m e).toNat = s := by omega
  have hr : roundedOnce acc m e ≠ 0 := by
    intro hzero
    rw [roundedTwice, hzero, Nat.zero_div] at hne
    exact hne rfl
  have htwice := exponentOnce_eq (roundedOnce acc m e) (exponentOnce m e)
  rw [← exponentTwice] at htwice
  have hlog : (roundedOnce acc m e).log2 + 1 ≤ 53 + s := by omega
  refine ⟨?_, ?_, by omega⟩
  · rw [roundedTwice, hshift, Nat.div_lt_iff_lt_mul (Nat.two_pow_pos s), ← Nat.pow_add]
    exact Nat.lt_log2_self.trans_le (Nat.pow_le_pow_right (by decide) hlog)
  · by_cases hleast : exponentTwice acc m e = -1074
    · exact .inr hleast
    · refine .inl ?_
      rw [roundedTwice, hshift, Nat.le_div_iff_mul_le (Nat.two_pow_pos s), ← Nat.pow_add,
        show 52 + s = (roundedOnce acc m e).log2 by omega]
      exact Nat.log2_self_le hr

theorem roundedTwice_bounds (he : e ≤ exponentOnce m e) :
    ((roundedTwice acc m e : ℚ) * 2 ^ exponentTwice acc m e ≤ roundedOnce acc m e * 2 ^ exponentOnce m e) ∧
      (roundedOnce acc m e : ℚ) * 2 ^ exponentOnce m e ≤
        roundedTwice acc m e * 2 ^ exponentTwice acc m e + 2 ^ exponentTwice acc m e := by
  obtain ⟨s, hs⟩ := Int.le.dest (exponentOnce_le_exponentTwice acc he)
  have hshift : (exponentTwice acc m e - exponentOnce m e).toNat = s := by omega
  have hpos : (0 : ℚ) ≤ 2 ^ exponentOnce m e := zpow_nonneg (by norm_num) _
  have hpow : (2 : ℚ) ^ exponentTwice acc m e = 2 ^ s * 2 ^ exponentOnce m e := by
    rw [← hs, zpow_add₀ (by norm_num), zpow_natCast, mul_comm]
  have hf : roundedTwice acc m e = roundedOnce acc m e / 2 ^ s := by rw [roundedTwice, hshift]
  have hmod := Nat.mod_lt (roundedOnce acc m e) (Nat.two_pow_pos s)
  have hdiv := Nat.div_add_mod' (roundedOnce acc m e) (2 ^ s)
  rw [← hf] at hdiv
  have hupper : (roundedTwice acc m e : ℚ) * 2 ^ s ≤ roundedOnce acc m e := by exact_mod_cast (by omega)
  have hlower : (roundedOnce acc m e : ℚ) ≤ roundedTwice acc m e * 2 ^ s + 2 ^ s := by exact_mod_cast (by omega)
  rw [hpow]
  constructor
  · nlinarith [mul_le_mul_of_nonneg_right hupper hpos]
  · nlinarith [mul_le_mul_of_nonneg_right hlower hpos]

/-- What lies below a power of two has a small exponent. -/
theorem exponentOnce_le {k : Int} (he : e ≤ exponentOnce m e) (hk : -1021 ≤ k) (h : (m : ℚ) * 2 ^ e < 2 ^ k) :
    exponentOnce m e ≤ k - 53 := by
  by_cases hm : m = 0
  · subst hm
    rw [exponentOnce_eq, Nat.log2_zero] at he ⊢
    omega
  · have hlog : (2 : ℚ) ^ m.log2 ≤ m := by exact_mod_cast Nat.log2_self_le hm
    have hpos : (0 : ℚ) < 2 ^ e := zpow_pos (by norm_num) e
    have hlt : (2 : ℚ) ^ ((m.log2 : Int) + e) < 2 ^ k := by
      rw [zpow_add₀ (by norm_num), zpow_natCast]
      exact (mul_le_mul_of_nonneg_right hlog hpos.le).trans_lt h
    have hexponent := (zpow_lt_zpow_iff_right₀ (by norm_num : (1 : ℚ) < 2)).1 hlt
    rw [exponentOnce_eq]
    omega

theorem exponentTwice_le {k : Int} (he : e ≤ exponentOnce m e) (hk : -1021 ≤ k) (h : (m : ℚ) * 2 ^ e < 2 ^ k) :
    exponentTwice acc m e ≤ k - 52 := by
  have honce := exponentOnce_le he hk h
  have hpow : (2 : ℚ) ^ exponentOnce m e ≤ 2 ^ k := zpow_le_zpow_right₀ (by norm_num) (by omega)
  have hlt : (roundedOnce acc m e : ℚ) * 2 ^ exponentOnce m e < 2 ^ (k + 1) := by
    rw [zpow_add_one₀ (by norm_num)]
    linarith [(roundedOnce_bounds acc he).1]
  have htwice := exponentOnce_le (exponentOnce_le_exponentTwice acc he) (by omega) hlt
  rw [exponentTwice]
  omega

/-- What is left after both shifts is close to what there was. -/
theorem roundedTwice_error {k : Int} (he : e ≤ exponentOnce m e) (hk : -1021 ≤ k)
    (h : (m : ℚ) * 2 ^ e < 2 ^ k) :
    |(roundedTwice acc m e : ℚ) * 2 ^ exponentTwice acc m e - m * 2 ^ e| ≤ 2 ^ (k - 51) := by
  have hdouble (j : Int) : (2 : ℚ) ^ (j + 1) = 2 ^ j * 2 := zpow_add_one₀ (by norm_num) j
  have honce : (2 : ℚ) ^ exponentOnce m e ≤ 2 ^ (k - 53) :=
    zpow_le_zpow_right₀ (by norm_num) (exponentOnce_le he hk h)
  have htwice : (2 : ℚ) ^ exponentTwice acc m e ≤ 2 ^ (k - 52) :=
    zpow_le_zpow_right₀ (by norm_num) (exponentTwice_le acc he hk h)
  have hpos : (0 : ℚ) < 2 ^ (k - 53) := zpow_pos (by norm_num) _
  have h52 := hdouble (k - 53)
  have h51 := hdouble (k - 52)
  rw [show k - 53 + 1 = k - 52 by ring] at h52
  rw [show k - 52 + 1 = k - 51 by ring] at h51
  obtain ⟨hupper, hlower⟩ := roundedOnce_bounds acc he
  obtain ⟨hupper', hlower'⟩ := roundedTwice_bounds acc he
  rw [abs_le]
  constructor <;> linarith

end Rounding

/-- A double that is zero or above, and below infinity. -/
structure Tame (u : UnpackedFloat) : Prop where
  nonNeg : NonNeg u
  finite : u.isFinite = true

theorem tame_zero (s : Sign) : Tame (.zero s) := ⟨trivial, rfl⟩

theorem tame_finite {m : Nat} {e : Int} (h : 0 < m) : Tame (.finite .positive m e h) := ⟨trivial, rfl⟩

theorem Tame.cases {u : UnpackedFloat} (h : Tame u) :
    (∃ s, u = .zero s) ∨ ∃ m e hm, u = .finite .positive m e hm := by
  obtain ⟨hnonNeg, hfinite⟩ := h
  rcases u with _ | _ | s | ⟨_ | _, m, e, hm⟩
  · cases hfinite
  · cases hfinite
  · exact .inl ⟨s, rfl⟩
  · cases hnonNeg
  · exact .inr ⟨m, e, hm, rfl⟩

/-- The double that is stored as the result of an operation. -/
def stored (u : UnpackedFloat) : UnpackedFloat :=
  UnpackedFloat.unpack .binary64 (UnpackedFloat.pack .binary64 u)

theorem stored_zero (s : Sign) : stored (.zero s) = .zero s := by cases s <;> rfl

/-- The result `u` is a double that is not negative, and it misses the number `q` below `2 ^ k` by little. -/
structure Near (k : Int) (q : ℚ) (u : UnpackedFloat) : Prop where
  tame : Tame u
  error : |worth u - q| ≤ 2 ^ (k - 51)

/-- **Rounding misses a number by little.** -/
theorem near_roundWithAccuracy {m : Nat} {e k : Int} {acc : Accuracy} (he : e ≤ exponentOnce m e) (hk : -1021 ≤ k)
    (hk' : k ≤ 1023) (h : (m : ℚ) * 2 ^ e < 2 ^ k) :
    Near k (m * 2 ^ e) (stored (roundWithAccuracy .binary64 .positive m e acc)) := by
  have herror := roundedTwice_error acc he hk h
  have htwice := exponentTwice_le acc he hk h
  rw [roundWithAccuracy_eq acc he]
  split
  · rename_i hzero
    rw [hzero, Nat.cast_zero, zero_mul] at herror
    rw [stored_zero]
    exact ⟨tame_zero _, herror⟩
  · rename_i hne
    rw [stored, unpack_pack_of_canonical (canonical_roundedTwice acc hne he) (by omega)]
    exact ⟨tame_finite _, herror⟩

/-! ## Products, quotients and sums -/

/-- A product, if its mantissa has enough bits. -/
theorem near_mul {m₁ m₂ : Nat} {e₁ e₂ k : Int} (h₁ : 0 < m₁) (h₂ : 0 < m₂) (hfull : 2 ^ 52 ≤ m₁ * m₂) (hk : -1021 ≤ k)
    (hk' : k ≤ 1023) (h : ((m₁ : ℚ) * 2 ^ e₁) * (m₂ * 2 ^ e₂) < 2 ^ k) :
    Near k ((m₁ * 2 ^ e₁) * (m₂ * 2 ^ e₂)) (stored (UnpackedFloat.mul .binary64 (.finite .positive m₁ e₁ h₁)
      (.finite .positive m₂ e₂ h₂))) := by
  have hproduct : ((m₁ : ℚ) * 2 ^ e₁) * (m₂ * 2 ^ e₂) = (m₁ * m₂ : Nat) * 2 ^ (e₁ + e₂) := by
    rw [zpow_add₀ (by norm_num), Nat.cast_mul]
    ring
  have hne : m₁ * m₂ ≠ 0 := (Nat.mul_pos h₁ h₂).ne'
  have hlog : 52 ≤ (m₁ * m₂).log2 := (Nat.le_log2 hne).2 hfull
  rw [hproduct] at h ⊢
  refine near_roundWithAccuracy ?_ hk hk' h
  rw [exponentOnce_eq]
  omega

/-- The exponent that a quotient is worked out for is not above the one that it is rounded to. -/
theorem le_exponentOnce_div {m₁ m₂ : Nat} {e₁ e₂ e : Int} (h₁ : 0 < m₁) (h₂ : 0 < m₂) (hle : e ≤ e₁ - e₂)
    (he : e ≤ Format.targetExponent .binary64 (totalExponent m₁ e₁ - totalExponent m₂ e₂)) :
    e ≤ exponentOnce ((m₁ <<< (e₁ - e₂ - e).toNat) / m₂) e := by
  have he : e ≤ max ((m₁.log2 + 1 + e₁) - (m₂.log2 + 1 + e₂) - 53) (-1074) := he
  obtain ⟨s, hs⟩ := Int.le.dest hle
  have hshift : (e₁ - e₂ - e).toNat = s := by omega
  rw [exponentOnce_eq, hshift]
  by_cases hleast : e ≤ -1074
  · exact hleast.trans (le_max_right _ _)
  · -- The quotient has all the bits of a double.
    have hbits : 53 + m₂.log2 ≤ m₁.log2 + s := by omega
    have hfull : 2 ^ 52 ≤ (m₁ <<< s) / m₂ := by
      rw [Nat.le_div_iff_mul_le h₂, Nat.shiftLeft_eq]
      calc 2 ^ 52 * m₂ ≤ 2 ^ 52 * 2 ^ (m₂.log2 + 1) := Nat.mul_le_mul_left _ Nat.lt_log2_self.le
        _ = 2 ^ (53 + m₂.log2) := by rw [← Nat.pow_add]; congr 1; omega
        _ ≤ 2 ^ (m₁.log2 + s) := Nat.pow_le_pow_right (by decide) hbits
        _ = 2 ^ m₁.log2 * 2 ^ s := Nat.pow_add ..
        _ ≤ m₁ * 2 ^ s := Nat.mul_le_mul_right _ (Nat.log2_self_le h₁.ne')
    have hlog : 52 ≤ ((m₁ <<< s) / m₂).log2 := (Nat.le_log2 (by omega)).2 hfull
    omega

/-- A quotient: what it is rounded from has been cut off. -/
theorem near_div {m₁ m₂ : Nat} {e₁ e₂ k : Int} (h₁ : 0 < m₁) (h₂ : 0 < m₂) (hk : -1021 ≤ k) (hk' : k ≤ 1023)
    (h : (m₁ : ℚ) * 2 ^ e₁ / (m₂ * 2 ^ e₂) < 2 ^ k) :
    ∃ q ≤ (m₁ : ℚ) * 2 ^ e₁ / (m₂ * 2 ^ e₂), Near k q (stored (UnpackedFloat.div .binary64
      (.finite .positive m₁ e₁ h₁) (.finite .positive m₂ e₂ h₂))) := by
  let e := min (e₁ - e₂) (Format.targetExponent .binary64 (totalExponent m₁ e₁ - totalExponent m₂ e₂))
  let s := (e₁ - e₂ - e).toNat
  have hle : e ≤ e₁ - e₂ := min_le_left _ _
  have hs : e₁ = s + e + e₂ := by omega
  have hcut : ((m₁ <<< s / m₂ : Nat) : ℚ) * 2 ^ e ≤ m₁ * 2 ^ e₁ / (m₂ * 2 ^ e₂) := by
    have hm₂ : (0 : ℚ) < m₂ := by exact_mod_cast h₂
    have hdiv : m₁ <<< s / m₂ * m₂ ≤ m₁ * 2 ^ s := (Nat.div_mul_le_self _ m₂).trans_eq (Nat.shiftLeft_eq m₁ s)
    have hdiv : ((m₁ <<< s / m₂ : Nat) : ℚ) * m₂ ≤ m₁ * 2 ^ s := by exact_mod_cast hdiv
    have hpos : (0 : ℚ) ≤ 2 ^ e * 2 ^ e₂ := by positivity
    rw [le_div_iff₀ (by positivity), hs, zpow_add₀ (by norm_num), zpow_add₀ (by norm_num), zpow_natCast]
    nlinarith [mul_le_mul_of_nonneg_right hdiv hpos]
  have hround : UnpackedFloat.div .binary64 (.finite .positive m₁ e₁ h₁) (.finite .positive m₂ e₂ h₂) =
      roundWithAccuracy .binary64 .positive (m₁ <<< s / m₂) e (accuracyOfFraction (m₁ <<< s % m₂) m₂) := rfl
  rw [hround]
  exact ⟨_, hcut, near_roundWithAccuracy (le_exponentOnce_div h₁ h₂ hle (min_le_right _ _)) hk hk' (hcut.trans_lt h)⟩

theorem shiftLeft_mul_zpow (m s : Nat) (e : Int) : ((m <<< s : Nat) : ℚ) * 2 ^ (e - s) = m * 2 ^ e := by
  rw [Nat.shiftLeft_eq, Nat.cast_mul, zpow_sub₀ (by norm_num), zpow_natCast]
  push_cast
  field_simp

theorem log2_shiftLeft {m : Nat} (hm : m ≠ 0) (s : Nat) : (m <<< s).log2 = m.log2 + s := by
  have hpos := Nat.two_pow_pos s
  rw [Nat.log2_eq_iff (by rw [Nat.shiftLeft_eq]; positivity), Nat.shiftLeft_eq, Nat.pow_add,
    show m.log2 + s + 1 = m.log2 + 1 + s by ring, Nat.pow_add _ (m.log2 + 1)]
  exact ⟨Nat.mul_le_mul_right _ (Nat.log2_self_le hm), Nat.mul_lt_mul_of_pos_right Nat.lt_log2_self hpos⟩

/-- Mantissas may be extended by zeros before they are rounded. -/
theorem near_round {m : Nat} {e k : Int} (hm : m ≠ 0) (hk : -1021 ≤ k) (hk' : k ≤ 1023) (h : (m : ℚ) * 2 ^ e < 2 ^ k) :
    Near k (m * 2 ^ e) (stored (UnpackedFloat.round .binary64 .positive m e)) := by
  have hvalue := shiftLeft_mul_zpow m (e - exponentOnce m e).toNat e
  have hlog := log2_shiftLeft hm (e - exponentOnce m e).toNat
  rw [← hvalue] at h ⊢
  refine near_roundWithAccuracy ?_ hk hk' h
  have honce := exponentOnce_eq m e
  rw [exponentOnce_eq (m <<< _), hlog]
  omega

theorem near_of_tame {k : Int} {u : UnpackedFloat} (h : Tame u) : Near k (worth u) u := by
  refine ⟨h, ?_⟩
  rw [sub_self, abs_zero]
  positivity

theorem near_normalize {n : Nat} {e k : Int} (hk : -1021 ≤ k) (hk' : k ≤ 1023) (h : (n : ℚ) * 2 ^ e < 2 ^ k) :
    Near k (n * 2 ^ e) (stored (UnpackedFloat.normalize .binary64 n e .positive)) := by
  by_cases hn : n = 0
  · subst hn
    rw [Nat.cast_zero, zero_mul]
    show Near k (worth (.zero .positive)) (stored (.zero .positive))
    rw [stored_zero]
    exact near_of_tame (tame_zero _)
  · have hcompare : Ord.compare (n : Int) 0 = .gt := Int.compare_eq_gt.2 (Int.natCast_pos.2 (Nat.pos_of_ne_zero hn))
    rw [UnpackedFloat.normalize, hcompare]
    exact near_round hn hk hk' h

/-- A mantissa for a smaller exponent. -/
def aligned (m : Nat) (e e' : Int) : Nat := m <<< (e - e').toNat

theorem aligned_mul_zpow {e e' : Int} (h : e' ≤ e) (m : Nat) : (aligned m e e' : ℚ) * 2 ^ e' = m * 2 ^ e := by
  have hvalue := shiftLeft_mul_zpow m (e - e').toNat e
  rwa [show e - ((e - e').toNat : Int) = e' by omega] at hvalue

/-- A sum. -/
theorem near_add {m₁ m₂ : Nat} {e₁ e₂ k : Int} (h₁ : 0 < m₁) (h₂ : 0 < m₂) (hk : -1021 ≤ k) (hk' : k ≤ 1023)
    (h : (m₁ : ℚ) * 2 ^ e₁ + m₂ * 2 ^ e₂ < 2 ^ k) :
    Near k (m₁ * 2 ^ e₁ + m₂ * 2 ^ e₂) (stored (UnpackedFloat.add .binary64 (.finite .positive m₁ e₁ h₁)
      (.finite .positive m₂ e₂ h₂))) := by
  have hsum : (m₁ : ℚ) * 2 ^ e₁ + m₂ * 2 ^ e₂ =
      (aligned m₁ e₁ (min e₁ e₂) + aligned m₂ e₂ (min e₁ e₂) : Nat) * 2 ^ min e₁ e₂ := by
    rw [← aligned_mul_zpow (min_le_left e₁ e₂), ← aligned_mul_zpow (min_le_right e₁ e₂)]
    push_cast
    ring
  rw [hsum] at h ⊢
  exact near_normalize hk hk' h

/-- A difference that is not negative. -/
theorem near_sub {m₁ m₂ : Nat} {e₁ e₂ k : Int} (h₁ : 0 < m₁) (h₂ : 0 < m₂) (hk : -1021 ≤ k) (hk' : k ≤ 1023)
    (hle : (m₂ : ℚ) * 2 ^ e₂ ≤ m₁ * 2 ^ e₁) (h : (m₁ : ℚ) * 2 ^ e₁ - m₂ * 2 ^ e₂ < 2 ^ k) :
    Near k (m₁ * 2 ^ e₁ - m₂ * 2 ^ e₂) (stored (UnpackedFloat.sub .binary64 (.finite .positive m₁ e₁ h₁)
      (.finite .positive m₂ e₂ h₂))) := by
  have hvalue₁ := aligned_mul_zpow (min_le_left e₁ e₂) m₁
  have hvalue₂ := aligned_mul_zpow (min_le_right e₁ e₂) m₂
  have hpos : (0 : ℚ) < 2 ^ min e₁ e₂ := zpow_pos (by norm_num) _
  have hle : aligned m₂ e₂ (min e₁ e₂) ≤ aligned m₁ e₁ (min e₁ e₂) := by
    rw [← hvalue₁, ← hvalue₂] at hle
    exact_mod_cast le_of_mul_le_mul_right hle hpos
  have hdifference : (m₁ : ℚ) * 2 ^ e₁ - m₂ * 2 ^ e₂ =
      (aligned m₁ e₁ (min e₁ e₂) - aligned m₂ e₂ (min e₁ e₂) : Nat) * 2 ^ min e₁ e₂ := by
    rw [← hvalue₁, ← hvalue₂, Nat.cast_sub hle]
    ring
  rw [hdifference] at h ⊢
  have hnear := near_normalize hk hk' h
  have hcast : ((aligned m₁ e₁ (min e₁ e₂) - aligned m₂ e₂ (min e₁ e₂) : Nat) : Int) =
      aligned m₁ e₁ (min e₁ e₂) - aligned m₂ e₂ (min e₁ e₂) := Nat.cast_sub hle
  rw [hcast] at hnear
  exact hnear

/-! ## Doubles as they are computed with -/

/-- The number that a finite double stands for, without its sign. -/
def amount (x : Float) : ℚ := worth x.toModel.unpack

theorem amount_of_unpack {x : Float} {s : Sign} {m : Nat} {e : Int} {hm : 0 < m}
    (h : x.toModel.unpack = .finite s m e hm) : amount x = m * 2 ^ e := by
  rw [amount, h]
  rfl

/-- The number that a double with this mantissa and exponent stands for. -/
theorem amount_eq {x : Float} {m : Nat} {e : Int} {hm : 0 < m} {q : ℚ}
    (h : x.toModel.unpack = .finite .positive m e hm) (hq : (m : ℚ) * 2 ^ e = q) : amount x = q :=
  (amount_of_unpack h).trans hq

theorem amount_nonneg (x : Float) : 0 ≤ amount x := by
  unfold amount worth
  split
  · positivity
  · exact le_rfl

theorem tame_iff {x : Float} : Tame x.toModel.unpack ↔ 0 ≤ x ∧ isFinite x = true := by
  rw [zero_le_iff, isFinite_iff_unpack]
  exact ⟨fun h => ⟨h.1, h.2⟩, fun h => ⟨h.1, h.2⟩⟩

theorem Tame.isNaN {x : Float} (h : Tame x.toModel.unpack) : x.isNaN = false := isNaN_of_zero_le (tame_iff.1 h).1

/-- **Doubles are ordered by their amounts.** -/
theorem lt_of_amount_lt {x y : Float} (hx : Tame x.toModel.unpack) (hy : Tame y.toModel.unpack)
    (h : amount x < amount y) : x < y := by
  rw [lt_iff_place hx.isNaN hy.isNaN]
  rcases hy.cases with ⟨s, hu⟩ | ⟨m₂, e₂, h₂, hu₂⟩
  · have hzero : amount y = 0 := by rw [amount, hu]; rfl
    exact absurd (amount_nonneg x) (by rw [hzero] at h; exact not_le.2 h)
  · rcases hx.cases with ⟨s, hu⟩ | ⟨m₁, e₁, h₁, hu₁⟩
    · rw [hu, hu₂]
      exact Prod.Lex.toLex_lt_toLex.2 (.inl Int.zero_lt_one)
    · have hc₁ := canonical_of_unpack hu₁
      have hc₂ := canonical_of_unpack hu₂
      rw [amount_of_unpack hu₁, amount_of_unpack hu₂] at h
      rw [hu₁, hu₂]
      refine Prod.Lex.toLex_lt_toLex.2 (.inr ⟨rfl, Prod.Lex.toLex_lt_toLex.2 ?_⟩)
      show e₁ < e₂ ∨ e₁ = e₂ ∧ (m₁ : Int) < m₂
      rcases lt_trichotomy e₁ e₂ with hlt | rfl | hgt
      · exact .inl hlt
      · have hpos : (0 : ℚ) < 2 ^ e₁ := zpow_pos (by norm_num) e₁
        have hm : (m₁ : ℚ) < m₂ := lt_of_mul_lt_mul_right h hpos.le
        exact .inr ⟨rfl, by exact_mod_cast hm⟩
      · -- With the greater exponent goes a mantissa that fills its bits, and so the greater amount.
        have hfull : 2 ^ 52 ≤ m₁ := hc₁.full.resolve_right (by have := hc₂.least; omega)
        have hlt := hc₂.lt
        exfalso
        refine absurd h (not_lt.2 ?_)
        calc (m₂ : ℚ) * 2 ^ e₂ ≤ 2 ^ 53 * 2 ^ (e₁ - 1) := by
              refine mul_le_mul ?_ (zpow_le_zpow_right₀ (by norm_num) (by omega)) (zpow_nonneg (by norm_num) _)
                (by norm_num)
              exact_mod_cast hlt.le
          _ = 2 ^ 52 * 2 ^ e₁ := by rw [zpow_sub_one₀ (by norm_num)]; ring
          _ ≤ m₁ * 2 ^ e₁ := by
              refine mul_le_mul_of_nonneg_right ?_ (zpow_nonneg (by norm_num) _)
              exact_mod_cast hfull

theorem amount_le_of_le {x y : Float} (hx : Tame x.toModel.unpack) (hy : Tame y.toModel.unpack) (h : x ≤ y) :
    amount x ≤ amount y := by
  by_contra hlt
  have hyx := lt_of_amount_lt hy hx (not_le.1 hlt)
  rw [lt_iff_place hy.isNaN hx.isNaN] at hyx
  rw [le_iff_place hx.isNaN hy.isNaN] at h
  exact absurd h (not_le.2 hyx)

theorem beq_eq_false_of_amount_lt {x y : Float} (hx : Tame x.toModel.unpack) (hy : Tame y.toModel.unpack)
    (h : amount x < amount y) : (y == x) = false := by
  rw [← Bool.not_eq_true, beq_iff_place hy.isNaN hx.isNaN]
  exact ((lt_iff_place hx.isNaN hy.isNaN).1 (lt_of_amount_lt hx hy h)).ne'

theorem tame_of_le {x y : Float} (h₀ : 0 ≤ x) (hy : Tame y.toModel.unpack) (h : x ≤ y) : Tame x.toModel.unpack := by
  rw [zero_le_iff] at h₀
  have h : x.toModel.unpack.le y.toModel.unpack = true := decide_eq_true_iff.1 h
  refine ⟨h₀, ?_⟩
  rcases hu : x.toModel.unpack with (_ | _) | _ | _ | _ <;> rw [hu] at h₀ h <;> try rfl
  · cases h₀
  · rcases hy.cases with ⟨s, hv⟩ | ⟨m, e, hm, hv⟩ <;> rw [hv] at h <;> cases h
  · cases h₀

/-- The mantissa of the double fills its bits. -/
def isFull (x : Float) : Bool :=
  match x.toModel.unpack with
  | .finite _ m _ _ => 2 ^ 52 ≤ m
  | _ => false

theorem le_of_isFull {x : Float} {s : Sign} {m : Nat} {e : Int} {hm : 0 < m} (h : isFull x = true)
    (hu : x.toModel.unpack = .finite s m e hm) : 2 ^ 52 ≤ m := by
  rw [isFull, hu] at h
  exact of_decide_eq_true h

theorem Near.amount_le {k : Int} {q : ℚ} {x : Float} (h : Near k q x.toModel.unpack) : amount x ≤ q + 2 ^ (k - 51) := by
  have herror : amount x - q ≤ 2 ^ (k - 51) := (abs_le.1 h.error).2
  linarith

theorem Near.le_amount {k : Int} {q : ℚ} {x : Float} (h : Near k q x.toModel.unpack) : q - 2 ^ (k - 51) ≤ amount x := by
  have herror : -2 ^ (k - 51) ≤ amount x - q := (abs_le.1 h.error).1
  linarith

theorem stored_unpack {x : Float} (h : Tame x.toModel.unpack) : stored x.toModel.unpack = x.toModel.unpack := by
  rcases h.cases with ⟨s, hu⟩ | ⟨m, e, hm, hu⟩
  · rw [hu, stored_zero]
  · have he := exponent_lt_of_unpack hu
    rw [hu, stored, unpack_pack_of_canonical (canonical_of_unpack hu) (by omega)]

/-- **A product** is rounded. -/
theorem amount_mul {x y : Float} {k : Int} (hx : Tame x.toModel.unpack) (hy : Tame y.toModel.unpack)
    (hfull : isFull x = true ∨ isFull y = true) (hk : -1021 ≤ k) (hk' : k ≤ 1023) (h : amount x * amount y < 2 ^ k) :
    Near k (amount x * amount y) (x * y).toModel.unpack := by
  show Near k _ (stored (UnpackedFloat.mul .binary64 x.toModel.unpack y.toModel.unpack))
  have hzero {z : Float} {s : Sign} (hz : z.toModel.unpack = .zero s) : amount z = 0 := by rw [amount, hz]; rfl
  rcases hx.cases with ⟨s, hu⟩ | ⟨m, e, hm, hu⟩
  · have hmul : ∃ s', UnpackedFloat.mul .binary64 (.zero s) y.toModel.unpack = .zero s' := by
      rcases hy.cases with ⟨s', hv⟩ | ⟨m', e', hm', hv⟩ <;> rw [hv] <;> exact ⟨_, rfl⟩
    obtain ⟨s', hmul⟩ := hmul
    rw [hzero hu, zero_mul, hu, hmul, stored_zero]
    exact near_of_tame (tame_zero _)
  · rcases hy.cases with ⟨s, hv⟩ | ⟨m', e', hm', hv⟩
    · have hmul : UnpackedFloat.mul .binary64 (.finite .positive m e hm) (.zero s) = .zero (.positive * s) := rfl
      rw [hzero hv, mul_zero, hu, hv, hmul, stored_zero]
      exact near_of_tame (tame_zero _)
    · rw [amount_of_unpack hu, amount_of_unpack hv] at h ⊢
      rw [hu, hv]
      refine near_mul hm hm' ?_ hk hk' h
      rcases hfull with hfull | hfull
      · exact (le_of_isFull hfull hu).trans (Nat.le_mul_of_pos_right m hm')
      · exact (le_of_isFull hfull hv).trans (Nat.le_mul_of_pos_left m' hm)

/-- **A quotient** is rounded, and so it is not much too large. -/
theorem amount_div {x y : Float} {k : Int} (hx : Tame x.toModel.unpack) (hy : isPositive y = true) (hk : -1021 ≤ k)
    (hk' : k ≤ 1023) (h : amount x / amount y < 2 ^ k) :
    Tame (x / y).toModel.unpack ∧ amount (x / y) ≤ amount x / amount y + 2 ^ (k - 51) := by
  have hdiv : (x / y).toModel.unpack = stored (UnpackedFloat.div .binary64 x.toModel.unpack y.toModel.unpack) := rfl
  obtain ⟨m', e', hm', hv⟩ := unpack_of_isPositive hy
  rcases hx.cases with ⟨s, hu⟩ | ⟨m, e, hm, hu⟩
  · have hzero : amount x = 0 := by rw [amount, hu]; rfl
    have hquotient : UnpackedFloat.div .binary64 (.zero s) (.finite .positive m' e' hm') = .zero (s / .positive) := rfl
    rw [amount, hdiv, hu, hv, hquotient, stored_zero, hzero, zero_div, zero_add]
    exact ⟨tame_zero _, by positivity⟩
  · rw [amount_of_unpack hu, amount_of_unpack hv] at h ⊢
    obtain ⟨q, hq, hnear⟩ := near_div hm hm' hk hk' h
    rw [← hv, ← hu, ← hdiv] at hnear
    exact ⟨hnear.tame, hnear.amount_le.trans (by linarith)⟩

/-- **A difference** from a double above zero is rounded. -/
theorem amount_sub {x y : Float} {k : Int} (hx : Tame x.toModel.unpack) (hy : isPositive y = true) (hk : -1021 ≤ k)
    (hk' : k ≤ 1023) (hle : amount y ≤ amount x) (h : amount x - amount y < 2 ^ k) :
    Near k (amount x - amount y) (x - y).toModel.unpack := by
  show Near k _ (stored (UnpackedFloat.sub .binary64 x.toModel.unpack y.toModel.unpack))
  obtain ⟨m', e', hm', hv⟩ := unpack_of_isPositive hy
  rcases hx.cases with ⟨s, hu⟩ | ⟨m, e, hm, hu⟩
  · -- What is at least as large as a double above zero is not zero.
    have hzero : amount x = 0 := by rw [amount, hu]; rfl
    have hpos : (0 : ℚ) < m' * 2 ^ e' := mul_pos (by exact_mod_cast hm') (zpow_pos (by norm_num) _)
    rw [hzero, amount_of_unpack hv] at hle
    exact absurd hpos (not_lt.2 hle)
  · rw [amount_of_unpack hu, amount_of_unpack hv] at hle h ⊢
    rw [hu, hv]
    exact near_sub hm hm' hk hk' hle h

/-- **A sum** is rounded. -/
theorem amount_add {x y : Float} {k : Int} (hx : Tame x.toModel.unpack) (hy : Tame y.toModel.unpack) (hk : -1021 ≤ k)
    (hk' : k ≤ 1023) (h : amount x + amount y < 2 ^ k) : Near k (amount x + amount y) (x + y).toModel.unpack := by
  show Near k _ (stored (UnpackedFloat.add .binary64 x.toModel.unpack y.toModel.unpack))
  rcases hx.cases with ⟨s, hu⟩ | ⟨m, e, hm, hu⟩
  · have hzero : amount x = 0 := by rw [amount, hu]; rfl
    rcases hy.cases with ⟨s', hv⟩ | ⟨m', e', hm', hv⟩
    · have hzero' : amount y = 0 := by rw [amount, hv]; rfl
      have hadd : ∃ s'', UnpackedFloat.add .binary64 (.zero s) (.zero s') = .zero s'' := by
        cases s <;> cases s' <;> exact ⟨_, rfl⟩
      obtain ⟨s'', hadd⟩ := hadd
      rw [hzero, hzero', add_zero, hu, hv, hadd, stored_zero]
      exact near_of_tame (tame_zero _)
    · have hadd : UnpackedFloat.add .binary64 (.zero s) (.finite .positive m' e' hm') =
          .finite .positive m' e' hm' := rfl
      rw [hzero, zero_add, hu, hv, hadd, ← hv, stored_unpack hy]
      exact near_of_tame hy
  · rcases hy.cases with ⟨s', hv⟩ | ⟨m', e', hm', hv⟩
    · have hzero' : amount y = 0 := by rw [amount, hv]; rfl
      have hadd : UnpackedFloat.add .binary64 (.finite .positive m e hm) (.zero s') = .finite .positive m e hm := rfl
      rw [hzero', add_zero, hu, hv, hadd, ← hu, stored_unpack hx]
      exact near_of_tame hx
    · rw [amount_of_unpack hu, amount_of_unpack hv] at h ⊢
      rw [hu, hv]
      exact near_add hm hm' hk hk' h

/-- Adding nothing changes nothing, but for the sign of zero. -/
theorem add_zero_beq {x : Float} (h : Tame x.toModel.unpack) : (x + 0 == x) = true := by
  have hplace : place (x + 0).toModel.unpack = place x.toModel.unpack := by
    show place (stored (UnpackedFloat.add .binary64 x.toModel.unpack (.zero .positive))) = _
    rcases h.cases with ⟨s, hu⟩ | ⟨m, e, hm, hu⟩
    · rw [hu]
      cases s <;> rfl
    · have hadd : UnpackedFloat.add .binary64 (.finite .positive m e hm) (.zero .positive) =
          .finite .positive m e hm := rfl
      rw [hu, hadd, ← hu, stored_unpack h]
  have hnan : (x + 0).isNaN = false := isNaN_of_zero_le (zero_le_add (tame_iff.1 h).1 (by decide))
  exact (beq_iff_place hnan h.isNaN).2 hplace

/-! ## NaN -/

theorem unpack_of_isNaN {x : Float} (h : x.isNaN = true) : x.toModel.unpack = .notANumber := by
  have h : x.toModel.unpack.isNaN = true := h
  cases hu : x.toModel.unpack <;> rw [hu] at h <;> first | rfl | cases h

theorem isNaN_stored : (stored .notANumber).isNaN = true := by decide

theorem isNaN_add_left {x : Float} (h : x.isNaN = true) (y : Float) : (x + y).isNaN = true := by
  have hadd (v : UnpackedFloat) : UnpackedFloat.add .binary64 .notANumber v = .notANumber := by
    cases v <;> rfl
  show (stored (UnpackedFloat.add .binary64 x.toModel.unpack y.toModel.unpack)).isNaN = true
  rw [unpack_of_isNaN h, hadd]
  exact isNaN_stored

theorem isNaN_mul_right {y : Float} (h : y.isNaN = true) (x : Float) : (x * y).isNaN = true := by
  have hmul (v : UnpackedFloat) : UnpackedFloat.mul .binary64 v .notANumber = .notANumber := by
    cases v <;> rfl
  show (stored (UnpackedFloat.mul .binary64 x.toModel.unpack y.toModel.unpack)).isNaN = true
  rw [unpack_of_isNaN h, hmul]
  exact isNaN_stored

/-- What is not at most zero is above it, or NaN. -/
theorem zero_le_of_not_le {x : Float} (hx : x.isNaN = false) (h : ¬ x ≤ 0) : 0 ≤ x := by
  have hzero : (0 : Float).isNaN = false := by decide
  rw [le_iff_place hx hzero, not_le] at h
  exact le_of_lt ((lt_iff_place hzero hx).2 h)

/-! ## Whole numbers -/

/-- A whole number as a double is not much too large. -/
theorem amount_ofNat {n : Nat} (h : n ≤ 2 ^ 20) :
    Tame (Float.ofNat n).toModel.unpack ∧ amount (Float.ofNat n) ≤ n + 1 / 1000 := by
  have hof : Float.ofNat n = n.toUInt64.toFloat * Float.ofBits 0x3FF0000000000000 := by
    show Float.ofScientific n false 0 = _
    unfold Float.ofScientific
    rw [dif_pos ⟨by omega, by decide⟩]
    rfl
  have hn : n.toUInt64.toNat = n := by
    rw [Nat.toUInt64, UInt64.toNat_ofNat']
    omega
  have hsmall : (n : ℚ) ≤ 2 ^ 20 := by exact_mod_cast h
  have hunit : amount (Float.ofBits 0x3FF0000000000000) = 1 :=
    amount_eq (m := 4503599627370496) (e := -52) rfl (by norm_num)
  have hwhole : Near 21 n n.toUInt64.toFloat.toModel.unpack := by
    have hnear := near_normalize (n := n) (e := 0) (k := 21) (by decide) (by decide)
      (by rw [zpow_zero, mul_one]; exact hsmall.trans_lt (by norm_num))
    rw [zpow_zero, mul_one] at hnear
    show Near 21 n (stored (UnpackedFloat.normalize .binary64 n.toUInt64.toNat 0 .positive))
    rwa [hn]
  have hmiss : (2 : ℚ) ^ ((21 : Int) - 51) ≤ 1 / 4000 := by norm_num
  have hle : amount n.toUInt64.toFloat ≤ n + 1 / 4000 := hwhole.amount_le.trans (by linarith)
  have hproduct : Near 21 (amount n.toUInt64.toFloat * 1) (Float.ofNat n).toModel.unpack := by
    rw [hof, ← hunit]
    refine amount_mul hwhole.tame (tame_iff.2 (by decide)) (.inr (by decide)) (by decide) (by decide) ?_
    rw [hunit, mul_one]
    exact (hle.trans (by linarith)).trans_lt (by norm_num : (2 : ℚ) ^ 20 + 1 < 2 ^ (21 : Int))
  exact ⟨hproduct.tame, hproduct.amount_le.trans (by linarith)⟩

theorem amount_of_parts {x : Float} {negative : Bool} {m : Nat} {e : Int} (h : parts x = .finite negative m e) :
    amount x = m * 2 ^ e := by
  have hbits : x.toBits.toNat = x.toModel.toBits.toBitVec.toNat := rfl
  simp only [parts, hbits] at h
  unfold amount Float.Model.unpack UnpackedFloat.unpack
  generalize x.toModel.toBits.toBitVec = b at h
  have he := toNat_unpackExponent b
  have hm := toNat_unpackMantissa b
  have hmax : @unpackExponent .binary64 b = -1#11 ↔ b.toNat / Nat.pow 2 52 % Nat.pow 2 11 = 2047 := by
    rw [← he, ← BitVec.toNat_inj]; rfl
  have hlow : @unpackExponent .binary64 b = 0#11 ↔ b.toNat / Nat.pow 2 52 % Nat.pow 2 11 = 0 := by
    rw [← he, ← BitVec.toNat_inj]; rfl
  have hbias : ((Format.exponentBias .binary64 : Nat) : Int) + (52 : Nat) = 1075 := rfl
  dsimp only
  rw [hbias]
  split at h
  · split at h <;> cases h
  · rename_i hE
    rw [if_neg (fun h => hE (hmax.1 h))]
    split at h
    · rename_i hE0
      cases h
      rw [if_pos (hlow.2 hE0)]
      split
      · rename_i hzero
        have : b.toNat % Nat.pow 2 52 = 0 := by rw [← hm, hzero]; rfl
        rw [this, Nat.cast_zero, zero_mul]
        rfl
      · rw [worth, hm, he, hE0]
        rfl
    · rename_i hE0
      cases h
      rw [if_neg (fun h => hE0 (hlow.1 h)), worth, toNat_one_append, hm, he]
      rfl

/-- The nearest whole number is off by a half at most. -/
theorem roundDiv_le (tie : Tie) (num : Nat) {den : Nat} (hden : 0 < den) :
    2 * (den * roundDiv tie num den) ≤ 2 * num + den := by
  have hdiv := Nat.div_add_mod num den
  have hmod := Nat.mod_lt num hden
  have hstep : den * (num / den + 1) = den * (num / den) + den := Nat.mul_succ _ _
  unfold roundDiv
  dsimp only
  split
  · omega
  · split
    · rw [hstep]
      omega
    · cases tie with
      | away =>
        show 2 * (den * (num / den + 1)) ≤ _
        rw [hstep]
        omega
      | even =>
        have hle : den * (num / den + num / den % 2) ≤ den * (num / den + 1) := Nat.mul_le_mul_left _ (by omega)
        show 2 * (den * (num / den + num / den % 2)) ≤ _
        omega

theorem full_of_parts {x : Float} {negative : Bool} {m : Nat} {e : Int} (h : parts x = .finite negative m e) :
    2 ^ 52 ≤ m ∨ e = -1074 := by
  unfold parts at h
  dsimp only at h
  split at h
  · split at h <;> cases h
  · split at h
    · cases h
      exact .inr rfl
    · cases h
      exact .inl (Nat.le_add_right _ _)

/-- A double that is not too large has an exponent below zero. -/
theorem exponent_neg_of_parts {x : Float} {negative : Bool} {m : Nat} {e : Int} (h : parts x = .finite negative m e)
    (hsmall : amount x < 2 ^ 52) : e < 0 := by
  by_contra hnot
  obtain ⟨n, rfl⟩ := Int.eq_ofNat_of_zero_le (not_lt.1 hnot)
  have hfull := (full_of_parts h).resolve_right (by omega)
  rw [amount_of_parts h, zpow_natCast] at hsmall
  have hle : 2 ^ 52 ≤ m * 2 ^ n := hfull.trans (Nat.le_mul_of_pos_right m (Nat.two_pow_pos n))
  exact absurd hsmall (not_lt.2 (by exact_mod_cast hle))

theorem roundDiv_le_amount {x : Float} {negative : Bool} {m n : Nat} (h : parts x = .finite negative m (-n))
    (tie : Tie) : (roundDiv tie m (2 ^ n) : ℚ) ≤ amount x + 1 / 2 := by
  have hround : 2 * (2 ^ n * roundDiv tie m (2 ^ n)) ≤ 2 * m + 2 ^ n := roundDiv_le tie m (Nat.two_pow_pos n)
  have hround : 2 * ((2 : ℚ) ^ n * roundDiv tie m (2 ^ n)) ≤ 2 * m + 2 ^ n := by exact_mod_cast hround
  have hpos : (0 : ℚ) < 2 ^ n := by positivity
  rw [amount_of_parts h, zpow_neg, zpow_natCast, ← div_eq_mul_inv]
  calc (roundDiv tie m (2 ^ n) : ℚ) ≤ (2 * m + 2 ^ n) / (2 * 2 ^ n) := by
        rw [le_div_iff₀ (by positivity)]
        linarith
    _ = m / 2 ^ n + 1 / 2 := by field_simp

/-- **The nearest whole number** to a double that is not negative is not too large. Zero may keep its sign. -/
theorem exists_round {x : Float} (hx : Tame x.toModel.unpack) {n : Nat} (hn : n < 2 ^ 51) (h : amount x < n + 1 / 2) :
    (∃ j ≤ n, round x = Float.ofNat j) ∨ round x = -Float.ofNat 0 := by
  have hsmall : amount x < 2 ^ 52 := by
    have hn : (n : ℚ) < 2 ^ 51 := by exact_mod_cast hn
    linarith
  have hround {negative : Bool} {m : Nat} {e : Int} (hparts : parts x = .finite negative m e) :
      round x = if negative then -Float.ofNat (roundDiv .away m (2 ^ e.natAbs))
        else Float.ofNat (roundDiv .away m (2 ^ e.natAbs)) := by
    rw [round, toWhole, hparts]
    dsimp only
    rw [if_neg (not_le.2 (exponent_neg_of_parts hparts hsmall))]
    rfl
  have hle {negative : Bool} {m : Nat} {e : Int} (hparts : parts x = .finite negative m e) :
      roundDiv .away m (2 ^ e.natAbs) ≤ n := by
    have hneg := exponent_neg_of_parts hparts hsmall
    have he : e = -(e.natAbs : Int) := by omega
    rw [he] at hparts
    have hbound := roundDiv_le_amount hparts .away
    have hlt : (roundDiv .away m (2 ^ e.natAbs) : ℚ) < n + 1 := by linarith
    exact Nat.le_of_lt_succ (by exact_mod_cast hlt)
  rcases parts_of_zero_le (tame_iff.1 hx).1 with ⟨m, e, hparts⟩ | ⟨negative, e, hparts⟩ | hparts
  · exact .inl ⟨_, hle hparts, hround hparts⟩
  · cases negative with
    | false => exact .inl ⟨_, hle hparts, hround hparts⟩
    | true =>
      have hzero : roundDiv .away 0 (2 ^ e.natAbs) = 0 := by simp [roundDiv]
      exact .inr ((hround hparts).trans (by rw [hzero]; rfl))
  · have hfinite := (tame_iff.1 hx).2
    rw [isFinite, hparts] at hfinite
    cases hfinite

end Triage.Number
