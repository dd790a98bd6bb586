import Mathlib
import Triage.Number.Binary

/-!
# The order of doubles

Comparison of doubles goes by class, then by exponent, then by mantissa, the last two the other way
round below zero. Read as a place in a linear order (`place`), it is total and transitive on all
doubles but NaN, which is neither above nor below any of them. Sums, products and quotients of doubles
that are not negative are again not negative, and so not NaN.
-/
namespace Triage.Number

open Float.Model Float.Model.UnpackedFloat

/-! ## Places -/

/-- The place of a double among all: its class, its exponent and its mantissa. NaN comes last. -/
def place : UnpackedFloat → Int ×ₗ Int ×ₗ Int
  | .infinity .negative => toLex (-2, toLex (0, 0))
  | .finite .negative m e _ => toLex (-1, toLex (-e, -m))
  | .zero _ => toLex (0, toLex (0, 0))
  | .finite .positive m e _ => toLex (1, toLex (e, m))
  | .infinity .positive => toLex (2, toLex (0, 0))
  | .notANumber => toLex (3, toLex (0, 0))

theorem then_compare_eq_lt (e₁ e₂ : Int) (m₁ m₂ : Nat) :
    (compare e₁ e₂).then (compare m₁ m₂) = .lt ↔ e₁ < e₂ ∨ e₁ = e₂ ∧ m₁ < m₂ := by
  simp [Ordering.then_eq_lt, Int.compare_eq_lt, Nat.compare_eq_lt]

theorem then_compare_eq_gt (e₁ e₂ : Int) (m₁ m₂ : Nat) :
    (compare e₁ e₂).then (compare m₁ m₂) = .gt ↔ e₂ < e₁ ∨ e₁ = e₂ ∧ m₂ < m₁ := by
  simp [Ordering.then_eq_gt, Int.compare_eq_gt, Nat.compare_eq_gt]

theorem isLE_then_compare (e₁ e₂ : Int) (m₁ m₂ : Nat) :
    ((compare e₁ e₂).then (compare m₁ m₂)).isLE = true ↔ e₁ ≤ e₂ ∧ (e₂ = e₁ → m₁ ≤ m₂) := by
  rw [Ordering.isLE_iff_ne_gt, then_compare_eq_gt]
  omega

theorem isGE_then_compare (e₁ e₂ : Int) (m₁ m₂ : Nat) :
    ((compare e₁ e₂).then (compare m₁ m₂)).isGE = true ↔ e₂ ≤ e₁ ∧ (e₂ = e₁ → m₂ ≤ m₁) := by
  rw [Ordering.isGE_iff_ne_lt, then_compare_eq_lt]
  omega

theorem lt_iff_place_lt {a b : UnpackedFloat} (ha : a.isNaN = false) (hb : b.isNaN = false) :
    a.lt b = true ↔ place a < place b := by
  rcases a with (_ | _) | _ | _ | ⟨(_ | _), m₁, e₁, h₁⟩ <;>
    rcases b with (_ | _) | _ | _ | ⟨(_ | _), m₂, e₂, h₂⟩ <;>
    simp_all [UnpackedFloat.lt, UnpackedFloat.compare, place, Prod.Lex.toLex_lt_toLex,
      UnpackedFloat.isNaN, then_compare_eq_lt, then_compare_eq_gt]
  decide

/-- One of two doubles is at most the other exactly if it is not above it. -/
theorem le_iff_not_lt {a b : UnpackedFloat} (ha : a.isNaN = false) (hb : b.isNaN = false) :
    a.le b = true ↔ ¬ b.lt a = true := by
  rcases a with (_ | _) | _ | _ | ⟨(_ | _), m₁, e₁, h₁⟩ <;>
    rcases b with (_ | _) | _ | _ | ⟨(_ | _), m₂, e₂, h₂⟩ <;>
    simp_all [UnpackedFloat.lt, UnpackedFloat.le, UnpackedFloat.compare, UnpackedFloat.isNaN,
      then_compare_eq_lt, then_compare_eq_gt, isLE_then_compare, isGE_then_compare]
  all_goals decide

/-! ## Doubles that are not negative -/

/-- The double is zero or above, and not NaN. -/
def NonNeg : UnpackedFloat → Prop
  | .zero _ | .finite .positive .. | .infinity .positive => True
  | _ => False

theorem nonNeg_roundWithAccuracy (spec : Format) (m : Nat) (e : Int) (acc : Accuracy) :
    NonNeg (roundWithAccuracy spec .positive m e acc) := by
  unfold roundWithAccuracy
  dsimp only
  split <;> trivial

theorem nonNeg_normalize (spec : Format) {m : Int} (hm : 0 ≤ m) (e : Int) :
    NonNeg (UnpackedFloat.normalize spec m e .positive) := by
  unfold UnpackedFloat.normalize
  split
  · rename_i h
    rw [Int.compare_eq_lt] at h
    omega
  · trivial
  · exact nonNeg_roundWithAccuracy ..

theorem nonNeg_ofNat (spec : Format) (n : Nat) : NonNeg (UnpackedFloat.ofNat spec n) :=
  nonNeg_normalize spec (Int.natCast_nonneg n) 0

theorem nonNeg_add (spec : Format) {a b : UnpackedFloat} (ha : NonNeg a) (hb : NonNeg b) :
    NonNeg (UnpackedFloat.add spec a b) := by
  rcases a with (_ | _) | _ | (_ | _) | ⟨(_ | _), m₁, e₁, h₁⟩ <;> try cases ha
  all_goals rcases b with (_ | _) | _ | (_ | _) | ⟨(_ | _), m₂, e₂, h₂⟩ <;> try cases hb
  all_goals try trivial
  refine nonNeg_normalize spec ?_ _
  exact Int.add_nonneg (Int.natCast_nonneg _) (Int.natCast_nonneg _)

/-- A factor above zero and below infinity keeps the sign. -/
theorem nonNeg_mul_left (spec : Format) {m : Nat} {e : Int} (h : 0 < m) {b : UnpackedFloat} (hb : NonNeg b) :
    NonNeg (UnpackedFloat.mul spec (.finite .positive m e h) b) := by
  rcases b with (_ | _) | _ | (_ | _) | ⟨(_ | _), m₂, e₂, h₂⟩ <;> try cases hb
  all_goals try trivial
  exact nonNeg_roundWithAccuracy ..

theorem nonNeg_mul_right (spec : Format) {m : Nat} {e : Int} (h : 0 < m) {a : UnpackedFloat} (ha : NonNeg a) :
    NonNeg (UnpackedFloat.mul spec a (.finite .positive m e h)) := by
  rcases a with (_ | _) | _ | (_ | _) | ⟨(_ | _), m₁, e₁, h₁⟩ <;> try cases ha
  all_goals try trivial
  exact nonNeg_roundWithAccuracy ..

/-- A divisor above zero and below infinity keeps the sign. -/
theorem nonNeg_div (spec : Format) {m : Nat} {e : Int} (h : 0 < m) {a : UnpackedFloat} (ha : NonNeg a) :
    NonNeg (UnpackedFloat.div spec a (.finite .positive m e h)) := by
  rcases a with (_ | _) | _ | (_ | _) | ⟨(_ | _), m₁, e₁, h₁⟩ <;> try cases ha
  all_goals try trivial
  exact nonNeg_roundWithAccuracy ..

theorem nonNeg_ofScientific (spec : Format) (m : Nat) (e : Int) :
    NonNeg (UnpackedFloat.ofScientific spec m e) := by
  unfold UnpackedFloat.ofScientific
  split
  · trivial
  split
  · trivial
  split
  · trivial
  split
  · exact nonNeg_roundWithAccuracy ..
  · exact nonNeg_roundWithAccuracy ..

/-! ## Packing -/

theorem unpackSign_packComponents (spec : Format) (s : Sign) (e : BitVec spec.exponentBits)
    (m : BitVec spec.mantissaBitsWithoutImplicit) :
    unpackSign (packComponents spec s e m) = s.toBitVec := by
  ext i hi
  have : i = 0 := by omega
  subst this
  simp [unpackSign, packComponents, BitVec.getLsbD_append, BitVec.getElem_append]

theorem nonNeg_unpack_components {e : BitVec 11} {m : BitVec 52} (h : e = -1#11 → m = 0#52) :
    NonNeg (UnpackedFloat.unpack .binary64 (packComponents .binary64 .positive e m)) := by
  unfold UnpackedFloat.unpack
  simp only [unpackMantissa_packComponents, unpackExponent_packComponents, unpackSign_packComponents]
  split
  · rename_i he
    rw [if_pos (h he)]
    trivial
  · split
    · split <;> trivial
    · trivial

/-- Packing may push a double to infinity, but not below zero. -/
theorem nonNeg_unpack_pack {u : UnpackedFloat} (h : NonNeg u) :
    NonNeg (UnpackedFloat.unpack .binary64 (UnpackedFloat.pack .binary64 u)) := by
  rcases u with (_ | _) | _ | (_ | _) | ⟨(_ | _), m, e, hm⟩ <;> try cases h
  · exact nonNeg_unpack_components fun _ => rfl
  · exact True.intro
  · exact True.intro
  · simp only [UnpackedFloat.pack]
    split
    · exact nonNeg_unpack_components fun _ => rfl
    · rename_i hsmall
      split
      · refine nonNeg_unpack_components fun he => ?_
        have hnat := congrArg BitVec.toNat he
        simp only [BitVec.toNat_ofNat] at hnat
        have hmax : (-1#11).toNat = 2047 := rfl
        rw [hmax, Nat.mod_eq_of_lt (by omega)] at hnat
        omega
      · exact nonNeg_unpack_components fun he => absurd he (by decide)

/-! ## Doubles as they are computed with -/

theorem lt_iff_place {x y : Float} (hx : x.isNaN = false) (hy : y.isNaN = false) :
    x < y ↔ place x.toModel.unpack < place y.toModel.unpack := by
  rw [← lt_iff_place_lt hx hy]
  exact decide_eq_true_iff

theorem le_iff_place {x y : Float} (hx : x.isNaN = false) (hy : y.isNaN = false) :
    x ≤ y ↔ place x.toModel.unpack ≤ place y.toModel.unpack := by
  rw [← not_lt, ← lt_iff_place_lt hy hx, ← le_iff_not_lt hx hy]
  exact decide_eq_true_iff

/-- Two doubles are equal in value exactly if they have the same place. -/
theorem beq_iff_place {x y : Float} (hx : x.isNaN = false) (hy : y.isNaN = false) :
    (x == y) = true ↔ place x.toModel.unpack = place y.toModel.unpack := by
  have hbeq : (x == y) = true ↔ x.toModel.unpack.le y.toModel.unpack = true ∧
      ¬ x.toModel.unpack.lt y.toModel.unpack = true := by
    show x.toModel.unpack.beq y.toModel.unpack = true ↔ _
    simp only [UnpackedFloat.beq, UnpackedFloat.le, UnpackedFloat.lt]
    rcases x.toModel.unpack.compare y.toModel.unpack with _ | _ | _ | _ <;> simp
  rw [hbeq, le_iff_not_lt hx hy, lt_iff_place_lt hx hy, lt_iff_place_lt hy hx]
  constructor
  · rintro ⟨hyx, hxy⟩
    exact le_antisymm (not_lt.1 hyx) (not_lt.1 hxy)
  · intro h
    rw [h]
    exact ⟨lt_irrefl _, lt_irrefl _⟩

/-- Nothing is equal in value to NaN. -/
theorem isNaN_of_beq {x y : Float} (h : (x == y) = true) : y.isNaN = false := by
  have h : x.toModel.unpack.beq y.toModel.unpack = true := h
  show y.toModel.unpack.isNaN = false
  rcases hy : y.toModel.unpack with s | _ | s | ⟨s, m, e, hm⟩ <;> try rfl
  rw [hy] at h
  rcases hx : x.toModel.unpack with s | _ | s | ⟨s, m, e, hm⟩ <;> rw [hx] at h <;> cases h

/-- Nothing is above or below NaN. -/
theorem isNaN_of_lt {x y : Float} (h : x < y) : x.isNaN = false ∧ y.isNaN = false := by
  have h : x.toModel.unpack.lt y.toModel.unpack = true := decide_eq_true_iff.1 h
  show x.toModel.unpack.isNaN = false ∧ y.toModel.unpack.isNaN = false
  constructor
  · rcases hx : x.toModel.unpack with s | _ | s | ⟨s, m, e, hm⟩ <;> try rfl
    rw [hx] at h
    cases h
  · rcases hy : y.toModel.unpack with s | _ | s | ⟨s, m, e, hm⟩ <;> try rfl
    rw [hy] at h
    rcases hx : x.toModel.unpack with s | _ | s | ⟨s, m, e, hm⟩ <;> rw [hx] at h <;> cases h

theorem isNaN_of_le {x y : Float} (h : x ≤ y) : x.isNaN = false ∧ y.isNaN = false := by
  have h : x.toModel.unpack.le y.toModel.unpack = true := decide_eq_true_iff.1 h
  show x.toModel.unpack.isNaN = false ∧ y.toModel.unpack.isNaN = false
  constructor
  · rcases hx : x.toModel.unpack with s | _ | s | ⟨s, m, e, hm⟩ <;> try rfl
    rw [hx] at h
    cases h
  · rcases hy : y.toModel.unpack with s | _ | s | ⟨s, m, e, hm⟩ <;> try rfl
    rw [hy] at h
    rcases hx : x.toModel.unpack with s | _ | s | ⟨s, m, e, hm⟩ <;> rw [hx] at h <;> cases h

theorem le_of_le_of_le {x y z : Float} (hxy : x ≤ y) (hyz : y ≤ z) : x ≤ z := by
  have hx := (isNaN_of_le hxy).1
  obtain ⟨hy, hz⟩ := isNaN_of_le hyz
  exact (le_iff_place hx hz).2 (((le_iff_place hx hy).1 hxy).trans ((le_iff_place hy hz).1 hyz))

theorem not_lt_self (x : Float) : ¬ x < x := by
  intro h
  have hx := (isNaN_of_lt h).1
  exact lt_irrefl _ ((lt_iff_place hx hx).1 h)

theorem lt_of_lt_of_lt {x y z : Float} (hxy : x < y) (hyz : y < z) : x < z := by
  have hx := (isNaN_of_lt hxy).1
  obtain ⟨hy, hz⟩ := isNaN_of_lt hyz
  exact (lt_iff_place hx hz).2 (((lt_iff_place hx hy).1 hxy).trans ((lt_iff_place hy hz).1 hyz))

theorem le_of_lt {x y : Float} (h : x < y) : x ≤ y := by
  have hlt : x.toModel.unpack.lt y.toModel.unpack = true := decide_eq_true_iff.1 h
  refine decide_eq_true_iff.2 ?_
  show (x.toModel.unpack.compare y.toModel.unpack).any (·.isLE) = true
  have hc : x.toModel.unpack.compare y.toModel.unpack = some .lt := by
    simpa [UnpackedFloat.lt] using hlt
  rw [hc]
  rfl

theorem not_le_of_lt {x y : Float} (h : x < y) : ¬ y ≤ x := by
  obtain ⟨hx, hy⟩ := isNaN_of_lt h
  rw [le_iff_place hy hx, not_le]
  exact (lt_iff_place hx hy).1 h

theorem zero_le_iff {x : Float} : 0 ≤ x ↔ NonNeg x.toModel.unpack := by
  have h : 0 ≤ x ↔ (UnpackedFloat.zero .positive).le x.toModel.unpack = true := decide_eq_true_iff
  rw [h]
  rcases x.toModel.unpack with (_ | _) | _ | _ | ⟨(_ | _), m, e, hm⟩ <;>
    simp [UnpackedFloat.le, UnpackedFloat.compare, NonNeg]

theorem zero_le_ite (c : Prop) [Decidable c] {x y : Float} (hx : 0 ≤ x) (hy : 0 ≤ y) :
    0 ≤ if c then x else y := by
  split
  · exact hx
  · exact hy

/-- What is not negative is a number. -/
theorem isNaN_of_zero_le {x : Float} (h : 0 ≤ x) : x.isNaN = false := by
  rw [zero_le_iff] at h
  show x.toModel.unpack.isNaN = false
  rcases hu : x.toModel.unpack with s | _ | s | ⟨s, m, e, hm⟩ <;> simp_all [NonNeg, UnpackedFloat.isNaN]

/-- The double is above zero and below infinity. -/
def isPositive (x : Float) : Bool :=
  match x.toModel.unpack with
  | .finite .positive .. => true
  | _ => false

theorem unpack_of_isPositive {x : Float} (h : isPositive x = true) :
    ∃ m e hm, x.toModel.unpack = .finite .positive m e hm := by
  unfold isPositive at h
  split at h
  · exact ⟨_, _, _, ‹_›⟩
  · cases h

theorem zero_le_add {x y : Float} (hx : 0 ≤ x) (hy : 0 ≤ y) : 0 ≤ x + y :=
  zero_le_iff.2 (nonNeg_unpack_pack (nonNeg_add .binary64 (zero_le_iff.1 hx) (zero_le_iff.1 hy)))

theorem zero_le_mul_left {x y : Float} (hx : isPositive x = true) (hy : 0 ≤ y) : 0 ≤ x * y := by
  obtain ⟨m, e, hm, hu⟩ := unpack_of_isPositive hx
  refine zero_le_iff.2 (nonNeg_unpack_pack ?_)
  rw [hu]
  exact nonNeg_mul_left .binary64 hm (zero_le_iff.1 hy)

theorem zero_le_mul_right {x y : Float} (hx : 0 ≤ x) (hy : isPositive y = true) : 0 ≤ x * y := by
  obtain ⟨m, e, hm, hu⟩ := unpack_of_isPositive hy
  refine zero_le_iff.2 (nonNeg_unpack_pack ?_)
  rw [hu]
  exact nonNeg_mul_right .binary64 hm (zero_le_iff.1 hx)

theorem zero_le_div {x y : Float} (hx : 0 ≤ x) (hy : isPositive y = true) : 0 ≤ x / y := by
  obtain ⟨m, e, hm, hu⟩ := unpack_of_isPositive hy
  refine zero_le_iff.2 (nonNeg_unpack_pack ?_)
  rw [hu]
  exact nonNeg_div .binary64 hm (zero_le_iff.1 hx)

/-- A whole number is not negative, whether it is taken as it stands or has to be rounded first. -/
theorem zero_le_ofNat (n : Nat) : 0 ≤ Float.ofNat n := by
  show 0 ≤ Float.ofScientific n false 0
  unfold Float.ofScientific
  split
  · have hone : isPositive (Float.ofBits 0x3FF0000000000000) = true := by decide
    refine zero_le_mul_right ?_ hone
    exact zero_le_iff.2 (nonNeg_unpack_pack (nonNeg_ofNat .binary64 _))
  · exact zero_le_iff.2 (nonNeg_unpack_pack (nonNeg_ofScientific .binary64 _ _))

/-! ## Rounding to whole numbers -/

theorem toNat_unpackExponent (b : BitVec 64) :
    (@unpackExponent .binary64 b).toNat = b.toNat / Nat.pow 2 52 % Nat.pow 2 11 := by
  simp [unpackExponent, BitVec.extractLsb, Nat.shiftRight_eq_div_pow]

theorem toNat_unpackMantissa (b : BitVec 64) :
    (@unpackMantissa .binary64 b).toNat = b.toNat % Nat.pow 2 52 := by
  simp [unpackMantissa, BitVec.extractLsb]

theorem toNat_unpackSign (b : BitVec 64) :
    (@unpackSign .binary64 b).toNat = b.toNat / Nat.pow 2 63 := by
  have hpow : Nat.pow 2 63 = 9223372036854775808 := rfl
  have hlt : b.toNat < 2 ^ 64 := b.isLt
  rw [hpow]
  simp only [unpackSign, BitVec.extractLsb, BitVec.toNat_cast, BitVec.extractLsb'_toNat,
    Nat.shiftRight_eq_div_pow]
  omega

/-- The parts of a double that is not negative: a magnitude without a sign, or zero with either sign. -/
theorem parts_of_zero_le {x : Float} (h : 0 ≤ x) :
    (∃ m e, parts x = .finite false m e) ∨ (∃ negative e, parts x = .finite negative 0 e) ∨
      parts x = .infinite false := by
  rw [zero_le_iff] at h
  have hbits : x.toBits.toNat = x.toModel.toBits.toBitVec.toNat := rfl
  simp only [parts, hbits]
  simp only [Float.Model.unpack, UnpackedFloat.unpack] at h
  generalize x.toModel.toBits.toBitVec = b at h
  have he := toNat_unpackExponent b
  have hm := toNat_unpackMantissa b
  have hs := toNat_unpackSign b
  have hmax : @unpackExponent .binary64 b = -1#11 ↔ b.toNat / Nat.pow 2 52 % Nat.pow 2 11 = 2047 := by
    rw [← he, ← BitVec.toNat_inj]; rfl
  have hzero : @unpackMantissa .binary64 b = 0#52 ↔ b.toNat % Nat.pow 2 52 = 0 := by
    rw [← hm, ← BitVec.toNat_inj]; rfl
  have hlow : @unpackExponent .binary64 b = 0#11 ↔ b.toNat / Nat.pow 2 52 % Nat.pow 2 11 = 0 := by
    rw [← he, ← BitVec.toNat_inj]; rfl
  by_cases hsign : @unpackSign .binary64 b = 0#1
  · -- The sign bit is not set.
    have hneg : (b.toNat / Nat.pow 2 63 == 1) = false := by
      have hzero : b.toNat / Nat.pow 2 63 = 0 := by rw [← hs, hsign]; rfl
      rw [hzero]
      rfl
    rw [hneg]
    split
    · rename_i hE
      rw [if_pos (hmax.2 hE)] at h
      split
      · exact .inr (.inr rfl)
      · rename_i hF
        rw [if_neg (fun h0 => hF (hzero.1 h0))] at h
        cases h
    · split
      · exact .inl ⟨_, _, rfl⟩
      · exact .inl ⟨_, _, rfl⟩
  · -- Of the doubles with the sign bit set only zero is not negative.
    have hof : Sign.ofBitVec (@unpackSign .binary64 b) = .negative := if_neg hsign
    rw [hof] at h
    split at h
    · split at h <;> cases h
    · rename_i hE
      split at h
      · rename_i hE0
        split at h
        · rename_i hF
          rw [if_neg (fun h0 => hE (hmax.2 h0)), if_pos (hlow.1 hE0)]
          exact .inr (.inl ⟨_, _, by rw [show b.toNat % Nat.pow 2 52 = 0 from hzero.1 hF]⟩)
        · cases h
      · cases h

theorem zero_le_neg_ofNat_zero : 0 ≤ -Float.ofNat 0 := by decide

/-- Rounding to a whole number does not lead below zero. -/
theorem zero_le_toWhole {whole : Nat → Nat → Nat} (hw : ∀ den, 0 < den → whole 0 den = 0) {x : Float}
    (h : 0 ≤ x) : 0 ≤ toWhole whole x := by
  unfold toWhole
  rcases parts_of_zero_le h with ⟨m, e, hp⟩ | ⟨negative, e, hp⟩ | hp
  · rw [hp]
    dsimp only
    split
    · exact h
    · exact zero_le_ofNat _
  · rw [hp]
    dsimp only
    split
    · exact h
    · rw [hw _ (Nat.pos_of_ne_zero (by simp))]
      split
      · exact zero_le_neg_ofNat_zero
      · exact zero_le_ofNat 0
  · rw [hp]
    exact h

theorem zero_le_round {x : Float} (h : 0 ≤ x) : 0 ≤ round x :=
  zero_le_toWhole (fun den hd => by simp [roundDiv, hd]) h

end Triage.Number
