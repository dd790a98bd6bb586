import Triage.Number.Reader
import Triage.Proofs.Number.Order

/-!
# Finite doubles, and those that are read

Whether a double is finite is a matter of its exponent alone, so a change of the sign does not matter. What a
text is read as is finite, unless the text spells infinity or NaN (`readFloat?_cases`).
-/
namespace Triage.Number

open Float.Model Float.Model.UnpackedFloat

/-! ## Finite doubles -/

/-- A word is finite unless all bits of its exponent are set. -/
theorem isFinite_unpack (b : BitVec 64) :
    (UnpackedFloat.unpack .binary64 b).isFinite = true ↔ @unpackExponent .binary64 b ≠ -1#11 := by
  unfold UnpackedFloat.unpack
  dsimp only
  split
  · rename_i he
    split <;> simp [UnpackedFloat.isFinite, he]
  · rename_i he
    split
    · split <;> simpa [UnpackedFloat.isFinite] using he
    · simpa [UnpackedFloat.isFinite] using he

theorem isFinite_iff_unpack (x : Float) : isFinite x = true ↔ x.toModel.unpack.isFinite = true := by
  have hbits : x.toBits.toNat = x.toModel.toBits.toBitVec.toNat := rfl
  simp only [Float.Model.unpack, isFinite_unpack, isFinite, parts, hbits]
  generalize x.toModel.toBits.toBitVec = b
  have hmax : @unpackExponent .binary64 b = -1#11 ↔ b.toNat / Nat.pow 2 52 % Nat.pow 2 11 = 2047 := by
    rw [← toNat_unpackExponent b, ← BitVec.toNat_inj]; rfl
  by_cases hset : b.toNat / Nat.pow 2 52 % Nat.pow 2 11 = 2047
  · rw [if_pos hset]
    by_cases hfraction : b.toNat % Nat.pow 2 52 = 0
    · simp [if_pos hfraction, hmax.2 hset]
    · simp [if_neg hfraction, hmax.2 hset]
  · rw [if_neg hset]
    by_cases hlow : b.toNat / Nat.pow 2 52 % Nat.pow 2 11 = 0
    · rw [if_pos hlow]
      exact iff_of_true rfl fun he => hset (hmax.1 he)
    · rw [if_neg hlow]
      exact iff_of_true rfl fun he => hset (hmax.1 he)

theorem isNaN_of_isFinite {x : Float} (h : isFinite x = true) : x.isNaN = false := by
  rw [isFinite_iff_unpack] at h
  show x.toModel.unpack.isNaN = false
  cases hu : x.toModel.unpack <;> simp_all [UnpackedFloat.isFinite, UnpackedFloat.isNaN]

/-- What lies between zero and one is finite. -/
theorem isFinite_of_unit {x : Float} (h₀ : 0 ≤ x) (h₁ : x ≤ 1) : isFinite x = true := by
  rw [zero_le_iff] at h₀
  rw [isFinite_iff_unpack]
  have h₁ : x.toModel.unpack.le (1 : Float).toModel.unpack = true := decide_eq_true_iff.1 h₁
  rcases hu : x.toModel.unpack with (_ | _) | _ | _ | _ <;> rw [hu] at h₀ h₁
  · cases h₀
  · exact absurd h₁ (by decide +kernel)
  · cases h₀
  · rfl
  · rfl

/-- The exponent of a word that unpacks to a mantissa and an exponent is below that of infinity. -/
theorem exponent_lt_of_unpack {b : BitVec 64} {s : Sign} {m : Nat} {e : Int} {hm : 0 < m}
    (h : UnpackedFloat.unpack .binary64 b = .finite s m e hm) : (e + 1023 + 52).toNat + 1 < 2 ^ 11 := by
  have hne : (@unpackExponent .binary64 b).toNat ≠ 2047 := fun he =>
    (isFinite_unpack b).1 (by rw [h]; rfl) (BitVec.toNat_inj.1 he)
  have hlt : (@unpackExponent .binary64 b).toNat < 2 ^ 11 := (@unpackExponent .binary64 b).isLt
  have hexponent : e = (@unpackExponent .binary64 b).toNat - 1075 ∨
      e = (@unpackExponent .binary64 b).toNat - 1075 + 1 ∧ (@unpackExponent .binary64 b).toNat = 0 := by
    unfold UnpackedFloat.unpack at h
    dsimp only at h
    split at h
    · split at h <;> cases h
    · split at h
      · rename_i hlow
        split at h
        · cases h
        · cases h
          exact .inr ⟨rfl, by rw [hlow]; rfl⟩
      · cases h
        exact .inl rfl
  omega

/-- A change of the sign leaves a finite double finite. -/
theorem isFinite_neg {x : Float} (h : isFinite x = true) : isFinite (-x) = true := by
  rw [isFinite_iff_unpack] at h ⊢
  show (UnpackedFloat.unpack .binary64 (UnpackedFloat.pack .binary64 x.toModel.unpack.neg)).isFinite = true
  rcases hu : x.toModel.unpack with _ | _ | s | ⟨s, m, e, hm⟩
  · rw [hu] at h
    cases h
  · rw [hu] at h
    cases h
  · rw [isFinite_unpack, UnpackedFloat.neg, UnpackedFloat.pack, packedZero, unpackExponent_packComponents]
    decide
  · have hlt := exponent_lt_of_unpack hu
    rw [isFinite_unpack, UnpackedFloat.neg, UnpackedFloat.pack]
    dsimp only
    split
    · rename_i hbig
      have hbig : 2 ^ 11 ≤ (e + 1023 + 52).toNat + 1 := hbig
      omega
    · split
      · rw [unpackExponent_packComponents]
        intro he
        have he : (e + 1023 + 52).toNat % 2 ^ 11 = 2047 := congrArg BitVec.toNat he
        rw [Nat.mod_eq_of_lt (by omega)] at he
        omega
      · rw [unpackExponent_packComponents]
        decide

/-! ## Reading -/

theorem isFinite_of_ofDecimal? {negative : Bool} {digits : Nat} {exponent : Int} {x : Float}
    (h : ofDecimal? negative digits exponent = some x) : isFinite x = true := by
  unfold ofDecimal? at h
  obtain ⟨y, hy, rfl⟩ := Option.map_eq_some_iff.1 h
  have hfinite : isFinite y = true := by
    split at hy
    · cases hy
      decide +kernel
    · split at hy
      · cases hy
      · dsimp only at hy
        split at hy
        · cases hy
          assumption
        · cases hy
  cases negative with
  | false => exact hfinite
  | true => exact isFinite_neg hfinite

theorem isFinite_of_ofBinary? {negative : Bool} {mantissa : Nat} {exponent : Int} {x : Float}
    (h : ofBinary? negative mantissa exponent = some x) : isFinite x = true := by
  unfold ofBinary? at h
  dsimp only at h
  split at h
  · cases h
    cases negative <;> decide +kernel
  · split at h
    · cases h
    · split at h
      · exact isFinite_of_ofDecimal? h
      · exact isFinite_of_ofDecimal? h

/-- Digits are read to a finite double, in either base. -/
theorem isFinite_of_readUnsigned {negative : Bool} {cs : List Char} {x : Float}
    (h : readUnsigned negative cs = some x) : isFinite x = true := by
  simp only [readUnsigned, Option.ite_none_left_eq_some] at h
  obtain ⟨-, h⟩ := h
  split_ifs at h with hhex hnone hnone
  · obtain ⟨e, -, hx⟩ := Option.bind_eq_some_iff.1 h
    exact isFinite_of_ofBinary? hx
  · obtain ⟨e, -, hx⟩ := Option.bind_eq_some_iff.1 h
    exact isFinite_of_ofDecimal? hx

/-- The text is the word for NaN, in letters of either case. -/
def SpellsNaN (s : String) : Prop := s.toList.map Char.toLower = "nan".toList

instance (s : String) : Decidable (SpellsNaN s) := inferInstanceAs (Decidable (_ = _))

/-- **What a text is read as**: NaN or infinity if it says so, and a finite double otherwise. -/
theorem readFloat?_cases {s : String} {x : Float} (h : readFloat? s = some x) :
    SpellsNaN s ∧ x.isNaN = true ∨ ¬ SpellsNaN s ∧ x.isNaN = false ∧
      (isFinite x = true ∨ (readSign s.toList).2.map Char.toLower ∈ ["inf".toList, "infinity".toList]) := by
  unfold readFloat? at h
  dsimp only at h
  split at h
  · rename_i hnan
    cases h
    exact .inl ⟨hnan, by decide +kernel⟩
  · rename_i hnan
    refine .inr ⟨hnan, ?_⟩
    split at h
    · rename_i hinf
      cases h
      refine ⟨?_, .inr (by simpa using hinf)⟩
      cases (readSign s.toList).1 <;> decide +kernel
    · have hfinite := isFinite_of_readUnsigned h
      exact ⟨isNaN_of_isFinite hfinite, .inl hfinite⟩

theorem isNaN_iff_spellsNaN {s : String} {x : Float} (h : readFloat? s = some x) : x.isNaN = true ↔ SpellsNaN s := by
  rcases readFloat?_cases h with ⟨hs, hx⟩ | ⟨hs, hx, -⟩
  · exact iff_of_true hx hs
  · exact iff_of_false (by rw [hx]; exact Bool.false_ne_true) hs

end Triage.Number
