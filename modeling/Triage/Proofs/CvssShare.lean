import Mathlib
import Triage.Proofs.Ranking

/-!
# The share of the CVSS score

On doubles, four times a CVSS score stays below the score of a critical finding. A finding that is weaponized or known
to be exploited is critical at least, so its tier gives away that more than its CVSS score has counted. A forecast need
not show: its share may be lost when it is added. That happens to forecasts of zero, and to none from a billionth on.

Main statement: `cvssOnly_iff`.
-/
namespace Triage.Scoring

open Number

/-! ## CVSS scores lie between zero and ten -/

theorem atMostTen_le_ten (x : Float) : atMostTen x ≤ 10 := by
  unfold atMostTen
  split
  · rename_i h
    exact le_of_lt (of_decide_eq_true h)
  · decide

theorem effectiveCvss_le_ten (explicit : Option Float) {vector : Option Float} (hv : ∀ x, vector = some x → x ≤ 10)
    (s : Severity) : effectiveCvss explicit vector s ≤ 10 := by
  unfold effectiveCvss
  split
  · exact atMostTen_le_ten _
  · cases vector with
    | none => cases s <;> decide
    | some x => exact hv x rfl

/-- A CVSS score as it counts: from zero to ten. -/
structure CvssRange (c : Float) : Prop where
  zero_le : 0 ≤ c
  le_ten : c ≤ 10

theorem cvssRange_effectiveCvss (f : Finding) : CvssRange f.effectiveCvss where
  zero_le := zero_le_effectiveCvss _ (fun _ h => (Cvss.score?_bounds h).1) _
  le_ten := effectiveCvss_le_ten _ (fun _ h => (Cvss.score?_bounds h).2) _

section Share

variable {c p : Float}

theorem CvssRange.near_share (h : CvssRange c) : Near 6 (4 * amount c) (4 * c).toModel.unpack ∧ amount c ≤ 10 := by
  have hc := tame_of_le h.zero_le Cvss.tame_ten h.le_ten
  have hle : amount c ≤ 10 := Cvss.amount_ten ▸ amount_le_of_le hc Cvss.tame_ten h.le_ten
  have hnear := amount_mul (x := 4) (k := 6) (tame_iff.2 (by decide)) hc (.inl (by decide)) (by decide) (by decide)
    (by rw [Cvss.amount_four]; linarith)
  rw [Cvss.amount_four] at hnear
  exact ⟨hnear, hle⟩

theorem CvssRange.tame_share (h : CvssRange c) : Tame (4 * c).toModel.unpack := h.near_share.1.tame

theorem CvssRange.amount_share_lt (h : CvssRange c) : amount (4 * c) < 41 := by
  obtain ⟨hnear, hle⟩ := h.near_share
  have hsmall : (2 : ℚ) ^ ((6 : Int) - 51) < 1 := by norm_num
  exact hnear.amount_le.trans_lt (by linarith)

/-- **A CVSS score alone never makes a finding critical.** -/
theorem CvssRange.not_critical (h : CvssRange c) : tierOfScore (4 * c) ≠ .critical := by
  have hnot : ¬ (45 : Float) ≤ 4 * c := by
    intro hle
    have hamount := amount_le_of_le (tame_iff.2 (by decide)) h.tame_share hle
    rw [amount_eq (m := 6333186975989760) (e := -47) (q := 45) rfl (by norm_num)] at hamount
    linarith [h.amount_share_lt]
  have hfirst : Magnitude.le (Magnitude.ofNat 45) (4 * c) = false := decide_eq_false hnot
  unfold tierOfScore
  rw [hfirst]
  grind

/-! ## When a forecast shows -/

/-- The share of a forecast `p` shows in the score, next to that of the CVSS score `c`. -/
def Shows (c p : Float) : Prop := (4 * c + 25 * clampUnit p == 4 * c) = false

/-- A forecast that is not above zero is lost. -/
theorem CvssRange.not_shows (h : CvssRange c) (hp : ¬ 0 < p) : ¬ Shows c p := by
  have hclamp : clampUnit p = 0 := by
    unfold clampUnit
    exact if_neg fun hlt => hp (of_decide_eq_true hlt)
  have hzero : (25 : Float) * 0 = 0 := rfl
  unfold Shows
  rw [hclamp, hzero, add_zero_beq h.tame_share]
  decide

theorem clampUnit_le_one (x : Float) : clampUnit x ≤ 1 := by
  unfold clampUnit
  split
  · split
    · rename_i h
      exact le_of_lt (of_decide_eq_true h)
    · decide
  · decide

/-- Clamping leaves what lies above `q` above it, if `q` is in the range. -/
theorem le_clampUnit {q : Float} (hq : 0 < q) (hq' : q ≤ 1) (h : q ≤ p) : q ≤ clampUnit p := by
  obtain ⟨hqn, hpn⟩ := isNaN_of_le h
  have hpos : 0 < p :=
    (lt_iff_place (by decide) hpn).2 (((lt_iff_place (by decide) hqn).1 hq).trans_le ((le_iff_place hqn hpn).1 h))
  have hfirst : Magnitude.lt (Magnitude.ofNat 0) p = true := decide_eq_true hpos
  unfold clampUnit
  rw [if_pos hfirst]
  split
  · exact h
  · exact hq'

theorem amount_one : amount 1 = 1 := amount_eq (m := 4503599627370496) (e := -52) rfl (by norm_num)

theorem tame_clampUnit (p : Float) : Tame (clampUnit p).toModel.unpack :=
  tame_of_le (zero_le_clampUnit p) (tame_iff.2 (by decide : (0 : Float) ≤ 1 ∧ isFinite 1 = true)) (clampUnit_le_one p)

/-- A forecast of a billionth or more is not lost. -/
theorem CvssRange.shows (h : CvssRange c) (hp : 1e-9 ≤ p) : Shows c p := by
  have hclamp := tame_clampUnit p
  have hone : amount (clampUnit p) ≤ 1 :=
    amount_one ▸ amount_le_of_le hclamp (tame_iff.2 (by decide)) (clampUnit_le_one p)
  have hlow : (4835703278458517 : ℚ) * 2 ^ (-82 : Int) ≤ amount (clampUnit p) := by
    have hle := amount_le_of_le (tame_iff.2 (by decide)) hclamp (le_clampUnit (by decide) (by decide) hp)
    rwa [amount_of_unpack (m := 4835703278458517) (e := -82) rfl] at hle
  have hshare : amount 25 = 25 := amount_eq (m := 7036874417766400) (e := -48) rfl (by norm_num)
  have hproduct := amount_mul (x := 25) (k := 5) (tame_iff.2 (by decide)) hclamp (.inl (by decide)) (by decide)
    (by decide) (by rw [hshare]; linarith)
  rw [hshare] at hproduct
  have hhigh := hproduct.amount_le
  have hlow' := hproduct.le_amount
  have hsum := amount_add (k := 7) h.tame_share hproduct.tame (by decide) (by decide)
    (by have := h.amount_share_lt; norm_num at hhigh ⊢; linarith)
  have hmore : amount (4 * c) < amount (4 * c + 25 * clampUnit p) := by
    refine lt_of_lt_of_le ?_ hsum.le_amount
    norm_num at hlow hlow' ⊢
    linarith
  exact beq_eq_false_of_amount_lt h.tame_share hsum.tame hmore

end Share

/-! ## Tiers -/

theorem tierOfScore_ne_immediate (x : Float) : tierOfScore x ≠ .immediate := by
  unfold tierOfScore
  grind

/-- The tier of a score does not tell scores apart that are equal as numbers. -/
theorem tierOfScore_congr {x y : Float} (hx : x.isNaN = false) (h : (x == y) = true) :
    tierOfScore x = tierOfScore y := by
  have hy := isNaN_of_beq h
  rw [beq_iff_place hx hy] at h
  have hle (n : Nat) : Magnitude.le (Magnitude.ofNat n) x = Magnitude.le (Magnitude.ofNat n) y := by
    have hn : (Float.ofNat n).isNaN = false := isNaN_of_zero_le (zero_le_ofNat n)
    refine decide_eq_decide.2 ((le_iff_place hn hx).trans ?_)
    rw [h]
    exact (le_iff_place hn hy).symm
  simp only [tierOfScore, hle]

section Signals

variable {s : Signals Float}

/-- The forecast, if it is a number, shows in the score. -/
def Signals.ForecastShows (s : Signals Float) : Prop :=
  ∃ p, s.probability = some p ∧ p.isNaN = false ∧ Shows s.cvss p

/-- The score is four times the CVSS score, as a number, and the tier is the one of that score. -/
structure Signals.CvssOnly (s : Signals Float) : Prop where
  risk : (s.risk == 4 * s.cvss) = true
  tier : s.tier = tierOfScore (4 * s.cvss)

theorem tier_of_exploited (h : s.exploited = true) : s.tier = .immediate := by
  rw [Signals.tier, tier, if_pos h]

/-- A weaponized exploit makes a finding critical at least, and known exploitation apart it makes it just that. -/
theorem tier_of_weaponized (hw : s.weaponized = true) (he : s.exploited = false) : s.tier = .critical := by
  have hne := tierOfScore_ne_immediate s.risk
  rw [Signals.tier, tier, hw, he]
  revert hne
  cases tierOfScore s.risk <;> decide

theorem tier_of_quiet (hw : s.weaponized = false) (he : s.exploited = false) : s.tier = tierOfScore s.risk := by
  simp only [Signals.tier, tier, hw, he, Bool.false_and, Bool.false_eq_true, if_false]

theorem risk_of_quiet (hw : s.weaponized = false) (he : s.exploited = false) :
    s.risk =
      match s.probability.filter (!·.isNaN) with
      | some p => 4 * s.cvss + 25 * clampUnit p
      | none => 4 * s.cvss := by
  have hfilter : s.probability.filter (!Magnitude.isNaN ·) = s.probability.filter (!·.isNaN) := rfl
  simp only [Signals.risk, hw, he, Bool.false_eq_true, if_false, hfilter]
  cases s.probability.filter (!·.isNaN) <;> rfl

/-- With nothing but a forecast next to the CVSS score, it is the forecast that makes the difference. -/
theorem risk_beq_iff (hc : CvssRange s.cvss) (hw : s.weaponized = false) (he : s.exploited = false) :
    (s.risk == 4 * s.cvss) = true ↔ ¬ s.ForecastShows := by
  rw [risk_of_quiet hw he]
  cases hp : s.probability.filter (!·.isNaN) with
  | some p =>
    obtain ⟨hprob, hnan⟩ := Option.filter_eq_some_iff.1 hp
    have hshows : s.ForecastShows ↔ Shows s.cvss p :=
      ⟨fun ⟨q, hq, _, hshow⟩ => Option.some.inj (hq.symm.trans hprob) ▸ hshow,
        fun hshow => ⟨p, hprob, by simpa using hnan, hshow⟩⟩
    rw [hshows, Shows, Bool.not_eq_false]
  | none =>
    refine iff_of_true ((beq_iff_place hc.tame_share.isNaN hc.tame_share.isNaN).2 rfl) ?_
    rintro ⟨q, hq, hnan, -⟩
    have hkept : s.probability.filter (!·.isNaN) = some q := Option.filter_eq_some_iff.2 ⟨hq, by rw [hnan]; rfl⟩
    rw [hp] at hkept
    cases hkept

/-- **When only the CVSS score counts**: exactly if the vulnerability is not known to be exploited, no weaponized
exploit is known and no forecast shows. -/
theorem cvssOnly_iff (hc : CvssRange s.cvss) :
    s.CvssOnly ↔ s.exploited = false ∧ s.weaponized = false ∧ ¬ s.ForecastShows := by
  constructor
  · rintro ⟨hrisk, htier⟩
    have he : s.exploited = false := by
      by_contra he
      rw [tier_of_exploited (Bool.not_eq_false _ ▸ he)] at htier
      exact tierOfScore_ne_immediate _ htier.symm
    have hw : s.weaponized = false := by
      by_contra hw
      rw [tier_of_weaponized (Bool.not_eq_false _ ▸ hw) he] at htier
      exact hc.not_critical htier.symm
    exact ⟨he, hw, (risk_beq_iff hc hw he).1 hrisk⟩
  · rintro ⟨he, hw, hshows⟩
    have hrisk := (risk_beq_iff hc hw he).2 hshows
    refine ⟨hrisk, ?_⟩
    rw [tier_of_quiet hw he]
    exact tierOfScore_congr (isNaN_of_zero_le (zero_le_risk hc.zero_le)) hrisk

end Signals

end Triage.Scoring
