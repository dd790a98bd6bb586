import Mathlib
import Triage.Scoring

/-!
# Scores over exact numbers

The rules of scoring are stated over any numbers. Here they are read over exact ones: rational numbers,
and NaN as a value of its own (`Exact`). Then the risk score has a closed form (`risk_eq_total`), in
which every signal has a share of its own.

Main statement `scores_follow_signals`: raising a signal never lowers the score and never leads to a less
urgent tier, known exploitation outweighs everything but the CVSS score, and every score is a number
between 0 and 115.
-/
namespace Triage

open Magnitude

/-! ## Exact numbers -/

/-- A rational number, or NaN. -/
inductive Exact where
  | number (q : ℚ)
  | nan
  deriving DecidableEq

namespace Exact

instance : Magnitude Exact where
  ofNat n := .number n
  add
    | .number a, .number b => .number (a + b)
    | _, _ => .nan
  mul
    | .number a, .number b => .number (a * b)
    | _, _ => .nan
  lt
    | .number a, .number b => a < b
    | _, _ => false
  le
    | .number a, .number b => a ≤ b
    | _, _ => false
  isNaN
    | .number _ => false
    | .nan => true

instance (n : Nat) : OfNat Exact n := ⟨Magnitude.ofNat n⟩

instance : LE Exact := ⟨fun x y => Magnitude.le x y = true⟩

instance : LT Exact := ⟨fun x y => Magnitude.lt x y = true⟩

variable {a b : ℚ}

@[simp] theorem magnitude_ofNat (n : Nat) : (Magnitude.ofNat n : Exact) = .number n := rfl

@[simp] theorem magnitude_add : Magnitude.add (number a) (number b) = number (a + b) := rfl

@[simp] theorem magnitude_mul : Magnitude.mul (number a) (number b) = number (a * b) := rfl

@[simp] theorem magnitude_lt : Magnitude.lt (number a) (number b) = decide (a < b) := rfl

@[simp] theorem magnitude_le : Magnitude.le (number a) (number b) = decide (a ≤ b) := rfl

@[simp] theorem isNaN_number : Magnitude.isNaN (number a) = false := rfl

@[simp] theorem ofNat_eq (n : Nat) [n.AtLeastTwo] : (OfNat.ofNat n : Exact) = number (OfNat.ofNat n : ℚ) := rfl

@[simp] theorem zero_eq : (0 : Exact) = number 0 := congrArg number Nat.cast_zero

@[simp] theorem number_le : number a ≤ number b ↔ a ≤ b := decide_eq_true_iff

@[simp] theorem number_lt : number a < number b ↔ a < b := decide_eq_true_iff

/-- Only numbers can be compared. -/
theorem exists_of_le {x y : Exact} (h : x ≤ y) : ∃ a b, x = number a ∧ y = number b ∧ a ≤ b := by
  cases x with
  | nan => cases h
  | number a =>
    cases y with
    | nan => cases h
    | number b => exact ⟨a, b, rfl, rfl, number_le.1 h⟩

end Exact

namespace Scoring

open Exact

/-! ## Shares of the signals -/

/-- What a finding offers to scoring: the fields that are read, over any numbers. -/
structure Evidence (α : Type) where
  score : Option α := none
  vector : String := ""
  severity : String := ""
  probability : Option α := none
  weaponized : Bool := false
  exploited : Bool := false

/-- The signals of a finding, where `score?` gives the base scores of vectors. -/
def Evidence.signals {α : Type} [Magnitude α] (score? : String → Option α) (e : Evidence α) : Signals α :=
  ⟨effectiveCvss e.score (score? e.vector) (Severity.parse e.severity), e.probability, e.weaponized, e.exploited⟩

theorem clampUnit_number (q : ℚ) : clampUnit (number q) = number (max 0 (min 1 q)) := by
  simp only [clampUnit, magnitude_ofNat, magnitude_lt, decide_eq_true_eq, Nat.cast_zero, Nat.cast_one]
  split
  · rename_i hpos
    split
    · rename_i hlt
      rw [min_eq_right hlt.le, max_eq_right hpos.le]
    · rename_i hge
      rw [min_eq_left (not_lt.1 hge), max_eq_right zero_le_one]
  · rename_i hneg
    rw [max_eq_left (le_trans (min_le_right 1 q) (not_lt.1 hneg))]

theorem atMostTen_number (q : ℚ) : atMostTen (number q) = number (min q 10) := by
  simp only [atMostTen, magnitude_ofNat, magnitude_lt, decide_eq_true_eq, Nat.cast_ofNat]
  split
  · rename_i hlt
    rw [min_eq_left hlt.le]
  · rename_i hge
    rw [min_eq_right (not_lt.1 hge)]

/-- The probability that counts; none counts for zero, as does NaN. -/
def likelihood : Option Exact → ℚ
  | some (.number q) => max 0 (min 1 q)
  | _ => 0

theorem likelihood_nonneg (p : Option Exact) : 0 ≤ likelihood p := by
  unfold likelihood
  split
  · exact le_max_left _ _
  · exact le_rfl

theorem likelihood_le_one (p : Option Exact) : likelihood p ≤ 1 := by
  unfold likelihood
  split
  · exact max_le zero_le_one (min_le_left _ _)
  · exact zero_le_one

theorem likelihood_mono {a b : ℚ} (h : a ≤ b) :
    likelihood (some (.number a)) ≤ likelihood (some (.number b)) :=
  max_le_max le_rfl (min_le_min le_rfl h)

/-- What a signal that is present or not adds to a score. -/
def share (present : Bool) (weight : ℚ) : ℚ := if present then weight else 0

/-- The risk score of signals with the CVSS score `cvss`, as a sum of their shares. -/
def total (cvss : ℚ) (p : Option Exact) (weaponized exploited : Bool) : ℚ :=
  4 * cvss + 25 * likelihood p + share weaponized 10 + share exploited 40

/-- **The risk score is the sum of the shares.** -/
theorem risk_eq_total {s : Signals Exact} {c : ℚ} (h : s.cvss = number c) :
    s.risk = number (total c s.probability s.weaponized s.exploited) := by
  obtain ⟨cvss, p, weaponized, exploited⟩ := s
  dsimp only at h
  subst h
  -- The forecast decides how the sum begins; the other two signals add to either beginning.
  rcases p with _ | q | _
  · cases weaponized <;> cases exploited <;> simp [Signals.risk, total, share, likelihood, add_assoc]
  · have hq : (some (number q)).filter (fun x => !isNaN x) = some (number q) := rfl
    cases weaponized <;> cases exploited <;>
      simp [Signals.risk, hq, clampUnit_number, total, share, likelihood, add_assoc]
  · have hq : (some nan).filter (fun x => !isNaN x) = none := rfl
    cases weaponized <;> cases exploited <;>
      simp [Signals.risk, hq, total, share, likelihood, add_assoc]

/-! ## The CVSS score that counts -/

/-- A base score is in the range of CVSS scores. -/
def InRange (x : Exact) : Prop := 0 ≤ x ∧ x ≤ 10

theorem exists_of_inRange {x : Exact} (h : InRange x) : ∃ c, x = number c ∧ 0 ≤ c ∧ c ≤ 10 := by
  obtain ⟨h0, h10⟩ := h
  cases x with
  | nan => cases h0
  | number c => exact ⟨c, rfl, by simpa using h0, by simpa using h10⟩

theorem inRange_baseline (s : Severity) : InRange (baseline s) := by
  cases s <;> constructor <;> simp [baseline] <;> norm_num

theorem effectiveCvss_of_usable {c : ℚ} (h : 0 ≤ c) (v : Option Exact) (s : Severity) :
    effectiveCvss (some (number c)) v s = number (min c 10) := by
  have hu : usable (number c) = true := by simp [usable, h]
  rw [effectiveCvss, Option.filter_some, if_pos hu]
  exact atMostTen_number c

theorem effectiveCvss_of_unusable {e : Option Exact} (h : e.filter usable = none) (v : Option Exact)
    (s : Severity) : effectiveCvss e v s = v.getD (baseline s) := by
  rw [effectiveCvss, h]

/-- **The CVSS score that counts is in range**, on all three levels. -/
theorem inRange_effectiveCvss (e : Option Exact) {v : Option Exact} (hv : ∀ x, v = some x → InRange x)
    (s : Severity) : InRange (effectiveCvss e v s) := by
  cases he : e.filter usable with
  | some x =>
    obtain ⟨rfl, hx⟩ := Option.filter_eq_some_iff.1 he
    cases x with
    | nan => cases hx
    | number c =>
      have hc : 0 ≤ c := by simpa [usable] using hx
      rw [effectiveCvss_of_usable hc]
      constructor
      · simpa using hc
      · simp
  | none =>
    rw [effectiveCvss_of_unusable he]
    cases v with
    | none => exact inRange_baseline s
    | some x => exact hv x rfl

/-! ## Tiers -/

theorem rank_tierOfScore (a : ℚ) :
    (tierOfScore (number a)).rank = if 45 ≤ a then 1 else if 30 ≤ a then 2 else if 15 ≤ a then 3 else 4 := by
  simp only [tierOfScore, magnitude_ofNat, magnitude_le, decide_eq_true_eq, Nat.cast_ofNat]
  split_ifs <;> rfl

/-- A higher score never leads to a less urgent tier. -/
theorem rank_tierOfScore_anti {a b : ℚ} (h : a ≤ b) :
    (tierOfScore (number b)).rank ≤ (tierOfScore (number a)).rank := by
  rw [rank_tierOfScore, rank_tierOfScore]
  split_ifs <;> linarith

theorem one_le_rank_tierOfScore (a : ℚ) : 1 ≤ (tierOfScore (number a)).rank := by
  rw [rank_tierOfScore]
  split_ifs <;> norm_num

/-- The urgency of a tier, spelled out. -/
theorem rank_tier (a : ℚ) (weaponized exploited : Bool) :
    (tier (number a) weaponized exploited).rank =
      if exploited then 0 else if weaponized then 1 else (tierOfScore (number a)).rank := by
  have h1 := one_le_rank_tierOfScore a
  cases exploited with
  | true => rfl
  | false =>
    cases weaponized with
    | false => rfl
    | true =>
      have hc : Priority.critical.rank = 1 := rfl
      simp only [tier, Bool.true_and, decide_eq_true_eq, Bool.false_eq_true, if_false, if_true]
      split
      · exact hc
      · omega

/-- **Tiers follow scores and signs of exploitation.** -/
theorem rank_tier_anti {a b : ℚ} (h : a ≤ b) {w w' k k' : Bool} (hw : w ≤ w') (hk : k ≤ k') :
    (tier (number b) w' k').rank ≤ (tier (number a) w k).rank := by
  have h1 := one_le_rank_tierOfScore a
  have hanti := rank_tierOfScore_anti h
  rw [rank_tier, rank_tier]
  revert hw hk
  cases w <;> cases w' <;> cases k <;> cases k' <;> simp <;> omega

/-! ## Raising one signal -/

/-- `Raised a b`: the finding `b` agrees with `a` but for one signal, which is higher in `b`. Numbers are
compared as such, so that neither of the two is NaN. -/
inductive Raised : Evidence Exact → Evidence Exact → Prop
  | score (e : Evidence Exact) {x y : Exact} (hx : 0 ≤ x) (h : x ≤ y) :
    Raised { e with score := some x } { e with score := some y }
  | probability (e : Evidence Exact) {p q : Exact} (h : p ≤ q) :
    Raised { e with probability := some p } { e with probability := some q }
  | weaponized (e : Evidence Exact) : Raised { e with weaponized := false } { e with weaponized := true }
  | exploited (e : Evidence Exact) : Raised { e with exploited := false } { e with exploited := true }

variable {score? : String → Option Exact}

/-- The signals of a finding have a CVSS score in range, and so a score that is a sum of shares. -/
theorem exists_cvss (h : ∀ vector x, score? vector = some x → InRange x) (e : Evidence Exact) :
    ∃ c, (e.signals score?).cvss = number c ∧ 0 ≤ c ∧ c ≤ 10 :=
  exists_of_inRange (inRange_effectiveCvss _ (h e.vector) _)

theorem risk_signals {e : Evidence Exact} {c : ℚ} (h : (e.signals score?).cvss = number c) :
    (e.signals score?).risk = number (total c e.probability e.weaponized e.exploited) :=
  risk_eq_total h

theorem tier_signals {e : Evidence Exact} {c : ℚ} (h : (e.signals score?).cvss = number c) :
    (e.signals score?).tier = tier (number (total c e.probability e.weaponized e.exploited)) e.weaponized
      e.exploited := by
  rw [Signals.tier, risk_signals h]
  rfl

/-- What a raised signal does to the shares: the CVSS score and the likelihood do not fall, and no sign of
exploitation is lost. -/
theorem Raised.shares (h : ∀ vector x, score? vector = some x → InRange x) {a b : Evidence Exact}
    (hr : Raised a b) :
    ∃ c d, (a.signals score?).cvss = number c ∧ (b.signals score?).cvss = number d ∧ c ≤ d ∧
      likelihood a.probability ≤ likelihood b.probability ∧ a.weaponized ≤ b.weaponized ∧
      a.exploited ≤ b.exploited := by
  cases hr with
  | @score e x y hx hxy =>
    obtain ⟨c, d, rfl, rfl, hcd⟩ := exists_of_le hxy
    have hc : 0 ≤ c := by simpa using hx
    refine ⟨min c 10, min d 10, effectiveCvss_of_usable hc _ _, effectiveCvss_of_usable (hc.trans hcd) _ _,
      min_le_min hcd le_rfl, le_rfl, le_rfl, le_rfl⟩
  | @probability e p q hpq =>
    obtain ⟨a, b, rfl, rfl, hab⟩ := exists_of_le hpq
    obtain ⟨c, hc, -⟩ := exists_cvss h e
    exact ⟨c, c, hc, hc, le_rfl, likelihood_mono hab, le_rfl, le_rfl⟩
  | weaponized e =>
    obtain ⟨c, hc, -⟩ := exists_cvss h e
    exact ⟨c, c, hc, hc, le_rfl, le_rfl, Bool.false_le _, le_rfl⟩
  | exploited e =>
    obtain ⟨c, hc, -⟩ := exists_cvss h e
    exact ⟨c, c, hc, hc, le_rfl, le_rfl, le_rfl, Bool.false_le _⟩

theorem share_mono {present present' : Bool} (h : present ≤ present') (weight : ℚ) (hw : 0 ≤ weight) :
    share present weight ≤ share present' weight := by
  revert h
  cases present <;> cases present' <;> simp [share, hw]

/-- **Raising a signal** never lowers the score, and never leads to a less urgent tier. -/
theorem Raised.follows (h : ∀ vector x, score? vector = some x → InRange x) {a b : Evidence Exact}
    (hr : Raised a b) :
    (a.signals score?).risk ≤ (b.signals score?).risk ∧
      (b.signals score?).tier.rank ≤ (a.signals score?).tier.rank := by
  obtain ⟨c, d, hc, hd, hcd, hp, hw, hk⟩ := hr.shares h
  have htotal : total c a.probability a.weaponized a.exploited ≤
      total d b.probability b.weaponized b.exploited := by
    have hws := share_mono hw 10 (by norm_num)
    have hks := share_mono hk 40 (by norm_num)
    unfold total
    linarith
  rw [risk_signals hc, risk_signals hd, tier_signals hc, tier_signals hd]
  exact ⟨number_le.2 htotal, rank_tier_anti htotal hw hk⟩

/-- Known exploitation outweighs a certain forecast and a weaponized exploit together. -/
theorem total_lt_of_exploited (c : ℚ) (p q : Option Exact) (w w' : Bool) :
    total c q w' false < total c p w true := by
  have hp := likelihood_nonneg p
  have hq := likelihood_le_one q
  have hw : 0 ≤ share w 10 := by cases w <;> simp [share]
  have hw' : share w' 10 ≤ 10 := by cases w' <;> simp [share]
  simp only [total, share, Bool.false_eq_true, if_false, if_true] at *
  linarith

theorem total_range {c : ℚ} (h0 : 0 ≤ c) (h10 : c ≤ 10) (p : Option Exact) (w k : Bool) :
    0 ≤ total c p w k ∧ total c p w k ≤ 115 := by
  have hp := likelihood_nonneg p
  have hp1 := likelihood_le_one p
  cases w <;> cases k <;> simp only [total, share, Bool.false_eq_true, if_false, if_true] <;>
    constructor <;> linarith

end Scoring

/-! ## Findings -/

def Finding.evidence (f : Finding) : Scoring.Evidence Float :=
  { score := f.cvssScore, vector := f.cvssVector, severity := f.severity
    probability := f.forecast.map (·.probability), weaponized := f.weaponized, exploited := f.inCatalog }

namespace Scoring

open Exact

/-- **Scores follow the signals.** Over exact numbers, and with base scores between 0 and 10:

* raising one signal (the CVSS score from 0 on, the probability, a weaponized exploit, or known
  exploitation) never lowers the score and never leads to a less urgent tier;
* with known exploitation the score is above every score without it at the same CVSS score;
* known exploitation is always immediate, and a weaponized exploit critical at least;
* every score is a number from 0 to 115.

These are the rules by which a finding is scored, there with doubles. -/
theorem scores_follow_signals (score? : String → Option Exact)
    (hbase : ∀ vector x, score? vector = some x → 0 ≤ x ∧ x ≤ 10) :
    (∀ a b, Raised a b → (a.signals score?).risk ≤ (b.signals score?).risk ∧
      (b.signals score?).tier.rank ≤ (a.signals score?).tier.rank) ∧
    (∀ a b : Evidence Exact, a.exploited = true → b.exploited = false →
      (a.signals score?).cvss = (b.signals score?).cvss →
      (b.signals score?).risk < (a.signals score?).risk) ∧
    (∀ a : Evidence Exact, a.exploited = true → (a.signals score?).tier = .immediate) ∧
    (∀ a : Evidence Exact, a.weaponized = true →
      (a.signals score?).tier.rank ≤ Priority.critical.rank) ∧
    (∀ a : Evidence Exact, isNaN (a.signals score?).risk = false ∧ 0 ≤ (a.signals score?).risk ∧
      (a.signals score?).risk ≤ 115) ∧
    ∀ f : Finding, f.score =
      { f with
        riskScore := (f.evidence.signals Cvss.score?).risk
        priority := (f.evidence.signals Cvss.score?).tier.name } := by
  refine ⟨fun a b hr => hr.follows hbase, ?_, ?_, ?_, ?_, fun f => rfl⟩
  · intro a b ha hb hcvss
    obtain ⟨c, hc, -⟩ := exists_cvss hbase a
    rw [risk_signals hc, risk_signals (hcvss ▸ hc), ha, hb]
    exact number_lt.2 (total_lt_of_exploited c _ _ _ _)
  · intro a ha
    obtain ⟨c, hc, -⟩ := exists_cvss hbase a
    rw [tier_signals hc, ha]
    rfl
  · intro a ha
    obtain ⟨c, hc, -⟩ := exists_cvss hbase a
    rw [tier_signals hc, rank_tier, ha]
    cases a.exploited <;> simp [Priority.rank]
  · intro a
    obtain ⟨c, hc, h0, h10⟩ := exists_cvss hbase a
    obtain ⟨hlow, hhigh⟩ := total_range h0 h10 a.probability a.weaponized a.exploited
    rw [risk_signals hc]
    exact ⟨rfl, by simpa using hlow, by simpa using hhigh⟩

/-- Base scores that know the worst vector only. -/
def worstOnly (vector : String) : Option Exact :=
  if vector = "AV:N/AC:L/Au:N/C:C/I:C/A:C" then some 10 else none

theorem inRange_worstOnly (vector : String) (x : Exact) (h : worstOnly vector = some x) : 0 ≤ x ∧ x ≤ 10 := by
  unfold worstOnly at h
  split at h
  · cases h
    constructor <;> simp
  · cases h

/-- With the worst vector, and 10 for its base score: the probability may rise above one, and known
exploitation outweighs a weaponized exploit with a certain forecast although its own forecast is NaN. -/
theorem scores_at_worst_vector :
    let e : Evidence Exact := { vector := "AV:N/AC:L/Au:N/C:C/I:C/A:C" }
    let unlikely := { e with probability := some (number (-1)) }
    let certain := { e with probability := some 2 }
    let weaponized := { certain with weaponized := true }
    let exploited := { e with probability := some nan, exploited := true }
    Cvss.score? e.vector = some 10 ∧ worstOnly e.vector = some 10 ∧
      Raised unlikely certain ∧
      (unlikely.signals worstOnly).risk ≤ (certain.signals worstOnly).risk ∧
      (certain.signals worstOnly).tier.rank ≤ (unlikely.signals worstOnly).tier.rank ∧
      (weaponized.signals worstOnly).risk < (exploited.signals worstOnly).risk ∧
      (exploited.signals worstOnly).tier = .immediate ∧
      (weaponized.signals worstOnly).tier.rank ≤ Priority.critical.rank ∧
      (exploited.signals worstOnly).risk ≤ 115 := by
  intro e unlikely certain weaponized exploited
  obtain ⟨hraised, hexploited, himmediate, hweaponized, hrange, -⟩ :=
    scores_follow_signals worstOnly inRange_worstOnly
  have hr : Raised unlikely certain := .probability e (number_le.2 (by norm_num))
  obtain ⟨hrisk, htier⟩ := hraised _ _ hr
  exact ⟨by decide +kernel, rfl, hr, hrisk, htier, hexploited exploited weaponized rfl rfl rfl,
    himmediate exploited rfl, hweaponized weaponized rfl, (hrange exploited).2.2⟩

end Scoring

end Triage
