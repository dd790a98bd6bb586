import Triage.Engine.Enrich
import Triage.Proofs.Cvss
import Triage.Proofs.Listing

/-!
# Ranking

The risk score of a finding is never negative and so never NaN, whatever the finding carries. Risk
scores are therefore ordered in full, and `rank` sorts by them: the result is a rearrangement of the
scored findings, falls in risk, and keeps the order of findings of the same risk.
-/
namespace Triage

open Number

/-! ## Risk scores are numbers -/

namespace Scoring

theorem zero_le_clampUnit (x : Float) : 0 ≤ clampUnit x := by
  unfold clampUnit
  split
  · rename_i h
    split
    · exact le_of_lt (of_decide_eq_true h)
    · exact zero_le_ofNat 1
  · exact zero_le_ofNat 0

theorem zero_le_baseline (s : Severity) : 0 ≤ (baseline s : Float) := by
  unfold baseline
  split <;> exact zero_le_ofNat _

theorem zero_le_effectiveCvss (explicit : Option Float) {vector : Option Float}
    (hv : ∀ x, vector = some x → 0 ≤ x) (s : Severity) : 0 ≤ effectiveCvss explicit vector s := by
  unfold effectiveCvss
  split
  · rename_i x hx
    have hu : usable x = true := (Option.filter_eq_some_iff.1 hx).2
    have hx0 : 0 ≤ x := of_decide_eq_true ((Bool.and_eq_true _ _).mp hu).2
    unfold atMostTen
    split
    · exact hx0
    · exact zero_le_ofNat 10
  · cases vector with
    | none => exact zero_le_baseline s
    | some x => exact hv x rfl

/-- **No signal takes the risk score below zero**, as none of them is negative. -/
theorem zero_le_risk {s : Signals Float} (h : 0 ≤ s.cvss) : 0 ≤ s.risk := by
  have hbase : 0 ≤ Float.ofNat 4 * s.cvss := zero_le_mul_left (by decide) h
  unfold Signals.risk
  refine zero_le_ite _ (zero_le_add ?_ (zero_le_ofNat 40)) ?_ <;>
  refine zero_le_ite _ (zero_le_add ?_ (zero_le_ofNat 10)) ?_ <;>
  · split
    · exact zero_le_add hbase (zero_le_mul_left (by decide) (zero_le_clampUnit _))
    · exact hbase

end Scoring

namespace Finding

theorem zero_le_riskScore_score (f : Finding) : 0 ≤ f.score.riskScore :=
  Scoring.zero_le_risk
    (Scoring.zero_le_effectiveCvss _ (fun _ h => Cvss.zero_le_of_score? h) _)

def riskPlace (f : Finding) : Int ×ₗ Int ×ₗ Int := place f.riskScore.toModel.unpack

end Finding

/-! ## The order of the findings -/

namespace Engine

/-- `a` may come before `b` in a ranking, read off the places of their scores. -/
def mayPrecede (a b : Finding) : Bool := decide (b.riskPlace ≤ a.riskPlace)

theorem mayPrecede_trans (a b c : Finding) (hab : mayPrecede a b) (hbc : mayPrecede b c) :
    mayPrecede a c :=
  decide_eq_true (le_trans (of_decide_eq_true hbc) (of_decide_eq_true hab))

theorem mayPrecede_total (a b : Finding) : (mayPrecede a b || mayPrecede b a) = true := by
  rcases le_total b.riskPlace a.riskPlace with h | h
  · simp [mayPrecede, h]
  · simp [mayPrecede, h]

theorem isNaN_of_mem_scored {fs : List Finding} {f : Finding} (h : f ∈ fs.map Finding.score) :
    f.riskScore.isNaN = false := by
  obtain ⟨g, -, rfl⟩ := List.mem_map.1 h
  exact isNaN_of_zero_le g.zero_le_riskScore_score

/-- Among scored findings the comparison of doubles is that of places, which is total. -/
theorem rank_eq_mergeSort (fs : List Finding) :
    rank fs = (fs.map Finding.score).mergeSort mayPrecede := by
  refine Listing.mergeSort_congr fun a ha b hb => ?_
  have hlt := lt_iff_place (isNaN_of_mem_scored ha) (isNaN_of_mem_scored hb)
  rw [Bool.eq_iff_iff, Bool.not_eq_true', decide_eq_false_iff_not, hlt, not_lt]
  exact decide_eq_true_iff.symm

theorem perm_rank (fs : List Finding) : (rank fs).Perm (fs.map Finding.score) :=
  List.mergeSort_perm _ _

theorem length_rank (fs : List Finding) : (rank fs).length = fs.length := by
  rw [(perm_rank fs).length_eq, List.length_map]

theorem sorted_rank (fs : List Finding) : (rank fs).Pairwise fun a b => mayPrecede a b = true := by
  rw [rank_eq_mergeSort]
  exact List.pairwise_mergeSort mayPrecede_trans mayPrecede_total _

/-- **A ranking falls in risk.** -/
theorem pairwise_rank (fs : List Finding) :
    (rank fs).Pairwise fun a b => b.riskScore ≤ a.riskScore := by
  refine (sorted_rank fs).imp_of_mem fun {a b} ha hb h => ?_
  have hnan := fun f hf => isNaN_of_mem_scored ((perm_rank fs).mem_iff.1 hf : f ∈ _)
  exact (le_iff_place (hnan b hb) (hnan a ha)).2 (of_decide_eq_true h)

/-- Findings with the scores of a ranking, one by one, are left in their order when they are ranked. -/
theorem rank_of_places {fs gs : List Finding}
    (h : (gs.map Finding.score).map Finding.riskPlace = (rank fs).map Finding.riskPlace) :
    rank gs = gs.map Finding.score := by
  have hplaces : ((rank fs).map Finding.riskPlace).Pairwise fun p q => decide (q ≤ p) = true :=
    List.pairwise_map.2 (sorted_rank fs)
  rw [← h] at hplaces
  rw [rank_eq_mergeSort]
  exact List.mergeSort_of_pairwise (List.pairwise_map.1 hplaces)

/-- **A ranking is stable**: findings of the same risk keep their order. -/
theorem filter_rank (fs : List Finding) (r : Float) :
    (rank fs).filter (·.riskScore == r) = (fs.map Finding.score).filter (·.riskScore == r) := by
  -- The findings of one risk are in order as they stand, and a stable sort leaves them so.
  have hsame : ((fs.map Finding.score).filter (·.riskScore == r)).Pairwise
      fun a b => mayPrecede a b = true := by
    refine List.pairwise_of_forall_mem_list fun a ha b hb => ?_
    obtain ⟨ha, har⟩ := List.mem_filter.1 ha
    obtain ⟨hb, hbr⟩ := List.mem_filter.1 hb
    have hr := isNaN_of_beq har
    rw [beq_iff_place (isNaN_of_mem_scored ha) hr] at har
    rw [beq_iff_place (isNaN_of_mem_scored hb) hr] at hbr
    exact decide_eq_true (le_of_eq (hbr.trans har.symm))
  have hsub : ((fs.map Finding.score).filter (·.riskScore == r)).Sublist (rank fs) := by
    rw [rank_eq_mergeSort]
    exact List.sublist_mergeSort mayPrecede_trans mayPrecede_total hsame List.filter_sublist
  have hsub := hsub.filter (·.riskScore == r)
  rw [List.filter_filter] at hsub
  simp only [Bool.and_self] at hsub
  exact (hsub.eq_of_length ((perm_rank fs).filter _).length_eq.symm).symm

end Engine

end Triage
