import Mathlib.Data.Nat.Basic
import Mathlib.Order.Compare
import Mathlib.Order.PiLex
import Triage.Version

/-!
# The order of releases

A version without a pre-release part is a release. Releases are ordered like the infinite sequences of their
segments, where missing segments are zero: by the first place where they differ (`compare_of_release`). So their order
is total and transitive however many segments each of them has. Trailing zeros and metadata do not count.
-/
namespace Triage.Version

/-- Segments with zeros behind them, ordered by the first place where they differ. -/
def place (segments : List Nat) : Lex (Nat → Nat) := toLex fun i => segments.getD i 0

theorem place_lt_iff {as bs : List Nat} :
    place as < place bs ↔ ∃ i, (∀ j < i, as.getD j 0 = bs.getD j 0) ∧ as.getD i 0 < bs.getD i 0 := Iff.rfl

theorem place_eq_iff {as bs : List Nat} : place as = place bs ↔ ∀ i, as.getD i 0 = bs.getD i 0 := by
  rw [place, place, toLex_inj, funext_iff]

/-- **The first segment decides**, unless it is the same. -/
theorem place_cons_lt_iff {a b : Nat} {as bs : List Nat} :
    place (a :: as) < place (b :: bs) ↔ a < b ∨ a = b ∧ place as < place bs := by
  simp only [place_lt_iff]
  constructor
  · rintro ⟨i, hsame, hlt⟩
    cases i with
    | zero => exact .inl hlt
    | succ i => exact .inr ⟨hsame 0 (Nat.succ_pos i), i, fun j hj => hsame (j + 1) (Nat.succ_lt_succ hj), hlt⟩
  · rintro (hlt | ⟨rfl, i, hsame, hlt⟩)
    · exact ⟨0, fun j hj => absurd hj (Nat.not_lt_zero j), hlt⟩
    · refine ⟨i + 1, fun j hj => ?_, hlt⟩
      cases j with
      | zero => rfl
      | succ j => exact hsame j (Nat.lt_of_succ_lt_succ hj)

theorem place_cons_eq_iff {a b : Nat} {as bs : List Nat} :
    place (a :: as) = place (b :: bs) ↔ a = b ∧ place as = place bs := by
  simp only [place_eq_iff]
  constructor
  · exact fun h => ⟨h 0, fun i => h (i + 1)⟩
  · rintro ⟨rfl, h⟩ i
    cases i with
    | zero => rfl
    | succ i => exact h i

theorem compare_place_cons (a b : Nat) (as bs : List Nat) :
    Ord.compare (place (a :: as)) (place (b :: bs)) =
      if a = b then Ord.compare (place as) (place bs) else Ord.compare a b := by
  rcases lt_trichotomy a b with hlt | rfl | hgt
  · rw [if_neg hlt.ne, Nat.compare_eq_lt.2 hlt]
    exact compare_lt_iff_lt.2 (place_cons_lt_iff.2 (.inl hlt))
  · rw [if_pos rfl]
    rcases lt_trichotomy (place as) (place bs) with h | h | h
    · rw [compare_lt_iff_lt.2 h]
      exact compare_lt_iff_lt.2 (place_cons_lt_iff.2 (.inr ⟨rfl, h⟩))
    · rw [compare_eq_iff_eq.2 h]
      exact compare_eq_iff_eq.2 (place_cons_eq_iff.2 ⟨rfl, h⟩)
    · rw [compare_gt_iff_gt.2 h]
      exact compare_gt_iff_gt.2 (place_cons_lt_iff.2 (.inr ⟨rfl, h⟩))
  · rw [if_neg hgt.ne', Nat.compare_eq_gt.2 hgt]
    exact compare_gt_iff_gt.2 (place_cons_lt_iff.2 (.inl hgt))

/-- Without any segments it is as if there were a zero. -/
theorem place_nil : place [] = place [0] := by
  rw [place_eq_iff]
  intro i
  cases i <;> rfl

theorem compare_place_nil (bs : List Nat) :
    Ord.compare (place []) (place bs) = if bs.all (· == 0) then .eq else .lt := by
  induction bs with
  | nil => exact compare_eq_iff_eq.2 rfl
  | cons b bs ih =>
    rw [place_nil, compare_place_cons, List.all_cons]
    cases b with
    | zero => rw [if_pos rfl, ih, beq_self_eq_true, Bool.true_and]
    | succ b =>
      rw [if_neg (Nat.succ_ne_zero b).symm]
      exact Nat.compare_eq_lt.2 (Nat.succ_pos b)

/-- **Segments are compared by their places.** -/
theorem compareSegments_eq_compare (as bs : List Nat) : compareSegments as bs = Ord.compare (place as) (place bs) := by
  induction as generalizing bs with
  | nil =>
    rw [compare_place_nil]
    cases bs <;> rfl
  | cons a as ih =>
    cases bs with
    | nil =>
      rw [Std.OrientedOrd.eq_swap, compare_place_nil, compareSegments]
      · split <;> rfl
      · exact List.cons_ne_nil a as
    | cons b bs => rw [compareSegments, compare_place_cons, ih]

/-- **Releases are compared by the places of their segments.** -/
theorem compare_of_release {v w : Version} (hv : v.prerelease = []) (hw : w.prerelease = []) :
    v.compare w = Ord.compare (place v.segments) (place w.segments) := by
  have hsame (h : v.segments = w.segments) : Ord.compare (place v.segments) (place w.segments) = .eq :=
    compare_eq_iff_eq.2 (congrArg place h)
  unfold compare
  split
  · rename_i h
    rw [hsame (congrArg segments h)]
  · split
    · rename_i h
      rw [hsame h, hv, hw]
      rfl
    · exact compareSegments_eq_compare _ _

end Triage.Version
