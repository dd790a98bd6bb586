import Mathlib
import Triage.Proofs.Intel.Remedy
import Triage.Proofs.Version.Smallest

/-!
# The fix and the order of the ranges

An advisory lists its ranges in some order. The segments of the fix that is found do not depend on it, but as versions
are not ordered where pre-releases fork, the fix itself may. It does not exactly if among the fixes with the lowest
segments one leads the others, and so if they are tidy. Main statement: `fix_orderFree_iff_settled`.
-/
namespace Triage.Advisories

open Version (smaller smallest? Readable OrderFree Settled Tidy)

/-- The version that an installed package is to be updated to. -/
def target? (ranges : List AffectedRange) (package installed : String) : Option Version :=
  (select? ranges package installed).bind fun r => Version.parse? r.firstPatched

def fixesAbove (installed : Version) (ranges : List AffectedRange) : List Version :=
  ranges.filterMap (fixAbove? installed)

theorem readable_of_mem_fixesAbove {installed v : Version} {ranges : List AffectedRange}
    (h : v ∈ fixesAbove installed ranges) : v.Readable := by
  obtain ⟨r, -, hr⟩ := List.mem_filterMap.1 h
  exact Version.readable_of_parse? (fixAbove?_eq_some_iff.1 hr).1

theorem fixesAbove_ne_nil_iff {installed : Version} {ranges : List AffectedRange} :
    fixesAbove installed ranges ≠ [] ↔ ∃ r ∈ ranges, ∃ v, Fixes installed r v := by
  simp only [fixesAbove, ne_eq, List.filterMap_eq_nil_iff, fixAbove?_eq_none_iff, not_forall, not_not, exists_prop]

/-! ## Ranges and their fixes -/

theorem foldl_better_some (installed : Version) (ranges : List AffectedRange) (r : AffectedRange) (best : Version) :
    (ranges.foldl (better installed) (some (r, best))).map (·.2) =
      some ((fixesAbove installed ranges).foldl smaller best) := by
  induction ranges generalizing r best with
  | nil => rfl
  | cons r' ranges ih =>
    rw [List.foldl_cons, fixesAbove]
    unfold better
    cases hfix : fixAbove? installed r' with
    | none => rw [List.filterMap_cons_none hfix]; exact ih r best
    | some v =>
      rw [List.filterMap_cons_some hfix, List.foldl_cons, smaller]
      dsimp only
      split
      · exact ih r' v
      · exact ih r best

/-- The best range is the one whose fix is found by going through the fixes. -/
theorem foldl_better_none (installed : Version) (ranges : List AffectedRange) :
    (ranges.foldl (better installed) none).map (·.2) = smallest? (fixesAbove installed ranges) := by
  induction ranges with
  | nil => rfl
  | cons r ranges ih =>
    rw [List.foldl_cons, fixesAbove]
    unfold better
    cases hfix : fixAbove? installed r with
    | none => rw [List.filterMap_cons_none hfix]; exact ih
    | some v => rw [List.filterMap_cons_some hfix]; exact foldl_better_some installed ranges r v

/-- **The package is updated to the smallest fix that is found**, if there is any above what is installed. -/
theorem target?_eq {ranges : List AffectedRange} {package installed : String} {current : Version}
    (hinstalled : Version.parse? installed = some current)
    (hne : fixesAbove current (candidates ranges package) ≠ []) :
    target? ranges package installed = smallest? (fixesAbove current (candidates ranges package)) := by
  unfold target? select?
  rw [hinstalled]
  generalize candidates ranges package = counting at hne ⊢
  have hbest := best_foldl current counting
  have hmap := foldl_better_none current counting
  dsimp only [Option.bind_some, smallestFix?]
  generalize counting.foldl (better current) none = best at hbest hmap ⊢
  cases hbest with
  | none hnone =>
    obtain ⟨r, hr, v, hv⟩ := fixesAbove_ne_nil_iff.1 hne
    exact absurd hv (hnone r hr v)
  | some hmem hfix hsmallest =>
    rw [← hmap]
    exact hfix.1

/-! ## Orders of ranges and orders of fixes -/

/-- An order of what is taken from a list comes from an order of the list. -/
theorem exists_perm_of_filterMap {α β : Type} {f : α → Option β} {as : List α} {bs : List β}
    (h : bs.Perm (as.filterMap f)) : ∃ order : List α, order.Perm as ∧ order.filterMap f = bs := by
  induction bs generalizing as with
  | nil => exact ⟨as, .refl as, h.nil_eq.symm⟩
  | cons b bs ih =>
    obtain ⟨a, ha, hb⟩ := List.mem_filterMap.1 (h.mem_iff.1 List.mem_cons_self)
    obtain ⟨front, back, rfl⟩ := List.append_of_mem ha
    have hsplit : (front ++ a :: back).Perm (a :: (front ++ back)) := List.perm_middle
    have hrest := h.trans (hsplit.filterMap f)
    rw [List.filterMap_cons_some hb] at hrest
    obtain ⟨order, hperm, rfl⟩ := ih hrest.cons_inv
    exact ⟨a :: order, (hperm.cons a).trans hsplit.symm, List.filterMap_cons_some hb⟩

theorem candidates_perm {ranges ranges' : List AffectedRange} (h : ranges'.Perm ranges) (package : String) :
    (candidates ranges' package).Perm (candidates ranges package) := by
  have habout := h.filter fun r => Text.equalFold r.package package
  unfold candidates
  dsimp only
  rw [habout.isEmpty_eq]
  split
  · exact h
  · exact habout

theorem exists_perm_of_candidates {ranges counting : List AffectedRange} {package : String}
    (h : counting.Perm (candidates ranges package)) :
    ∃ ranges' : List AffectedRange, ranges'.Perm ranges ∧ candidates ranges' package = counting := by
  unfold candidates at h ⊢
  dsimp only at h ⊢
  split at h
  · rename_i hall
    exact ⟨counting, h, if_pos ((h.filter _).isEmpty_eq ▸ hall)⟩
  · rename_i hsome
    -- The ranges about other packages may stand at the end.
    let others := ranges.filter fun r => !Text.equalFold r.package package
    have habout : (counting ++ others).filter (fun r => Text.equalFold r.package package) = counting := by
      rw [List.filter_append, List.filter_eq_self.2 fun r hr => (List.mem_filter.1 (h.mem_iff.1 hr)).2,
        List.filter_eq_nil_iff.2 fun r hr => by simpa using (List.mem_filter.1 hr).2, List.append_nil]
    refine ⟨counting ++ others, (h.append_right others).trans (List.filter_append_perm _ ranges), ?_⟩
    rw [habout, h.isEmpty_eq, if_neg hsome]

/-- The orders of the fixes are those that come from orders of the ranges. -/
theorem perm_fixesAbove_iff {current : Version} {ranges : List AffectedRange} {package : String}
    {order : List Version} : order.Perm (fixesAbove current (candidates ranges package)) ↔
      ∃ ranges' : List AffectedRange, ranges'.Perm ranges ∧
        fixesAbove current (candidates ranges' package) = order := by
  constructor
  · intro h
    obtain ⟨counting, hcounting, hfixes⟩ := exists_perm_of_filterMap h
    obtain ⟨ranges', hperm, rfl⟩ := exists_perm_of_candidates hcounting
    exact ⟨ranges', hperm, hfixes⟩
  · rintro ⟨ranges', hperm, rfl⟩
    exact (candidates_perm hperm package).filterMap _

/-! ## The order of the ranges -/

/-- Both lists of ranges lead to a version, and the two compare equal. -/
def SameTarget (one other : List AffectedRange) (package installed : String) : Prop :=
  ∃ v v', target? one package installed = some v ∧ target? other package installed = some v' ∧ v.compare v' = .eq

section Orders

variable {ranges : List AffectedRange} {package installed : String} {current : Version}

theorem fixesAbove_perm {ranges' : List AffectedRange} (h : ranges'.Perm ranges) :
    (fixesAbove current (candidates ranges' package)).Perm (fixesAbove current (candidates ranges package)) :=
  perm_fixesAbove_iff.2 ⟨ranges', h, rfl⟩

theorem target?_of_perm (hinstalled : Version.parse? installed = some current)
    (hne : fixesAbove current (candidates ranges package) ≠ []) {ranges' : List AffectedRange}
    (h : ranges'.Perm ranges) :
    target? ranges' package installed = smallest? (fixesAbove current (candidates ranges' package)) :=
  target?_eq hinstalled fun hnil => hne (hnil ▸ fixesAbove_perm h).nil_eq.symm

theorem exists_target (hinstalled : Version.parse? installed = some current)
    (hne : fixesAbove current (candidates ranges package) ≠ []) {ranges' : List AffectedRange}
    (h : ranges'.Perm ranges) :
    ∃ v ∈ fixesAbove current (candidates ranges package), target? ranges' package installed = some v ∧
      Version.Lowest (fixesAbove current (candidates ranges package)) v := by
  have hperm : (fixesAbove current (candidates ranges' package)).Perm _ := fixesAbove_perm h
  have hne' : fixesAbove current (candidates ranges' package) ≠ [] := fun hnil => hne (hnil ▸ hperm).nil_eq.symm
  obtain ⟨v, hv, hfound⟩ := Version.exists_smallest? hne'
  have hrun := Version.running_of_smallest? (fun v hv => readable_of_mem_fixesAbove hv) hperm hfound
  exact ⟨v, hrun.mem, (target?_of_perm hinstalled hne h).trans hfound, Version.lowest_iff.2 hrun.lowest⟩

theorem sameTarget_iff_orderFree (hinstalled : Version.parse? installed = some current)
    (hne : fixesAbove current (candidates ranges package) ≠ []) :
    (∀ one other : List AffectedRange, one.Perm ranges → other.Perm ranges → SameTarget one other package installed) ↔
      OrderFree (fixesAbove current (candidates ranges package)) := by
  constructor
  · intro h one other hone hother
    obtain ⟨ranges₁, hperm₁, rfl⟩ := perm_fixesAbove_iff.1 hone
    obtain ⟨ranges₂, hperm₂, rfl⟩ := perm_fixesAbove_iff.1 hother
    have hsame := h ranges₁ ranges₂ hperm₁ hperm₂
    rwa [SameTarget, target?_of_perm hinstalled hne hperm₁, target?_of_perm hinstalled hne hperm₂] at hsame
  · intro h one other hone hother
    rw [SameTarget, target?_of_perm hinstalled hne hone, target?_of_perm hinstalled hne hother]
    exact h _ _ (fixesAbove_perm hone) (fixesAbove_perm hother)

end Orders

/-- **When the fix does not depend on the order of the ranges.** Suppose that among the ranges that count there is a fix
above the installed version. Then in every order of the ranges the package is updated to a fix with the lowest segments.
It is updated to the same version in all orders exactly if among the fixes with the same lowest segments one leads the
others. This is so if no number in a pre-release is too large, none is written in two ways, and no pre-release is
followed by a number in one fix and by a word in another one. -/
theorem fix_orderFree_iff_settled {ranges : List AffectedRange} {package installed : String} {current : Version}
    (hinstalled : Version.parse? installed = some current)
    (hfix : ∃ r ∈ candidates ranges package, ∃ v, Fixes current r v) :
    (∀ order : List AffectedRange, order.Perm ranges → ∃ v ∈ fixesAbove current (candidates ranges package),
      target? order package installed = some v ∧
        Version.Lowest (fixesAbove current (candidates ranges package)) v) ∧
    ((∀ one other : List AffectedRange, one.Perm ranges → other.Perm ranges →
      SameTarget one other package installed) ↔ Settled (fixesAbove current (candidates ranges package))) ∧
    (Tidy (fixesAbove current (candidates ranges package)) →
      Settled (fixesAbove current (candidates ranges package))) := by
  have hne := fixesAbove_ne_nil_iff.2 hfix
  have hread : ∀ v ∈ fixesAbove current (candidates ranges package), v.Readable := fun v hv =>
    readable_of_mem_fixesAbove hv
  refine ⟨fun order hperm => exists_target hinstalled hne hperm, ?_, Version.settled_of_tidy hread⟩
  rw [sameTarget_iff_orderFree hinstalled hne, Version.orderFree_iff_settled hread hne]

def rangesOf (fixes : List String) : List AffectedRange :=
  fixes.map fun fix => { package := "p", vulnerableRange := "< " ++ fix, firstPatched := fix }

/-- Pre-releases that do not fork, and the release. -/
theorem fix_orderFree_iff_settled_beta :
    Version.parse? "1.9" = some { segments := [1, 9, 0] } ∧
      ∀ one other : List AffectedRange,
        one.Perm (rangesOf ["2.0.0", "2.0.0-rc.1", "2.0.0-beta.11", "2.0.0-beta.2", "2.1"]) →
        other.Perm (rangesOf ["2.0.0", "2.0.0-rc.1", "2.0.0-beta.11", "2.0.0-beta.2", "2.1"]) →
        SameTarget one other "p" "1.9" := by
  have hinstalled : Version.parse? "1.9" = some { segments := [1, 9, 0] } := by decide +kernel
  refine ⟨hinstalled, (fix_orderFree_iff_settled hinstalled ?_).2.1.2 (by decide_cbv)⟩
  rw [← fixesAbove_ne_nil_iff]
  decide +kernel

/-- **Where pre-releases fork, the first range decides**: `alpha.beta` comes before `alpha`, this before `alpha.1`, and
this before `alpha.beta`. -/
theorem fix_depends_on_order :
    (rangesOf ["1.0.0-alpha", "1.0.0-alpha.1", "1.0.0-alpha.beta"]).Perm
      (rangesOf ["1.0.0-alpha.beta", "1.0.0-alpha.1", "1.0.0-alpha"]) ∧
    target? (rangesOf ["1.0.0-alpha.beta", "1.0.0-alpha.1", "1.0.0-alpha"]) "p" "0.9.0" =
      some { segments := [1, 0, 0], prerelease := "alpha".toList } ∧
    target? (rangesOf ["1.0.0-alpha", "1.0.0-alpha.1", "1.0.0-alpha.beta"]) "p" "0.9.0" =
      some { segments := [1, 0, 0], prerelease := "alpha.beta".toList } ∧
    ¬ SameTarget (rangesOf ["1.0.0-alpha", "1.0.0-alpha.1", "1.0.0-alpha.beta"])
      (rangesOf ["1.0.0-alpha.beta", "1.0.0-alpha.1", "1.0.0-alpha"]) "p" "0.9.0" := by
  have hone : target? (rangesOf ["1.0.0-alpha.beta", "1.0.0-alpha.1", "1.0.0-alpha"]) "p" "0.9.0" =
      some { segments := [1, 0, 0], prerelease := "alpha".toList } := by decide_cbv
  have hother : target? (rangesOf ["1.0.0-alpha", "1.0.0-alpha.1", "1.0.0-alpha.beta"]) "p" "0.9.0" =
      some { segments := [1, 0, 0], prerelease := "alpha.beta".toList } := by decide_cbv
  refine ⟨by decide +kernel, hone, hother, ?_⟩
  rintro ⟨v, v', hv, hv', heq⟩
  cases hother.symm.trans hv
  cases hone.symm.trans hv'
  revert heq
  decide_cbv

end Triage.Advisories
