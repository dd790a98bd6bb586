import Mathlib.Data.List.Induction
import Triage.Intel.Advisories
import Triage.Proofs.Version

/-!
# The range that a fix is taken from

An advisory may list many affected ranges. Of those that count for the package (`Counting`) one is chosen
(`Chosen`): one with a fix above the installed version, and among releases the first one with the smallest such fix;
if there is none, the first one that tells a fix at all, or else the first. The fix and the affected versions that the
finding does not tell are then taken from that range (`Completed`). Main statement: `remedied_by_chosen_range`. Where a
remediation lacks its source, that stays so (`empty_source_kept`).
-/
namespace Triage.Advisories

/-! ## Fixes -/

/-- The fix of a range is a version above the installed one. -/
def Fixes (installed : Version) (r : AffectedRange) (v : Version) : Prop :=
  Version.parse? r.firstPatched = some v ∧ v.compare installed = .gt

theorem fixAbove?_eq_some_iff {installed : Version} {r : AffectedRange} {v : Version} :
    fixAbove? installed r = some v ↔ Fixes installed r v := by
  rw [fixAbove?, Option.filter_eq_some_iff, beq_iff_eq, Fixes]

theorem fixAbove?_eq_none_iff {installed : Version} {r : AffectedRange} :
    fixAbove? installed r = none ↔ ∀ v, ¬ Fixes installed r v := by
  simp only [Option.eq_none_iff_forall_ne_some, ne_eq, fixAbove?_eq_some_iff]

/-- All fixes above the installed version are releases. -/
def OnlyReleases (installed : Version) (ranges : List AffectedRange) : Prop :=
  ∀ r ∈ ranges, ∀ v, Fixes installed r v → v.prerelease = []

/-- The fix `v` of the range `r` is the smallest one, and no range before `r` has one that is as small. -/
structure Smallest (installed : Version) (ranges : List AffectedRange) (r : AffectedRange) (v : Version) : Prop where
  smallest : ∀ r' ∈ ranges, ∀ w, Fixes installed r' w → w.compare v ≠ .lt
  first : ∃ front back, ranges = front ++ r :: back ∧
    ∀ r' ∈ front, ∀ w, Fixes installed r' w → w.compare v = .gt

/-! ## One range after the other -/

/-- What is best among the ranges that have been seen: nothing if none of them has a fix above the installed version,
and otherwise a range that has one, and the smallest if all of them are releases. -/
inductive Best (installed : Version) (seen : List AffectedRange) : Option (AffectedRange × Version) → Prop
  | none (hnone : ∀ r ∈ seen, ∀ v, ¬ Fixes installed r v) : Best installed seen none
  | some {r : AffectedRange} {v : Version} (hmem : r ∈ seen) (hfix : Fixes installed r v)
      (hsmallest : OnlyReleases installed seen → Smallest installed seen r v) : Best installed seen (some (r, v))

/-- A release below another one is below all that are not below that one. -/
theorem compare_eq_gt_of_release {u v w : Version} (hu : u.prerelease = []) (hv : v.prerelease = [])
    (hw : w.prerelease = []) (huw : u.compare w ≠ .lt) (hvw : v.compare w = .lt) : u.compare v = .gt := by
  rw [Version.compare_of_release hu hw, ne_eq, compare_lt_iff_lt, not_lt] at huw
  rw [Version.compare_of_release hv hw, compare_lt_iff_lt] at hvw
  rw [Version.compare_of_release hu hv, compare_gt_iff_gt]
  exact lt_of_lt_of_le hvw huw

section Step

variable {installed : Version} {seen : List AffectedRange} {r : AffectedRange}

theorem OnlyReleases.of_append (h : OnlyReleases installed (seen ++ [r])) :
    OnlyReleases installed seen ∧ ∀ v, Fixes installed r v → v.prerelease = [] := by
  obtain ⟨hseen, hr⟩ := List.forall_mem_append.1 h
  exact ⟨hseen, hr r List.mem_cons_self⟩

/-- The best range stays the best if the next one has no smaller fix. -/
theorem Smallest.append {best : AffectedRange} {w : Version} (h : Smallest installed seen best w)
    (hr : ∀ v, Fixes installed r v → v.compare w ≠ .lt) : Smallest installed (seen ++ [r]) best w := by
  obtain ⟨front, back, hsplit, hfront⟩ := h.first
  refine ⟨List.forall_mem_append.2 ⟨h.smallest, List.forall_mem_singleton.2 hr⟩, front, back ++ [r], ?_, hfront⟩
  rw [hsplit, List.append_assoc, List.cons_append]

/-- The next range is the best one if all fixes before it are greater. -/
theorem Smallest.last {v : Version} (hfix : Fixes installed r v)
    (habove : ∀ r' ∈ seen, ∀ u, Fixes installed r' u → u.compare v = .gt) : Smallest installed (seen ++ [r]) r v := by
  refine ⟨List.forall_mem_append.2 ⟨fun r' hr' u hu => ?_, List.forall_mem_singleton.2 fun u hu => ?_⟩,
    seen, [], rfl, habove⟩
  · rw [habove r' hr' u hu]
    decide
  · have hself : v.compare v = .eq := if_pos rfl
    cases hu.1.symm.trans hfix.1
    rw [hself]
    decide

/-- **One more range.** -/
theorem Best.better {best : Option (AffectedRange × Version)} (h : Best installed seen best) (r : AffectedRange) :
    Best installed (seen ++ [r]) (better installed best r) := by
  have hlast : r ∈ seen ++ [r] := List.mem_append_right _ List.mem_cons_self
  unfold Advisories.better
  cases hfix : fixAbove? installed r with
  | none =>
    have hnot := fixAbove?_eq_none_iff.1 hfix
    cases h with
    | none hnone => exact .none (List.forall_mem_append.2 ⟨hnone, List.forall_mem_singleton.2 hnot⟩)
    | some hmem hbest hsmallest =>
      refine .some (List.mem_append_left _ hmem) hbest fun hreleases => ?_
      exact (hsmallest hreleases.of_append.1).append fun v hv => absurd hv (hnot v)
  | some v =>
    have hfix := fixAbove?_eq_some_iff.1 hfix
    cases h with
    | none hnone => exact .some hlast hfix fun _ => .last hfix fun r' hr' u hu => absurd hu (hnone r' hr' u)
    | @some best w hmem hbest hsmallest =>
      dsimp only
      split
      · rename_i hlt
        refine .some hlast hfix fun hreleases => .last hfix fun r' hr' u hu => ?_
        obtain ⟨hseen, hr⟩ := hreleases.of_append
        -- All that came before is at least as large as the best one was, and so above the new one.
        exact compare_eq_gt_of_release (hseen r' hr' u hu) (hr v hfix) (hseen best hmem w hbest)
          ((hsmallest hseen).smallest r' hr' u hu) (eq_of_beq hlt)
      · rename_i hnlt
        refine .some (List.mem_append_left _ hmem) hbest fun hreleases => ?_
        refine (hsmallest hreleases.of_append.1).append fun u hu hlt => hnlt ?_
        cases hu.1.symm.trans hfix.1
        exact beq_iff_eq.2 hlt

end Step

/-- **All ranges.** -/
theorem best_foldl (installed : Version) (ranges : List AffectedRange) :
    Best installed ranges (ranges.foldl (better installed) none) := by
  induction ranges using List.reverseRecOn with
  | nil => exact .none fun _ h => (nomatch h)
  | append_singleton ranges r ih =>
    rw [List.foldl_append]
    exact ih.better r

/-! ## The choice -/

/-- The ranges that count for a package: those that are about it, or all of them if none is or no package is given. -/
inductive Counting (ranges : List AffectedRange) (package : String) : List AffectedRange → Prop
  | about (hgiven : package ≠ "") (hsome : ∃ r ∈ ranges, Text.equalFold r.package package = true) :
      Counting ranges package (ranges.filter fun r => Text.equalFold r.package package)
  | all (hnone : package = "" ∨ ∀ r ∈ ranges, Text.equalFold r.package package = false) :
      Counting ranges package ranges

/-- The range that is chosen among those that count. -/
inductive Chosen (ranges : List AffectedRange) (installed : String) (r : AffectedRange) : Prop
  | above {current v : Version} (hinstalled : Version.parse? installed = some current) (hmem : r ∈ ranges)
      (hfix : Fixes current r v) (hsmallest : OnlyReleases current ranges → Smallest current ranges r v)
  | firstTold (hnone : ∀ current, Version.parse? installed = some current → ∀ r ∈ ranges, ∀ v, ¬ Fixes current r v)
      {front back : List AffectedRange} (hsplit : ranges = front ++ r :: back) (htold : r.firstPatched ≠ "")
      (hfront : ∀ r' ∈ front, r'.firstPatched = "")
  | first (hnone : ∀ current, Version.parse? installed = some current → ∀ r ∈ ranges, ∀ v, ¬ Fixes current r v)
      (htold : ∀ r' ∈ ranges, r'.firstPatched = "") {back : List AffectedRange} (hsplit : ranges = r :: back)

theorem counting_candidates (ranges : List AffectedRange) (package : String) :
    Counting ranges package (candidates ranges package) := by
  unfold candidates
  dsimp only
  split
  · rename_i hnone
    rw [Bool.or_eq_true, decide_eq_true_eq, List.isEmpty_iff, List.filter_eq_nil_iff] at hnone
    exact .all (hnone.imp_right fun h r hr => Bool.eq_false_of_not_eq_true (h r hr))
  · rename_i hsome
    rw [Bool.or_eq_true, decide_eq_true_eq, List.isEmpty_iff, List.filter_eq_nil_iff, not_or] at hsome
    obtain ⟨hgiven, hsome⟩ := hsome
    refine .about hgiven ?_
    by_contra hnot
    exact hsome fun r hr h => hnot ⟨r, hr, h⟩

/-- There are ranges that count if there are any. -/
theorem Counting.ne_nil {ranges counting : List AffectedRange} {package : String}
    (h : Counting ranges package counting) (hne : ranges ≠ []) : counting ≠ [] := by
  cases h with
  | about hgiven hsome =>
    obtain ⟨r, hr, habout⟩ := hsome
    exact List.ne_nil_of_mem (List.mem_filter.2 ⟨hr, habout⟩)
  | all => exact hne

/-- **A range is chosen** if there are any. -/
theorem exists_chosen {ranges : List AffectedRange} (hne : ranges ≠ []) (package installed : String) :
    ∃ r, select? ranges package installed = some r ∧ Chosen (candidates ranges package) installed r := by
  have hcounting := (counting_candidates ranges package).ne_nil hne
  unfold select?
  generalize candidates ranges package = counting at hcounting ⊢
  dsimp only
  cases habove : (Version.parse? installed).bind (smallestFix? · counting) with
  | some r =>
    refine ⟨r, rfl, ?_⟩
    obtain ⟨current, hcurrent, hfound⟩ := Option.bind_eq_some_iff.1 habove
    obtain ⟨⟨r, v⟩, hbest, rfl⟩ := Option.map_eq_some_iff.1 hfound
    have hspec := best_foldl current counting
    rw [hbest] at hspec
    cases hspec with
    | some hmem hfix hsmallest => exact .above hcurrent hmem hfix hsmallest
  | none =>
    have hnone : ∀ current, Version.parse? installed = some current →
        ∀ r ∈ counting, ∀ v, ¬ Fixes current r v := fun current hcurrent => by
      have hbest := Option.map_eq_none_iff.1 (Option.bind_eq_none_iff.1 habove current hcurrent)
      have hspec := best_foldl current counting
      rw [hbest] at hspec
      cases hspec with
      | none hnone => exact hnone
    cases htold : counting.find? (·.firstPatched != "") with
    | some r =>
      obtain ⟨hr, front, back, hsplit, hfront⟩ := List.find?_eq_some_iff_append.1 htold
      exact ⟨r, rfl, .firstTold hnone hsplit (bne_iff_ne.1 hr) fun r' hr' => by simpa using hfront r' hr'⟩
    | none =>
      obtain ⟨r, back, rfl⟩ := List.exists_cons_of_ne_nil hcounting
      exact ⟨r, rfl, .first hnone (fun r' hr' => by simpa using List.find?_eq_none.1 htold r' hr') rfl⟩

/-! ## What a finding gets -/

/-- The remediation `new` is the one that a finding had, if any, with its gaps filled from a range. The source of a
remediation that the finding had is left as it is; otherwise it is this one. -/
structure Completed (r : AffectedRange) (old : Option Remediation) (new : Remediation) : Prop where
  of_none : old = none →
    new = { fixedVersion := r.firstPatched, vulnerableRange := r.vulnerableRange, source := sourceName }
  source : ∀ o, old = some o → new.source = o.source
  fixedVersion : ∀ o, old = some o →
    (o.fixedVersion ≠ "" → new.fixedVersion = o.fixedVersion) ∧
      (o.fixedVersion = "" → new.fixedVersion = r.firstPatched)
  vulnerableRange : ∀ o, old = some o →
    (o.vulnerableRange ≠ "" → new.vulnerableRange = o.vulnerableRange) ∧
      (o.vulnerableRange = "" → new.vulnerableRange = r.vulnerableRange)

theorem completed_fillIn (r : AffectedRange) (old : Option Remediation) :
    Completed r old (fillIn r (old.getD { source := sourceName })) := by
  constructor
  case of_none => rintro rfl; rfl
  case source => rintro o rfl; rfl
  case fixedVersion => rintro o rfl; exact ⟨fun h => if_neg h, fun h => if_pos h⟩
  case vulnerableRange => rintro o rfl; exact ⟨fun h => if_neg h, fun h => if_pos h⟩

/-- **The fix of a finding is taken from one range.** Whatever ranges an advisory lists, if there are any: of those that
count for the package of the finding one is chosen. The remediation of the finding keeps what it says and gets the fix
and the affected versions that it lacks from that range, and nothing else of the finding changes. The source is set only
where there was no remediation at all. -/
theorem remedied_by_chosen_range (a : Advisory) (f : Finding) (hne : a.affected ≠ []) :
    ∃ counting r new, Counting a.affected f.package counting ∧
      select? a.affected f.package f.version = some r ∧ Chosen counting f.version r ∧
      remedy a f = { f with remediation := some new } ∧ Completed r f.remediation new := by
  obtain ⟨r, hselect, hchosen⟩ := exists_chosen hne f.package f.version
  refine ⟨_, r, _, counting_candidates a.affected f.package, hselect, hchosen, ?_, completed_fillIn r f.remediation⟩
  rw [remedy, hselect]

/-- An advisory for two packages, where two of the ranges have the same fix with and without a trailing zero. -/
def lodashAdvisory : Advisory where
  ghsaId := "GHSA-p6mc-m468-83gw"
  affected :=
    [{ package := "lodash", vulnerableRange := "< 4.17.12", firstPatched := "4.17.12" },
      { package := "lodash-es", vulnerableRange := "< 4.17.20", firstPatched := "4.17.20" },
      { package := "lodash", vulnerableRange := "< 5", firstPatched := "v5" },
      { package := "lodash", vulnerableRange := "< 4.17.21.0", firstPatched := "4.17.21.0" },
      { package := "lodash", vulnerableRange := "< 4.17.21", firstPatched := "4.17.21" }]

/-- A finding that has a source for its fix, but no fix. -/
def lodashFinding : Finding where
  package := "Lodash"
  version := "4.17.15"
  remediation := some { source := "scanner" }

theorem lodash_remedied :
    lodashAdvisory.affected ≠ [] ∧ ∃ counting r, Counting lodashAdvisory.affected "Lodash" counting ∧
      Chosen counting "4.17.15" r ∧ r.firstPatched = "4.17.21.0" ∧
      remedy lodashAdvisory lodashFinding = { lodashFinding with
        remediation := some
          { fixedVersion := "4.17.21.0", vulnerableRange := "< 4.17.21.0", source := "scanner" } } := by
  have hne : lodashAdvisory.affected ≠ [] := List.cons_ne_nil _ _
  have hselect : select? lodashAdvisory.affected "Lodash" "4.17.15" =
      some { package := "lodash", vulnerableRange := "< 4.17.21.0", firstPatched := "4.17.21.0" } := by decide +kernel
  obtain ⟨counting, r, new, hcounting, hr, hchosen, hremedy, hnew⟩ :=
    remedied_by_chosen_range lodashAdvisory lodashFinding hne
  cases hr.symm.trans hselect
  obtain ⟨fixedVersion, vulnerableRange, source⟩ := new
  cases hnew.source _ rfl
  cases (hnew.fixedVersion _ rfl).2 rfl
  cases (hnew.vulnerableRange _ rfl).2 rfl
  exact ⟨hne, counting, _, hcounting, hchosen, rfl, hremedy⟩

/-- **A source that is missing is not filled in.** A remediation with nothing in it gets a fix and the affected
versions, but does not tell where they come from; without a remediation the finding would get this too. -/
theorem empty_source_kept :
    (remedy lodashAdvisory { lodashFinding with remediation := some {} }).remediation =
        some { fixedVersion := "4.17.21.0", vulnerableRange := "< 4.17.21.0", source := "" } ∧
      (remedy lodashAdvisory { lodashFinding with remediation := none }).remediation =
        some { fixedVersion := "4.17.21.0", vulnerableRange := "< 4.17.21.0", source := sourceName } := by
  decide +kernel

end Triage.Advisories
