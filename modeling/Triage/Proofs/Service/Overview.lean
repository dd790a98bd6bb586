import Mathlib.Data.Finset.Card
import Mathlib.Data.Finset.Dedup
import Triage.Proofs.Listing
import Triage.Proofs.Number.Order
import Triage.Service.Overview

/-!
# What an overview says

The findings of a vulnerability are added one by one, and `Amounts` says what they amount to so far. Vulnerabilities
are compared by the highest risk, then by the number of findings, then by the first finding. The overview names the
ten that come first in this order, and rounds the risks of those only after that (`overview_of_findings`).
-/
namespace Triage

open Number

namespace CveOverview

/-! ## The highest risk -/

/-- The highest risk of some findings and the tier that goes with it. If a risk is positive, both are those of the
first finding with the highest risk. If none is, the risk is zero and the tier is `first`. -/
inductive Peak (first : String) (fs : List Finding) : Float → String → Prop
  | positive {before after : List Finding} {f : Finding} (hfs : fs = before ++ f :: after)
      (hpositive : 0 < f.riskScore) (hbefore : ∀ g ∈ before, g.riskScore < f.riskScore)
      (hafter : ∀ g ∈ after, g.riskScore ≤ f.riskScore) : Peak first fs f.riskScore f.priority
  | none (hall : ∀ f ∈ fs, f.riskScore ≤ 0) : Peak first fs 0 first

/-- Every risk score is a number, so that any two of them can be compared. -/
def Comparable (fs : List Finding) : Prop := ∀ f ∈ fs, f.riskScore.isNaN = false

section Peak

variable {first priority : String} {fs : List Finding} {risk : Float}

theorem Peak.zero_le (h : Peak first fs risk priority) : 0 ≤ risk := by
  cases h with
  | positive _ hpositive _ _ => exact Number.le_of_lt hpositive
  | none _ => exact zero_le_ofNat 0

theorem Peak.isNaN (h : Peak first fs risk priority) : risk.isNaN = false := isNaN_of_zero_le h.zero_le

theorem Peak.le (h : Peak first fs risk priority) {f : Finding} (hf : f ∈ fs) : f.riskScore ≤ risk := by
  cases h with
  | none hall => exact hall f hf
  | positive hfs hpositive hbefore hafter =>
    rw [hfs, List.mem_append, List.mem_cons] at hf
    rcases hf with hf | rfl | hf
    · exact Number.le_of_lt (hbefore f hf)
    · have hnan := (isNaN_of_lt hpositive).2
      exact (le_iff_place hnan hnan).2 (le_refl _)
    · exact hafter f hf

/-- The highest risk does not depend on the tier that goes with it. -/
theorem Peak.le_of_peak {first' priority' : String} {risk' : Float} (h : Peak first fs risk priority)
    (h' : Peak first' fs risk' priority') : risk ≤ risk' := by
  cases h with
  | positive hfs _ _ _ => exact h'.le (hfs ▸ by simp)
  | none _ => exact h'.zero_le

/-- One more finding takes the peak over if its risk is higher than all before, and only then. -/
theorem Peak.snoc (h : Peak first fs risk priority) (hfs : Comparable fs) {f : Finding}
    (hf : f.riskScore.isNaN = false) :
    Peak first (fs ++ [f]) (if risk < f.riskScore then f.riskScore else risk)
      (if risk < f.riskScore then f.priority else priority) := by
  by_cases hraised : risk < f.riskScore
  · rw [if_pos hraised, if_pos hraised]
    rw [lt_iff_place h.isNaN hf] at hraised
    refine .positive rfl ?_ (fun g hg => ?_) (by simp)
    · have hzero := (le_iff_place (by decide +kernel) h.isNaN).1 h.zero_le
      exact (lt_iff_place (by decide +kernel) hf).2 (lt_of_le_of_lt hzero hraised)
    · have hle := (le_iff_place (hfs g hg) h.isNaN).1 (h.le hg)
      exact (lt_iff_place (hfs g hg) hf).2 (lt_of_le_of_lt hle hraised)
  · rw [if_neg hraised, if_neg hraised]
    have hle : f.riskScore ≤ risk := by
      rw [lt_iff_place h.isNaN hf, not_lt] at hraised
      exact (le_iff_place hf h.isNaN).2 hraised
    cases h with
    | none hall =>
      refine .none fun g hg => ?_
      rcases List.mem_append.1 hg with hg | hg
      · exact hall g hg
      · exact List.mem_singleton.1 hg ▸ hle
    | @positive before after top hsplit hpositive hbefore hafter =>
      have hlonger : fs ++ [f] = before ++ top :: (after ++ [f]) := by rw [hsplit]; simp
      refine .positive hlonger hpositive hbefore fun g hg => ?_
      rcases List.mem_append.1 hg with hg | hg
      · exact hafter g hg
      · exact List.mem_singleton.1 hg ▸ hle

end Peak

/-! ## The highest probability -/

/-- The highest of some numbers, or zero if none of them is positive. -/
structure Greatest (xs : List Float) (m : Float) : Prop where
  attained : m = 0 ∨ m ∈ xs ∧ 0 < m
  bound : ∀ x ∈ xs, ¬ m < x

theorem greatest_nil : Greatest [] 0 := ⟨.inl rfl, by simp⟩

theorem Greatest.not_lt_zero {xs : List Float} {m : Float} (h : Greatest xs m) : ¬ m < 0 := by
  intro hneg
  rcases h.attained with rfl | ⟨-, hpositive⟩
  · exact not_lt_self 0 hneg
  · exact not_lt_self 0 (lt_of_lt_of_lt hpositive hneg)

theorem Greatest.snoc {xs : List Float} {m : Float} (h : Greatest xs m) (x : Float) :
    Greatest (xs ++ [x]) (if m < x then x else m) := by
  by_cases hraised : m < x
  · rw [if_pos hraised]
    refine ⟨.inr ⟨by simp, ?_⟩, fun y hy hlt => ?_⟩
    · rcases h.attained with rfl | ⟨-, hpositive⟩
      · exact hraised
      · exact lt_of_lt_of_lt hpositive hraised
    · rcases List.mem_append.1 hy with hy | hy
      · exact h.bound y hy (lt_of_lt_of_lt hraised hlt)
      · exact not_lt_self x (List.mem_singleton.1 hy ▸ hlt)
  · rw [if_neg hraised]
    refine ⟨h.attained.imp_right fun hm => ⟨List.mem_append_left _ hm.1, hm.2⟩, fun y hy => ?_⟩
    rcases List.mem_append.1 hy with hy | hy
    · exact h.bound y hy
    · exact List.mem_singleton.1 hy ▸ hraised

/-! ## The findings of one vulnerability -/

def fixedVersion? (f : Finding) : Option String := (f.remediation.map (·.fixedVersion)).filter (· != "")

def probabilities (fs : List Finding) : List Float := fs.filterMap fun f => f.forecast.map (·.probability)

def affectedItems (fs : List Finding) : List String := (fs.map affectedItem).filter (· != "")

/-- What findings of one vulnerability with the highest risk `risk` amount to; `first` is the tier of a vulnerability
without a risk. -/
structure Amounts (first : String) (fs : List Finding) (risk : Float) (s : CveOverview) : Prop where
  count : s.count = fs.length
  peak : Peak first fs risk s.priority
  exploited : s.exploited = true ↔ ∃ f ∈ fs, f.inCatalog = true
  probability : Greatest (probabilities fs) s.probability
  fixedVersion : s.fixedVersion = (fs.findSome? fixedVersion?).getD ""
  affected : Listing.ListsOnce (affectedItems fs) s.affected

theorem fixedVersion_add {s : CveOverview} {fs : List Finding}
    (h : s.fixedVersion = (fs.findSome? fixedVersion?).getD "") (f : Finding) :
    (s.add f).fixedVersion = ((fs ++ [f]).findSome? fixedVersion?).getD "" := by
  have hadd : (s.add f).fixedVersion =
      if s.fixedVersion = "" then (f.remediation.map (·.fixedVersion)).getD "" else s.fixedVersion := rfl
  rw [hadd, h, List.findSome?_append]
  cases hfound : fs.findSome? fixedVersion? with
  | some version =>
    obtain ⟨g, -, hg⟩ := List.exists_of_findSome?_eq_some hfound
    have hnamed : version ≠ "" := by simpa using (Option.filter_eq_some_iff.1 hg).2
    simp [hnamed]
  | none =>
    cases hremedy : f.remediation with
    | none => simp [fixedVersion?, hremedy]
    | some r => by_cases hr : r.fixedVersion = "" <;> simp [fixedVersion?, hremedy, hr, Option.filter]

theorem probability_add {s : CveOverview} {fs : List Finding} (h : Greatest (probabilities fs) s.probability)
    (f : Finding) : Greatest (probabilities (fs ++ [f])) (s.add f).probability := by
  have hadd : (s.add f).probability =
      if s.probability < (f.forecast.map (·.probability)).getD 0 then (f.forecast.map (·.probability)).getD 0
      else s.probability := rfl
  rw [hadd, probabilities, List.filterMap_append]
  cases hforecast : f.forecast with
  | none => simpa [hforecast, h.not_lt_zero, probabilities] using h
  | some forecast => simpa [hforecast, probabilities] using h.snoc forecast.probability

theorem affected_add {s : CveOverview} {fs : List Finding} (h : Listing.ListsOnce (affectedItems fs) s.affected)
    (f : Finding) : Listing.ListsOnce (affectedItems (fs ++ [f])) (s.add f).affected := by
  have hadd : (s.add f).affected =
      if (affectedItem f = "" || s.affected.contains (affectedItem f)) = true then s.affected
      else s.affected ++ [affectedItem f] := rfl
  rw [hadd, affectedItems, List.map_append, List.filter_append]
  by_cases hitem : affectedItem f = ""
  · simpa [hitem, affectedItems] using h
  · simpa [hitem, affectedItems, Listing.addNew] using h.addNew (affectedItem f)

/-- **One more finding** leaves the overview saying what all of them amount to. -/
theorem Amounts.add {first : String} {fs : List Finding} {s : CveOverview} (h : Amounts first fs s.risk s)
    (hfs : Comparable fs) {f : Finding} (hf : f.riskScore.isNaN = false) :
    Amounts first (fs ++ [f]) (s.add f).risk (s.add f) where
  count := by
    rw [List.length_append, ← h.count]
    rfl
  peak := h.peak.snoc hfs hf
  exploited := by
    have hadd : (s.add f).exploited = (s.exploited || f.inCatalog) := rfl
    simp [hadd, h.exploited, or_and_right, exists_or]
  probability := probability_add h.probability f
  fixedVersion := fixedVersion_add h.fixedVersion f
  affected := affected_add h.affected f

theorem amounts_foldl (cve first : String) {fs : List Finding} (hfs : Comparable fs) :
    Amounts first fs (fs.foldl add { cve, priority := first }).risk (fs.foldl add { cve, priority := first }) := by
  induction fs using List.reverseRecOn with
  | nil =>
    exact { count := rfl, peak := .none (by simp), exploited := by simp, probability := greatest_nil,
            fixedVersion := rfl, affected := Listing.listsOnce_nil }
  | append_singleton fs f ih =>
    have hbefore : Comparable fs := fun g hg => hfs g (List.mem_append_left _ hg)
    rw [List.foldl_append]
    exact (ih hbefore).add hbefore (hfs f (by simp))

theorem cve_ofFindings (cve : String) (fs : List Finding) : (ofFindings cve fs).cve = cve := by
  have hfoldl : ∀ (own : List Finding) (s : CveOverview), (own.foldl add s).cve = s.cve := by
    intro own
    induction own with
    | nil => exact fun _ => rfl
    | cons f own ih => exact fun s => ih (s.add f)
  exact hfoldl _ _

/-- The findings of a vulnerability in a list. -/
def findingsOf (cve : String) (fs : List Finding) : List Finding := fs.filter (·.cve == cve)

/-- The overview of a vulnerability says what its findings in a list amount to, the highest risk being `risk` and the
tier without a risk that of the first of them. -/
def Describes (fs : List Finding) (risk : Float) (s : CveOverview) : Prop :=
  ∃ f rest, findingsOf s.cve fs = f :: rest ∧ Amounts f.priority (f :: rest) risk s

theorem describes_ofFindings {fs : List Finding} (hfs : Comparable fs) {cve : String}
    (hcve : cve ∈ fs.map (·.cve)) : Describes fs (ofFindings cve fs).risk (ofFindings cve fs) := by
  obtain ⟨g, hg, rfl⟩ := List.mem_map.1 hcve
  have hown : g ∈ findingsOf g.cve fs := List.mem_filter.2 ⟨hg, by simp⟩
  have hfold : ofFindings g.cve fs = (findingsOf g.cve fs).foldl add
      { cve := g.cve, priority := ((findingsOf g.cve fs).head?.map (·.priority)).getD "" } := rfl
  cases hfilter : findingsOf g.cve fs with
  | nil => rw [hfilter] at hown; cases hown
  | cons f rest =>
    have hcomparable : Comparable (f :: rest) := fun h hh => hfs h (List.mem_of_mem_filter (hfilter ▸ hh))
    refine ⟨f, rest, by rw [cve_ofFindings, hfilter], ?_⟩
    rw [hfold, hfilter]
    exact amounts_foldl g.cve f.priority hcomparable

theorem Describes.isNaN {fs : List Finding} {risk : Float} {s : CveOverview} (h : Describes fs risk s) :
    risk.isNaN = false := by
  obtain ⟨f, rest, -, hamounts⟩ := h
  exact hamounts.peak.isNaN

/-- Rounding the risk leaves all else that an overview says. -/
theorem Describes.rounded {fs : List Finding} {risk : Float} {s : CveOverview} (h : Describes fs risk s) :
    Describes fs risk s.rounded := by
  obtain ⟨f, rest, hown, hamounts⟩ := h
  exact ⟨f, rest, hown,
    { count := hamounts.count, peak := hamounts.peak, exploited := hamounts.exploited,
      probability := hamounts.probability, fixedVersion := hamounts.fixedVersion, affected := hamounts.affected }⟩

/-! ## The order of the vulnerabilities -/

/-- The highest risk of the findings of a vulnerability, which is zero if none is positive. -/
def HighestRisk (fs : List Finding) (cve : String) (risk : Float) : Prop :=
  ∃ first priority, Peak first (findingsOf cve fs) risk priority

/-- Where a vulnerability is first named. -/
def firstSeen (fs : List Finding) (cve : String) : Nat := (fs.map (·.cve)).idxOf cve

/-- `a` comes before `b`: it has a higher risk, or as high a risk and more findings, or as many findings too and is
named first. -/
def Precedes (fs : List Finding) (a b : String) : Prop :=
  ∃ risk risk', HighestRisk fs a risk ∧ HighestRisk fs b risk' ∧
    (risk' < risk ∨ (risk == risk') = true ∧
      ((findingsOf b fs).length < (findingsOf a fs).length ∨
        (findingsOf a fs).length = (findingsOf b fs).length ∧ firstSeen fs a < firstSeen fs b))

theorem Describes.highestRisk {fs : List Finding} {risk : Float} {s : CveOverview} (h : Describes fs risk s) :
    HighestRisk fs s.cve risk := by
  obtain ⟨f, rest, hown, hamounts⟩ := h
  exact ⟨f.priority, s.priority, hown ▸ hamounts.peak⟩

theorem Describes.count_eq {fs : List Finding} {risk : Float} {s : CveOverview} (h : Describes fs risk s) :
    s.count = (findingsOf s.cve fs).length := by
  obtain ⟨f, rest, hown, hamounts⟩ := h
  rw [hown, hamounts.count]

/-- The place of the risk, then the number of findings. -/
def standing (s : CveOverview) : (Int ×ₗ Int ×ₗ Int) ×ₗ Nat := toLex (place s.risk.toModel.unpack, s.count)

/-- `b` stands no higher than `a`, read off the places of their risks. -/
def standsAbove (a b : CveOverview) : Bool := decide (b.standing ≤ a.standing)

theorem standsAbove_trans (a b c : CveOverview) (hab : standsAbove a b) (hbc : standsAbove b c) : standsAbove a c :=
  decide_eq_true (le_trans (of_decide_eq_true hbc) (of_decide_eq_true hab))

theorem standsAbove_total (a b : CveOverview) : (standsAbove a b || standsAbove b a) = true := by
  rcases le_total b.standing a.standing with h | h
  · simp [standsAbove, h]
  · simp [standsAbove, h]

section Order

variable {fs : List Finding} {a b : CveOverview}

theorem notAfter_eq_standsAbove (ha : a.risk.isNaN = false) (hb : b.risk.isNaN = false) :
    notAfter a b = standsAbove a b := by
  rw [Bool.eq_iff_iff, standsAbove, decide_eq_true_iff, standing, standing, Prod.Lex.toLex_le_toLex, notAfter]
  by_cases hsame : (a.risk == b.risk) = true
  · have hplace := (beq_iff_place ha hb).1 hsame
    rw [if_pos hsame, decide_eq_true_iff, hplace]
    simp
  · have hplace : place a.risk.toModel.unpack ≠ place b.risk.toModel.unpack :=
      fun h => hsame ((beq_iff_place ha hb).2 h)
    rw [if_neg hsame, Bool.not_eq_true', decide_eq_false_iff_not, lt_iff_place ha hb, not_lt, le_iff_lt_or_eq]
    simp [hplace.symm]

theorem HighestRisk.isNaN {cve : String} {risk : Float} (h : HighestRisk fs cve risk) : risk.isNaN = false := by
  obtain ⟨_, _, hpeak⟩ := h
  exact hpeak.isNaN

theorem HighestRisk.place_eq {cve : String} {risk risk' : Float} (h : HighestRisk fs cve risk)
    (h' : HighestRisk fs cve risk') : place risk.toModel.unpack = place risk'.toModel.unpack := by
  have hnan := h.isNaN
  have hnan' := h'.isNaN
  obtain ⟨_, _, hpeak⟩ := h
  obtain ⟨_, _, hpeak'⟩ := h'
  exact le_antisymm ((le_iff_place hnan hnan').1 (hpeak.le_of_peak hpeak'))
    ((le_iff_place hnan' hnan).1 (hpeak'.le_of_peak hpeak))

theorem precedes_iff (ha : Describes fs a.risk a) (hb : Describes fs b.risk b) :
    Precedes fs a.cve b.cve ↔
      b.standing < a.standing ∨ b.standing = a.standing ∧ firstSeen fs a.cve < firstSeen fs b.cve := by
  -- The risks that the order speaks of are those of the two overviews.
  have hrisks : Precedes fs a.cve b.cve ↔
      b.risk < a.risk ∨ (a.risk == b.risk) = true ∧
        (b.count < a.count ∨ a.count = b.count ∧ firstSeen fs a.cve < firstSeen fs b.cve) := by
    rw [ha.count_eq, hb.count_eq]
    refine ⟨?_, fun h => ⟨_, _, ha.highestRisk, hb.highestRisk, h⟩⟩
    rintro ⟨risk, risk', hrisk, hrisk', h⟩
    rwa [lt_iff_place hrisk'.isNaN hrisk.isNaN, beq_iff_place hrisk.isNaN hrisk'.isNaN,
      hrisk.place_eq ha.highestRisk, hrisk'.place_eq hb.highestRisk, ← lt_iff_place hb.isNaN ha.isNaN,
      ← beq_iff_place ha.isNaN hb.isNaN] at h
  rw [hrisks, lt_iff_place hb.isNaN ha.isNaN, beq_iff_place ha.isNaN hb.isNaN, standing, standing,
    Prod.Lex.toLex_lt_toLex, EmbeddingLike.apply_eq_iff_eq, Prod.mk.injEq]
  tauto

/-- Of two vulnerabilities at most one comes before the other. -/
theorem Precedes.asymm (ha : Describes fs a.risk a) (hb : Describes fs b.risk b) (h : Precedes fs a.cve b.cve) :
    ¬ Precedes fs b.cve a.cve := by
  rw [precedes_iff ha hb] at h
  rw [precedes_iff hb ha]
  rintro (hlt | ⟨heq, hfirst⟩) <;> rcases h with hlt' | ⟨heq', hfirst'⟩
  · exact lt_asymm hlt hlt'
  · exact absurd heq' (ne_of_gt hlt)
  · exact absurd heq (ne_of_gt hlt')
  · exact lt_asymm hfirst hfirst'

end Order

/-- **A ranking of all vulnerabilities** that findings name, each of them once. -/
structure Ranking (fs : List Finding) (ranked : List String) : Prop where
  nodup : ranked.Nodup
  mem_iff : ∀ cve, cve ∈ ranked ↔ cve ≠ "" ∧ ∃ f ∈ fs, f.cve = cve
  order : ranked.Pairwise (Precedes fs)

end CveOverview

/-! ## The overview of all findings -/

namespace Overview

open CveOverview

/-- The vulnerabilities that findings name, in the order of the list. -/
def named (fs : List Finding) : List String := Listing.distinct ((fs.map (·.cve)).filter (· != ""))

/-- What the findings of each vulnerability amount to, in the order of the list. -/
def listed (fs : List Finding) : List CveOverview := (named fs).map (CveOverview.ofFindings · fs)

theorem mem_named {fs : List Finding} {cve : String} : cve ∈ named fs ↔ cve ≠ "" ∧ cve ∈ fs.map (·.cve) := by
  rw [named, Listing.mem_distinct, List.mem_filter, bne_iff_ne, and_comm]

theorem map_cve_listed (fs : List Finding) : (listed fs).map (·.cve) = named fs := by
  rw [listed, List.map_map]
  exact (List.map_congr_left fun cve _ => cve_ofFindings cve fs).trans (List.map_id _)

theorem describes_of_mem_listed {fs : List Finding} (hfs : Comparable fs) {s : CveOverview} (hs : s ∈ listed fs) :
    Describes fs s.risk s := by
  obtain ⟨cve, hcve, rfl⟩ := List.mem_map.1 hs
  exact describes_ofFindings hfs (mem_named.1 hcve).2

theorem pairwise_firstSeen (fs : List Finding) :
    (listed fs).Pairwise fun a b => firstSeen fs a.cve < firstSeen fs b.cve := by
  have hnamed : (named fs).Pairwise fun a b => firstSeen fs a < firstSeen fs b := by
    refine (Listing.pairwise_distinct _).imp_of_mem fun ha hb hlt => Listing.idxOf_lt_of_filter ?_ ?_ hlt
    · exact (List.mem_filter.1 (Listing.mem_distinct.1 ha)).2
    · exact (List.mem_filter.1 (Listing.mem_distinct.1 hb)).2
  rw [← map_cve_listed, List.pairwise_map] at hnamed
  exact hnamed

/-- Among risks that can be compared the comparison is that of standings, which is total. -/
theorem mergeSort_listed {fs : List Finding} (hfs : Comparable fs) :
    (listed fs).mergeSort notAfter = (listed fs).mergeSort standsAbove :=
  Listing.mergeSort_congr fun _ ha _ hb =>
    notAfter_eq_standsAbove (describes_of_mem_listed hfs ha).isNaN (describes_of_mem_listed hfs hb).isNaN

/-- What the findings of each vulnerability amount to, as the overview ranks them. -/
def ranked (fs : List Finding) : List CveOverview := (listed fs).mergeSort notAfter

theorem perm_ranked (fs : List Finding) : (ranked fs).Perm (listed fs) := List.mergeSort_perm _ _

theorem describes_of_mem_ranked {fs : List Finding} (hfs : Comparable fs) {s : CveOverview} (hs : s ∈ ranked fs) :
    Describes fs s.risk s :=
  describes_of_mem_listed hfs ((perm_ranked fs).mem_iff.1 hs)

theorem ranking_ranked {fs : List Finding} (hfs : Comparable fs) : Ranking fs ((ranked fs).map (·.cve)) := by
  have hperm := (perm_ranked fs).map (·.cve)
  rw [map_cve_listed] at hperm
  refine ⟨?_, fun cve => ?_, ?_⟩
  · rw [hperm.nodup_iff]
    exact Listing.nodup_distinct _
  · rw [hperm.mem_iff, mem_named, List.mem_map]
  · -- The sort leaves the order of the list where risks and counts are the same.
    have hstable := Listing.pairwise_mergeSort_of_pairwise standsAbove_trans standsAbove_total (pairwise_firstSeen fs)
    rw [← mergeSort_listed hfs] at hstable
    rw [List.pairwise_map]
    refine hstable.imp_of_mem fun {a b} ha hb h => ?_
    rw [precedes_iff (describes_of_mem_ranked hfs ha) (describes_of_mem_ranked hfs hb)]
    rcases lt_or_eq_of_le (of_decide_eq_true h.1) with hlt | heq
    · exact .inl hlt
    · exact .inr ⟨heq, h.2 (decide_eq_true heq.ge)⟩

theorem uniqueCves_ofFindings (fs : List Finding) :
    (ofFindings fs).uniqueCves = ((fs.map (·.cve)).toFinset.erase "").card := by
  have hset : (named fs).toFinset = (fs.map (·.cve)).toFinset.erase "" := by
    ext cve
    rw [List.mem_toFinset, mem_named, Finset.mem_erase, List.mem_toFinset]
  have hnodup : (named fs).Nodup := Listing.nodup_distinct _
  rw [← hset, List.toFinset_card_of_nodup hnodup]
  rfl

theorem top_ofFindings (fs : List Finding) :
    (ofFindings fs).top = ((ranked fs).take topLimit).map rounded := rfl

theorem length_top_ofFindings (fs : List Finding) :
    (ofFindings fs).top.length = min topLimit (ofFindings fs).uniqueCves := by
  have hunique : (ofFindings fs).uniqueCves = (named fs).length := rfl
  rw [top_ofFindings, List.length_map, List.length_take, (perm_ranked fs).length_eq, listed, List.length_map, hunique]

theorem map_cve_top (fs : List Finding) :
    (ofFindings fs).top.map (·.cve) = ((ranked fs).map (·.cve)).take topLimit := by
  rw [top_ofFindings, List.map_map, ← List.map_take]
  rfl

/-- An entry of the overview has the highest risk, rounded to two decimals, and all else that the findings of its
vulnerability amount to. -/
theorem describes_of_mem_top {fs : List Finding} (hfs : Comparable fs) {s : CveOverview}
    (hs : s ∈ (ofFindings fs).top) : ∃ risk, s.risk = roundCents risk ∧ Describes fs risk s := by
  rw [top_ofFindings] at hs
  obtain ⟨t, ht, rfl⟩ := List.mem_map.1 hs
  exact ⟨t.risk, rfl, (describes_of_mem_ranked hfs (List.mem_of_mem_take ht)).rounded⟩

/-- No vulnerability that is left out comes before one that is named. -/
theorem not_precedes_of_omitted {fs : List Finding} (hfs : Comparable fs) {n : Nat} {cve omitted : String}
    (hcve : cve ∈ ((ranked fs).map (·.cve)).take n) (homitted : omitted ∈ ((ranked fs).map (·.cve)).drop n) :
    ¬ Precedes fs omitted cve := by
  have horder := (ranking_ranked hfs).order
  rw [← List.take_append_drop n (List.map _ _), List.pairwise_append] at horder
  have hprecedes := horder.2.2 cve hcve omitted homitted
  obtain ⟨a, ha, rfl⟩ := List.mem_map.1 (List.mem_of_mem_take hcve)
  obtain ⟨b, hb, rfl⟩ := List.mem_map.1 (List.mem_of_mem_drop homitted)
  exact hprecedes.asymm (describes_of_mem_ranked hfs ha) (describes_of_mem_ranked hfs hb)

/-- Two vulnerabilities of the same risk, the second one with more findings, a third one whose risk is higher by less
than what rounding leaves, and a finding that names none. -/
def tied : List Finding :=
  [{ cve := "CVE-2024-0001", riskScore := 5, exploited := some { inCatalog := true } },
   { cve := "CVE-2024-0002", priority := "LOW", package := "zlib" },
   { cve := "CVE-2024-0002", riskScore := 5, priority := "HIGH", package := "zlib" },
   { cve := "CVE-2024-0003", riskScore := 5.004 },
   { riskScore := 9, exploit := some { weaponized := true } }]

end Overview
end Triage
