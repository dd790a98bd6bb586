import Mathlib.Data.List.Nodup
import Mathlib.Data.List.Perm.Basic
import Triage.Inventory.Registry

/-!
# Attributes in any order

A basic scan gives what it knows of a vulnerability as attributes, in an order of its own. The finding made of them
should not depend on that order. It does in two cases (`Clash`): of two scores the one that is listed first counts,
whichever version it is of, and a vector of version 3 that is empty does away with one of version 2 that came before it.
In all other cases the order makes no difference. Main statement: `basic_finding_in_any_order`.
-/
namespace Triage.Inventory.Registry

open Number (readFloat?)

/-! ## One attribute -/

/-- A text that an attribute replaces if it is the one with this key. -/
def replaced (key old : String) (a : String × String) : String := if a.1 = key then a.2 else old

/-- The vector once an attribute has been taken into account. -/
def vectorAfter (old : String) (a : String × String) : String :=
  if a.1 = "CVSS3_VECTOR" then a.2 else if a.1 = "CVSS2_VECTOR" ∧ old = "" then a.2 else old

/-- The score that an attribute gives, if it gives one that is a number. -/
def score? (a : String × String) : Option Float :=
  if a.1 = "CVSS3_SCORE" ∨ a.1 = "CVSS2_SCORE" then readFloat? a.2 else none

variable {f : Finding} {a b : String × String} {l l' : List (String × String)}

/-- **What an attribute changes**, field by field. -/
theorem applyAttribute_eq (f : Finding) (a : String × String) :
    applyAttribute f a =
      { f with
        package := replaced "package_name" f.package a
        version := replaced "package_version" f.version a
        cvssVector := vectorAfter f.cvssVector a
        cvssScore := f.cvssScore.or (score? a) } := by
  obtain ⟨key, value⟩ := a
  unfold applyAttribute
  split <;> rename_i heq
  all_goals try obtain ⟨rfl, rfl⟩ := Prod.mk.inj heq
  case h_4 => by_cases hvector : f.cvssVector = "" <;> simp [replaced, vectorAfter, score?, hvector]
  all_goals simp_all [replaced, vectorAfter, score?]

theorem cvssVector_applyAttribute (f : Finding) (a : String × String) :
    (applyAttribute f a).cvssVector = vectorAfter f.cvssVector a := by
  rw [applyAttribute_eq]

/-! ## Two attributes -/

/-- Two attributes whose order shows: scores of both versions that are different numbers, or an empty vector of
version 3 and one of version 2 that is not empty. -/
def Clash (a b : String × String) : Prop :=
  (a.1 = "CVSS3_SCORE" ∧ b.1 = "CVSS2_SCORE" ∧
    ∃ x y, readFloat? a.2 = some x ∧ readFloat? b.2 = some y ∧ x ≠ y) ∨
  (a.1 = "CVSS3_VECTOR" ∧ b.1 = "CVSS2_VECTOR" ∧ a.2 = "" ∧ b.2 ≠ "")

theorem replaced_comm (hkeys : a.1 ≠ b.1) (key old : String) :
    replaced key (replaced key old a) b = replaced key (replaced key old b) a := by
  unfold replaced
  split_ifs with hb ha
  · exact absurd (ha.trans hb.symm) hkeys
  · rfl
  · rfl
  · rfl

theorem vectorAfter_comm (hkeys : a.1 ≠ b.1) (hab : ¬ Clash a b) (hba : ¬ Clash b a) (old : String) :
    vectorAfter (vectorAfter old a) b = vectorAfter (vectorAfter old b) a := by
  unfold Clash at hab hba
  unfold vectorAfter
  grind

theorem score?_comm (hkeys : a.1 ≠ b.1) (hab : ¬ Clash a b) (hba : ¬ Clash b a) :
    (score? a).or (score? b) = (score? b).or (score? a) := by
  cases hx : score? a with
  | none => rw [Option.none_or, Option.or_none]
  | some x =>
    cases hy : score? b with
    | none => rfl
    | some y =>
      -- Two scores under different keys are of the two versions, and must be the same number.
      have hsame : x = y := by
        unfold score? at hx hy
        unfold Clash at hab hba
        grind
      rw [hsame]

/-- **Attributes that do not clash** can change places. -/
theorem applyAttribute_comm (hkeys : a.1 ≠ b.1) (hab : ¬ Clash a b) (hba : ¬ Clash b a) (f : Finding) :
    applyAttribute (applyAttribute f a) b = applyAttribute (applyAttribute f b) a := by
  simp only [applyAttribute_eq, replaced_comm hkeys, vectorAfter_comm hkeys hab hba, Option.or_assoc,
    score?_comm hkeys hab hba]

/-! ## All attributes -/

theorem foldl_eq_of_perm (hperm : l'.Perm l) (hkeys : (l.map Prod.fst).Nodup)
    (hclash : ∀ a ∈ l, ∀ b ∈ l, ¬ Clash a b) (f : Finding) :
    l'.foldl applyAttribute f = l.foldl applyAttribute f := by
  refine hperm.foldl_eq' (fun a ha b hb f => ?_) f
  have ha := hperm.mem_iff.1 ha
  have hb := hperm.mem_iff.1 hb
  by_cases hab : a.1 = b.1
  · rw [List.inj_on_of_nodup_map hkeys ha hb hab]
  · exact applyAttribute_comm hab (hclash a ha b hb) (hclash b hb a ha) f

/-- **The first score that is a number** counts. -/
theorem cvssScore_foldl (l : List (String × String)) (f : Finding) :
    (l.foldl applyAttribute f).cvssScore = f.cvssScore.or (l.findSome? score?) := by
  induction l generalizing f with
  | nil => exact (Option.or_none).symm
  | cons a l ih =>
    rw [List.foldl_cons, ih, applyAttribute_eq, Option.or_assoc, List.findSome?_cons]
    cases score? a <;> rfl

/-- Without another vector of version 3, a vector stays if it is not empty, or if there is no other of version 2. -/
theorem cvssVector_foldl (hnew : ∀ a ∈ l, a.1 ≠ "CVSS3_VECTOR")
    (hold : f.cvssVector ≠ "" ∨ ∀ a ∈ l, a.1 ≠ "CVSS2_VECTOR") :
    (l.foldl applyAttribute f).cvssVector = f.cvssVector := by
  induction l generalizing f with
  | nil => rfl
  | cons a l ih =>
    obtain ⟨ha, hnew⟩ := List.forall_mem_cons.1 hnew
    have hstep : (applyAttribute f a).cvssVector = f.cvssVector := by
      rw [cvssVector_applyAttribute]
      refine (if_neg ha).trans (if_neg ?_)
      rintro ⟨hkey, hempty⟩
      exact hold.elim (absurd hempty) fun h => h a List.mem_cons_self hkey
    rw [List.foldl_cons, ih hnew, hstep]
    rw [hstep]
    exact hold.imp_right fun h => (List.forall_mem_cons.1 h).2

/-- **A vector of version 3** counts, unless it is empty. -/
theorem cvssVector_of_mem (hkeys : (l.map Prod.fst).Nodup) {vector : String} (hmem : ("CVSS3_VECTOR", vector) ∈ l)
    (hvector : vector ≠ "") (f : Finding) : (l.foldl applyAttribute f).cvssVector = vector := by
  obtain ⟨before, after, rfl⟩ := List.append_of_mem hmem
  have hafter : ∀ a ∈ after, a.1 ≠ "CVSS3_VECTOR" := by
    rw [List.map_append, List.map_cons] at hkeys
    intro a ha hkey
    have hnodup := (List.nodup_cons.1 (List.nodup_append.1 hkeys).2.1).1
    exact hnodup (List.mem_map.2 ⟨a, ha, hkey⟩)
  have hset (g : Finding) : (applyAttribute g ("CVSS3_VECTOR", vector)).cvssVector = vector := by
    rw [cvssVector_applyAttribute]
    exact if_pos rfl
  rw [List.foldl_append, List.foldl_cons, cvssVector_foldl hafter, hset]
  exact .inl (by rwa [hset])

/-- The finding without its score and its vector. -/
def unrated (f : Finding) : Finding := { f with cvssScore := none, cvssVector := "" }

theorem unrated_foldl_eq_of_perm (hperm : l'.Perm l) (hkeys : (l.map Prod.fst).Nodup) (f : Finding) :
    unrated (l'.foldl applyAttribute f) = unrated (l.foldl applyAttribute f) := by
  -- What is left of a step knows nothing of scores and vectors, and so nothing of clashes.
  let step (f : Finding) (a : String × String) : Finding :=
    { f with
      package := replaced "package_name" f.package a
      version := replaced "package_version" f.version a }
  have hstep (f : Finding) (a : String × String) : step (unrated f) a = unrated (applyAttribute f a) := by
    rw [applyAttribute_eq]
    rfl
  have hhom (l : List (String × String)) : unrated (l.foldl applyAttribute f) = l.foldl step (unrated f) :=
    (List.foldl_hom unrated fun f a => hstep f a).symm
  rw [hhom, hhom]
  refine hperm.foldl_eq' (fun a ha b hb f => ?_) _
  by_cases hab : a.1 = b.1
  · rw [List.inj_on_of_nodup_map hkeys (hperm.mem_iff.1 ha) (hperm.mem_iff.1 hb) hab]
  · simp only [step, replaced_comm hab]

/-- Two attributes can be brought to the front, in either order. -/
theorem exists_perm_front (ha : a ∈ l) (hb : b ∈ l) (hne : a ≠ b) :
    ∃ rest, (a :: b :: rest).Perm l ∧ (b :: a :: rest).Perm l := by
  have hb' : b ∈ l.erase a := (List.mem_erase_of_ne hne.symm).2 hb
  have hperm : (a :: b :: (l.erase a).erase b).Perm l :=
    (((List.perm_cons_erase hb').symm).cons a).trans (List.perm_cons_erase ha).symm
  exact ⟨_, hperm, (List.Perm.swap a b _).trans hperm⟩

/-- **The order of attributes that clash shows**, in the score or in the vector. -/
theorem foldl_ne_of_clash {rest : List (String × String)} (hkeys : ((a :: b :: rest).map Prod.fst).Nodup)
    (hclash : Clash a b) (hscore : f.cvssScore = none) (hvector : f.cvssVector = "") :
    (a :: b :: rest).foldl applyAttribute f ≠ (b :: a :: rest).foldl applyAttribute f := by
  intro heq
  obtain ⟨ha, hb, x, y, hx, hy, hxy⟩ | ⟨ha, hb, hempty, hfull⟩ := hclash
  · have hxa : score? a = some x := by rw [score?, if_pos (.inl ha), hx]
    have hyb : score? b = some y := by rw [score?, if_pos (.inr hb), hy]
    have hscores := congrArg Finding.cvssScore heq
    rw [cvssScore_foldl, cvssScore_foldl, hscore, Option.none_or, Option.none_or,
      List.findSome?_cons_of_isSome (by rw [hxa]; rfl), List.findSome?_cons_of_isSome (by rw [hyb]; rfl), hxa,
      hyb] at hscores
    exact hxy (Option.some.inj hscores)
  · -- No other attribute is a vector, so what the two leave behind stays.
    have hnew : ∀ c ∈ rest, c.1 ≠ "CVSS3_VECTOR" := by
      intro c hc hkey
      refine (List.nodup_cons.1 hkeys).1 (List.mem_cons_of_mem _ ?_)
      exact List.mem_map.2 ⟨c, hc, hkey.trans ha.symm⟩
    have hold : ∀ c ∈ rest, c.1 ≠ "CVSS2_VECTOR" := by
      intro c hc hkey
      refine (List.nodup_cons.1 (List.nodup_cons.1 hkeys).2).1 ?_
      exact List.mem_map.2 ⟨c, hc, hkey.trans hb.symm⟩
    have hvectors := congrArg Finding.cvssVector heq
    simp only [List.foldl_cons] at hvectors
    rw [cvssVector_foldl hnew (.inr hold), cvssVector_foldl hnew (.inr hold)] at hvectors
    simp only [cvssVector_applyAttribute, vectorAfter, ha, hb, hvector, hempty] at hvectors
    exact hfull (by simpa using hvectors)

/-- **A basic finding in any order of its attributes.** The order shows exactly if two attributes clash: the scores of
both versions are there and are different numbers, or the vector of version 3 is there but empty, and that of version 2
is not. It never shows in anything but score and vector. The vector is that of version 3 if there is one that is not
empty. The score is the first one that is a number. -/
theorem basic_finding_in_any_order (uri : String) (b : BasicFinding) (hkeys : (b.attributes.map Prod.fst).Nodup) :
    ((∀ attributes, attributes.Perm b.attributes → ofBasic uri { b with attributes } = ofBasic uri b) ↔
        ∀ x ∈ b.attributes, ∀ y ∈ b.attributes, ¬ Clash x y) ∧
      (∀ attributes, attributes.Perm b.attributes →
        unrated (ofBasic uri { b with attributes }) = unrated (ofBasic uri b)) ∧
      (∀ vector, ("CVSS3_VECTOR", vector) ∈ b.attributes → vector ≠ "" → (ofBasic uri b).cvssVector = vector) ∧
      (ofBasic uri b).cvssScore = b.attributes.findSome? score? := by
  refine ⟨⟨fun hsame x hx y hy hclash => ?_, fun hclash attributes hperm => ?_⟩, fun attributes hperm => ?_,
    fun vector hmem hvector => ?_, ?_⟩
  · have hne : x ≠ y := by
      rintro rfl
      unfold Clash at hclash
      grind
    obtain ⟨rest, hxy, hyx⟩ := exists_perm_front hx hy hne
    refine foldl_ne_of_clash ?_ hclash rfl rfl ((hsame _ hxy).trans (hsame _ hyx).symm)
    exact (hxy.map Prod.fst).nodup_iff.2 hkeys
  · exact foldl_eq_of_perm hperm hkeys hclash _
  · exact unrated_foldl_eq_of_perm hperm hkeys _
  · exact cvssVector_of_mem hkeys hmem hvector _
  · rw [ofBasic, cvssScore_foldl, Option.none_or]

/-- A finding that is rated by both versions, the older one first. -/
def twiceRated : BasicFinding where
  name := "CVE-2024-0001"
  severity := "HIGH"
  attributes := [("CVSS2_SCORE", "5.0"), ("CVSS2_VECTOR", "AV:N/AC:L/Au:N/C:P/I:N/A:N"), ("CVSS3_SCORE", "7.5"),
    ("CVSS3_VECTOR", "CVSS:3.1/AV:N/AC:L/PR:N/UI:N/S:U/C:H/I:N/A:N"), ("package_name", "openssl")]

/-- The vector is that of version 3 although it comes later, and the package is the same in any order. -/
theorem basic_finding_in_any_order_twice_rated :
    (twiceRated.attributes.map Prod.fst).Nodup ∧
      (ofBasic "r/a:1" twiceRated).cvssVector = "CVSS:3.1/AV:N/AC:L/PR:N/UI:N/S:U/C:H/I:N/A:N" ∧
      unrated (ofBasic "r/a:1" { twiceRated with attributes := twiceRated.attributes.reverse }) =
        unrated (ofBasic "r/a:1" twiceRated) := by
  have hkeys : (twiceRated.attributes.map Prod.fst).Nodup := by decide
  obtain ⟨-, hunrated, hvector, -⟩ := basic_finding_in_any_order "r/a:1" twiceRated hkeys
  exact ⟨hkeys, hvector _ (by decide) (by decide), hunrated _ (List.reverse_perm _)⟩

/-- **The score of version 2 wins if it is listed first**, although the vector is that of version 3, and with the same
attributes the other way round the score is that of version 3. -/
theorem score_of_older_version :
    (twiceRated.attributes.map Prod.fst).Nodup ∧
      (ofBasic "r/a:1" twiceRated).cvssScore = some 5 ∧
      (ofBasic "r/a:1" twiceRated).cvssVector = "CVSS:3.1/AV:N/AC:L/PR:N/UI:N/S:U/C:H/I:N/A:N" ∧
      (ofBasic "r/a:1" { twiceRated with attributes := twiceRated.attributes.reverse }).cvssScore = some 7.5 ∧
      ofBasic "r/a:1" { twiceRated with attributes := twiceRated.attributes.reverse } ≠ ofBasic "r/a:1" twiceRated := by
  have hfirst : (ofBasic "r/a:1" twiceRated).cvssScore = some 5 := by decide +kernel
  have hreversed :
      (ofBasic "r/a:1" { twiceRated with attributes := twiceRated.attributes.reverse }).cvssScore = some 7.5 := by
    decide +kernel
  refine ⟨by decide, hfirst, by decide +kernel, hreversed, fun hsame => ?_⟩
  rw [hsame, hfirst] at hreversed
  exact absurd hreversed (by decide +kernel)

end Triage.Inventory.Registry
