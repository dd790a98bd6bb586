import Mathlib.Data.List.Induction
import Mathlib.Data.List.Perm.Basic
import Triage.Proofs.Version.Prerelease

/-!
# The smallest of several versions

Versions are gone through one after the other, and one that is below the best so far takes its place (`smallest?`). As
versions are not ordered where pre-releases fork, what is found may depend on the order in which they come. Its segments
are the lowest in any case (`Running`), and the order does not matter exactly if among the versions with the lowest
segments one leads the others: `orderFree_iff_settled`.
-/
namespace Triage.Version

/-- No version has lower segments. -/
def Lowest (vs : List Version) (v : Version) : Prop := ∀ u ∈ vs, compareSegments u.segments v.segments ≠ .lt

/-- Among the versions with the same lowest segments there is one that leads them. -/
def Settled (vs : List Version) : Prop :=
  ∀ v ∈ vs, Lowest vs v → ∃ w ∈ vs, w.segments = v.segments ∧ ∀ y ∈ vs, y.segments = v.segments → Leads w y

instance (vs : List Version) (v : Version) : Decidable (Lowest vs v) :=
  inferInstanceAs (Decidable (∀ u ∈ vs, compareSegments u.segments v.segments ≠ .lt))

instance (vs : List Version) : Decidable (Settled vs) :=
  inferInstanceAs (Decidable (∀ v ∈ vs, Lowest vs v →
    ∃ w ∈ vs, w.segments = v.segments ∧ ∀ y ∈ vs, y.segments = v.segments → Leads w y))

theorem lowest_iff {vs : List Version} {v : Version} :
    Lowest vs v ↔ ∀ u ∈ vs, place v.segments ≤ place u.segments := by
  simp only [Lowest, compareSegments_eq_compare, ne_eq, compare_lt_iff_lt, not_lt]

/-! ## Going through versions -/

/-- The smaller one of two versions; the first one if none is. -/
def smaller (best v : Version) : Version := if v.compare best == .lt then v else best

/-- What is found by going through versions. -/
def smallest? : List Version → Option Version
  | [] => none
  | v :: vs => some (vs.foldl smaller v)

section Smaller

variable {best v : Version}

theorem smaller_of_lt (h : v.compare best = .lt) : smaller best v = v := if_pos (beq_iff_eq.2 h)

theorem smaller_of_not_lt (h : v.compare best ≠ .lt) : smaller best v = best := if_neg (mt beq_iff_eq.1 h)

theorem foldl_smaller_of_not_lt {vs : List Version} (h : ∀ v ∈ vs, v.compare best ≠ .lt) :
    vs.foldl smaller best = best := by
  induction vs with
  | nil => rfl
  | cons v vs ih =>
    obtain ⟨hv, hvs⟩ := List.forall_mem_cons.1 h
    rw [List.foldl_cons, smaller_of_not_lt hv, ih hvs]

theorem foldl_smaller_mem (best : Version) (vs : List Version) : vs.foldl smaller best ∈ best :: vs := by
  induction vs generalizing best with
  | nil => exact List.mem_cons_self
  | cons v vs ih =>
    rw [List.foldl_cons]
    rcases List.mem_cons.1 (ih (smaller best v)) with heq | hmem
    · rw [heq, smaller]
      split <;> simp
    · exact List.mem_cons_of_mem _ (List.mem_cons_of_mem _ hmem)

/-- One more version. -/
theorem smallest?_append_singleton (vs : List Version) (v : Version) :
    smallest? (vs ++ [v]) = some ((smallest? vs).elim v fun best => smaller best v) := by
  cases vs with
  | nil => rfl
  | cons u vs => rw [List.cons_append, smallest?, List.foldl_append]; rfl

theorem exists_smallest? {vs : List Version} (hne : vs ≠ []) : ∃ v ∈ vs, smallest? vs = some v := by
  obtain ⟨v, vs, rfl⟩ := List.exists_cons_of_ne_nil hne
  exact ⟨_, foldl_smaller_mem v vs, rfl⟩

theorem place_le_of_compare_lt (h : v.compare best = .lt) : place v.segments ≤ place best.segments := by
  by_cases hsame : v.segments = best.segments
  · rw [hsame]
  · rw [compare_of_segments_ne hsame, compare_lt_iff_lt] at h
    exact h.le

theorem place_le_of_not_compare_lt (h : v.compare best ≠ .lt) : place best.segments ≤ place v.segments := by
  by_cases hsame : v.segments = best.segments
  · rw [hsame]
  · rw [compare_of_segments_ne hsame, ne_eq, compare_lt_iff_lt, not_lt] at h
    exact h

end Smaller

/-! ## What is best among the versions seen -/

/-- The version leads all those of the list with its segments. -/
def LeadsAll (vs : List Version) (w : Version) : Prop := ∀ y ∈ vs, y.segments = w.segments → Leads w y

/-- The best one of the versions `seen` among all versions `vs`: its segments are the lowest, and it is the one that
leads all those with its segments if that has been seen. -/
structure Running (vs seen : List Version) (best : Version) : Prop where
  mem : best ∈ seen
  lowest : ∀ u ∈ seen, place best.segments ≤ place u.segments
  leader : ∀ w ∈ seen, w.segments = best.segments → LeadsAll vs w → best.prerelease = w.prerelease

/-- **One more version.** -/
theorem Running.smaller {vs seen : List Version} {best v : Version} (h : Running vs seen best)
    (hread : ∀ v ∈ vs, Readable v) (hsub : ∀ u ∈ seen, u ∈ vs) (hv : v ∈ vs) :
    Running vs (seen ++ [v]) (smaller best v) := by
  have hbest := hsub best h.mem
  by_cases hlt : v.compare best = .lt
  · rw [smaller_of_lt hlt]
    have hle := place_le_of_compare_lt hlt
    refine ⟨List.mem_append_right _ List.mem_cons_self, List.forall_mem_append.2 ⟨fun u hu => ?_, ?_⟩,
      List.forall_mem_append.2 ⟨fun w hw hsame hleads => ?_, ?_⟩⟩
    · exact hle.trans (h.lowest u hu)
    · exact List.forall_mem_singleton.2 le_rfl
    · -- The leader was seen before, so it was the best one, and nothing is below it.
      have hsame' : v.segments = best.segments := by
        by_contra hne
        rw [compare_of_segments_ne hne, compare_lt_iff_lt, ← hsame] at hlt
        exact absurd (h.lowest w hw) (not_le.2 hlt)
      have heq := h.leader w hw (hsame.trans hsame') hleads
      rw [compare_congr_right (hsame.trans hsame').symm heq] at hlt
      exact absurd hlt (hleads v hv hsame.symm).2
    · exact List.forall_mem_singleton.2 fun _ _ => rfl
  · rw [smaller_of_not_lt hlt]
    refine ⟨List.mem_append_left _ h.mem, List.forall_mem_append.2 ⟨h.lowest, ?_⟩,
      List.forall_mem_append.2 ⟨h.leader, ?_⟩⟩
    · exact List.forall_mem_singleton.2 (place_le_of_not_compare_lt hlt)
    · refine List.forall_mem_singleton.2 fun hsame hleads => ?_
      -- The leader is not below the best one and not above it.
      have heq : v.compare best = .eq := by
        cases hcompare : v.compare best with
        | lt => exact absurd hcompare hlt
        | eq => rfl
        | gt => exact absurd hcompare (hleads best hbest hsame.symm).1
      exact ((compare_eq_eq_iff (hread v hv) (hread best hbest) hsame).1 heq).symm

/-- **All versions.** -/
theorem running_foldl {vs : List Version} (hread : ∀ v ∈ vs, Readable v) {v : Version} {rest : List Version}
    (hsub : ∀ u ∈ v :: rest, u ∈ vs) : Running vs (v :: rest) (rest.foldl smaller v) := by
  induction rest using List.reverseRecOn with
  | nil =>
    exact ⟨List.mem_cons_self, List.forall_mem_singleton.2 le_rfl, List.forall_mem_singleton.2 fun _ _ => rfl⟩
  | append_singleton rest u ih =>
    rw [← List.cons_append] at hsub ⊢
    obtain ⟨hrest, hu⟩ := List.forall_mem_append.1 hsub
    rw [List.foldl_append]
    exact (ih hrest).smaller hread hrest (hu u List.mem_cons_self)

theorem running_of_smallest? {vs vs' : List Version} (hread : ∀ v ∈ vs, Readable v) (hperm : vs'.Perm vs)
    {best : Version} (h : smallest? vs' = some best) : Running vs vs best := by
  cases vs' with
  | nil => cases h
  | cons v rest =>
    cases h
    have hrun := running_foldl hread fun u hu => hperm.mem_iff.1 hu
    exact ⟨hperm.mem_iff.1 hrun.mem, fun u hu => hrun.lowest u (hperm.mem_iff.2 hu),
      fun w hw => hrun.leader w (hperm.mem_iff.2 hw)⟩

/-! ## Other orders -/

/-- Whatever the order, what is found is the same. -/
def OrderFree (vs : List Version) : Prop :=
  ∀ one other, one.Perm vs → other.Perm vs →
    ∃ v v', smallest? one = some v ∧ smallest? other = some v' ∧ v.compare v' = .eq

/-- **If one version leads, the order does not matter.** -/
theorem orderFree_of_settled {vs : List Version} (hread : ∀ v ∈ vs, Readable v) (hne : vs ≠ []) (h : Settled vs) :
    OrderFree vs := by
  intro one other hone hother
  have hne' {order : List Version} (hperm : order.Perm vs) : order ≠ [] :=
    mt (fun hnil => (hnil ▸ hperm).nil_eq.symm) hne
  obtain ⟨v, -, hv⟩ := exists_smallest? (hne' hone)
  obtain ⟨v', -, hv'⟩ := exists_smallest? (hne' hother)
  refine ⟨v, v', hv, hv', ?_⟩
  have hrun := running_of_smallest? hread hone hv
  have hrun' := running_of_smallest? hread hother hv'
  by_cases hsame : v.segments = v'.segments
  · obtain ⟨w, hw, hwseg, hleads⟩ := h v hrun.mem (lowest_iff.2 hrun.lowest)
    have hleads : LeadsAll vs w := fun y hy hyseg => hleads y hy (hyseg.trans hwseg)
    rw [compare_eq_eq_iff (hread v hrun.mem) (hread v' hrun'.mem) hsame, hrun.leader w hw hwseg hleads,
      hrun'.leader w hw (hwseg.trans hsame) hleads]
  · rw [compare_of_segments_ne hsame, compare_eq_iff_eq]
    exact le_antisymm (hrun.lowest v' hrun'.mem) (hrun'.lowest v hrun.mem)

/-- Among tidy versions one leads. -/
theorem settled_of_tidy {vs : List Version} (hread : ∀ v ∈ vs, Readable v) (h : Tidy vs) : Settled vs := by
  intro v hv _
  have hmem {u : Version} : u ∈ vs.filter (·.segments = v.segments) ↔ u ∈ vs ∧ u.segments = v.segments := by
    rw [List.mem_filter, decide_eq_true_eq]
  obtain ⟨w, hw, hleads⟩ := h.exists_leads hread (fun u hu => hmem.1 hu) (List.ne_nil_of_mem (hmem.2 ⟨hv, rfl⟩))
  exact ⟨w, (hmem.1 hw).1, (hmem.1 hw).2, fun y hy hseg => hleads y (hmem.2 ⟨hy, hseg⟩)⟩

/-! ## If the order does not matter, one version leads -/

section Group

variable {vs : List Version} {v : Version}

/-- Versions with the lowest segments that come first decide what is found. -/
theorem smallest?_append_of_lowest {group others : List Version} (hne : group ≠ [])
    (hgroup : ∀ u ∈ group, u.segments = v.segments)
    (hothers : ∀ u ∈ others, u.segments ≠ v.segments ∧ place v.segments ≤ place u.segments) :
    smallest? (group ++ others) = smallest? group := by
  obtain ⟨u, rest, rfl⟩ := List.exists_cons_of_ne_nil hne
  have hseg := hgroup _ (foldl_smaller_mem u rest)
  rw [List.cons_append, smallest?, smallest?, List.foldl_append, foldl_smaller_of_not_lt]
  intro w hw
  obtain ⟨hwne, hle⟩ := hothers w hw
  rw [← hseg] at hwne hle
  rw [compare_of_segments_ne hwne, ne_eq, compare_lt_iff_lt, not_lt]
  exact hle

/-- All orders of the group give the same pre-release. -/
def Agreeing (group : List Version) (x : Version) : Prop :=
  ∀ order, order.Perm group → ∃ r ∈ group, smallest? order = some r ∧ r.prerelease = x.prerelease

theorem Agreeing.not_lt {group : List Version} {x y : Version} (h : Agreeing group x)
    (hseg : ∀ u ∈ group, u.segments = x.segments) (hy : y ∈ group) : y.compare x ≠ .lt := by
  -- If it comes last it is compared with what would be found without it.
  obtain ⟨r, hr, hfound, heq⟩ := h (group.erase y ++ [y])
    ((List.perm_append_singleton y _).trans (List.perm_cons_erase hy).symm)
  rw [smallest?_append_singleton, Option.some.injEq] at hfound
  have hcompare := compare_congr_right (hseg r hr) heq y
  intro hlt
  rw [← hcompare] at hlt
  cases hbest : smallest? (group.erase y) with
  | none =>
    rw [hbest, Option.elim_none] at hfound
    rw [hfound, compare_of_segments_eq rfl, comparePrerelease_self] at hlt
    cases hlt
  | some best =>
    rw [hbest, Option.elim_some] at hfound
    by_cases hbelow : y.compare best = .lt
    · rw [← hfound, smaller_of_lt hbelow, compare_of_segments_eq rfl, comparePrerelease_self] at hlt
      cases hlt
    · rw [← hfound, smaller_of_not_lt hbelow] at hlt
      exact hbelow hlt

theorem Agreeing.not_gt {group : List Version} {x y : Version} (h : Agreeing group x)
    (hseg : ∀ u ∈ group, u.segments = x.segments) (hy : y ∈ group) : x.compare y ≠ .gt := by
  intro hgt
  -- If it comes first, and then all with the pre-release that is to be found, none of these takes its place.
  have hsplit : (y :: ((group.erase y).filter (·.prerelease = x.prerelease) ++
      (group.erase y).filter (!·.prerelease = x.prerelease))).Perm group :=
    ((List.filter_append_perm _ _).cons y).trans (List.perm_cons_erase hy).symm
  obtain ⟨r, hr, hfound, heq⟩ := h _ hsplit
  have hkept : ((group.erase y).filter (·.prerelease = x.prerelease)).foldl smaller y = y := by
    refine foldl_smaller_of_not_lt fun u hu hlt => ?_
    obtain ⟨hmem, hpre⟩ := List.mem_filter.1 hu
    rw [compare_congr_left (hseg u (List.mem_of_mem_erase hmem)) (of_decide_eq_true hpre), hgt] at hlt
    cases hlt
  have hmem := foldl_smaller_mem y ((group.erase y).filter (!·.prerelease = x.prerelease))
  rw [smallest?, List.foldl_append, hkept, Option.some.injEq] at hfound
  rw [hfound, List.mem_cons] at hmem
  rcases hmem with rfl | hmem
  · rw [compare_congr_right (hseg r hr) heq, compare_of_segments_eq rfl, comparePrerelease_self] at hgt
    cases hgt
  · simp [heq] at hmem

/-- **If the order does not matter, one version leads.** -/
theorem settled_of_orderFree (hread : ∀ v ∈ vs, Readable v) (h : OrderFree vs) : Settled vs := by
  intro v hv hlowest
  let group := vs.filter (·.segments = v.segments)
  let others := vs.filter (!·.segments = v.segments)
  have hmem {u : Version} : u ∈ group ↔ u ∈ vs ∧ u.segments = v.segments := by
    rw [List.mem_filter, decide_eq_true_eq]
  have hne {order : List Version} (hperm : order.Perm group) : order ≠ [] :=
    List.ne_nil_of_mem (hperm.mem_iff.2 (hmem.2 ⟨hv, rfl⟩))
  -- What is found in an order of the group is found in an order of all versions.
  have hall {order : List Version} (hperm : order.Perm group) :
      (order ++ others).Perm vs ∧ smallest? (order ++ others) = smallest? order := by
    refine ⟨(hperm.append_right others).trans (List.filter_append_perm _ vs), ?_⟩
    refine smallest?_append_of_lowest (hne hperm) (fun u hu => (hmem.1 (hperm.mem_iff.1 hu)).2) fun u hu => ?_
    obtain ⟨hu, hseg⟩ := List.mem_filter.1 hu
    exact ⟨by simpa using hseg, lowest_iff.1 hlowest u hu⟩
  obtain ⟨x, hx, hfound⟩ := exists_smallest? (hne (.refl group))
  have hseg : ∀ u ∈ group, u.segments = x.segments := fun u hu => (hmem.1 hu).2.trans (hmem.1 hx).2.symm
  have hagreeing : Agreeing group x := by
    intro order hperm
    obtain ⟨r, hr, hfound'⟩ := exists_smallest? (hne hperm)
    have hr := hperm.mem_iff.1 hr
    refine ⟨r, hr, hfound', ?_⟩
    obtain ⟨r', x', hr', hx', heq⟩ := h _ _ (hall hperm).1 (hall (.refl group)).1
    rw [(hall hperm).2, hfound', Option.some.injEq] at hr'
    rw [(hall (.refl group)).2, hfound, Option.some.injEq] at hx'
    subst hr' hx'
    exact (compare_eq_eq_iff (hread r (hmem.1 hr).1) (hread x (hmem.1 hx).1) (hseg r hr)).1 heq
  refine ⟨x, (hmem.1 hx).1, (hmem.1 hx).2, fun y hy hyseg => ?_⟩
  have hy := hmem.2 ⟨hy, hyseg⟩
  exact ⟨hagreeing.not_gt hseg hy, hagreeing.not_lt hseg hy⟩

end Group

/-- **The order does not matter exactly if one version leads.** -/
theorem orderFree_iff_settled {vs : List Version} (hread : ∀ v ∈ vs, Readable v) (hne : vs ≠ []) :
    OrderFree vs ↔ Settled vs :=
  ⟨settled_of_orderFree hread, orderFree_of_settled hread hne⟩

end Triage.Version
