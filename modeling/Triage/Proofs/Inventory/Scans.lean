import Mathlib.Data.List.Induction
import Triage.Inventory.Images
import Triage.Proofs.Activities
import Triage.Proofs.Listing
import Triage.Proofs.SideBySide

/-!
# Scans side by side

The scans of a load need not be made one after the other. Each image has an activity of its own, which takes one
of ten places, scans the image, records what came of it and hands the place back. Findings are recorded in the
slot of the image, and a scan that failed is counted. Whatever order the moves come in, every image is scanned
once (`Sound.calls`), and when all activities are through, slots and count come to what the scans one after the
other do. Main statement: `load_in_any_order`.
-/
namespace Triage.Inventory.Images

open SideBySide (Rules Scene Event forall_mem_replace)

variable {σ : Type}

/-! ## What is scanned -/

/-- One more image is one more target, if it has an address that is new. -/
theorem targets_append_singleton (images : List Image.Sighting) (i : Image.Sighting) :
    targets (images ++ [i]) =
      if i.uri = "" ∨ i.uri ∈ targets images then targets images else targets images ++ [i.uri] := by
  by_cases hempty : i.uri = ""
  · simp [targets, hempty]
  · simp [targets, hempty, Listing.distinct, Listing.addNew, List.foldl_append]

theorem nodup_targets (images : List Image.Sighting) : (targets images).Nodup := Listing.nodup_distinct _

theorem mem_targets {images : List Image.Sighting} {uri : String} :
    uri ∈ targets images ↔ uri ≠ "" ∧ ∃ i ∈ images, i.uri = uri := by
  simp only [targets, Listing.mem_distinct, List.mem_filter, List.mem_map, bne_iff_ne]
  exact and_comm

/-- Targets come in the order in which they are first seen. -/
theorem pairwise_targets (images : List Image.Sighting) :
    (targets images).Pairwise fun a b => (images.map (·.uri)).idxOf a < (images.map (·.uri)).idxOf b := by
  induction images using List.reverseRecOn with
  | nil => exact .nil
  | append_singleton images i ih =>
    have hseen : ∀ uri ∈ targets images, uri ∈ images.map (·.uri) := fun uri huri =>
      List.mem_map.2 (mem_targets.1 huri).2
    have hbefore : (targets images).Pairwise fun a b =>
        ((images ++ [i]).map (·.uri)).idxOf a < ((images ++ [i]).map (·.uri)).idxOf b := by
      refine ih.imp_of_mem fun ha hb hab => ?_
      rwa [List.map_append, List.idxOf_append_of_mem (hseen _ ha), List.idxOf_append_of_mem (hseen _ hb)]
    rw [targets_append_singleton]
    split
    · exact hbefore
    · rename_i hnew
      rw [not_or] at hnew
      refine List.pairwise_append.2 ⟨hbefore, List.pairwise_singleton _ _, fun a ha b hb => ?_⟩
      rw [List.mem_singleton.1 hb]
      have hunseen : i.uri ∉ images.map (·.uri) := fun hmem =>
        hnew.2 (mem_targets.2 ⟨hnew.1, List.mem_map.1 hmem⟩)
      rw [List.map_append, List.idxOf_append_of_mem (hseen a ha), List.idxOf_append_of_notMem hunseen]
      exact Nat.lt_add_right _ (List.idxOf_lt_length_of_mem (hseen a ha))

/-! ## The scans -/

/-- How many scans are under way at once. -/
def scanLimit : Nat := 10

/-- Where the scan of an image stands. -/
inductive Stage where
  | waiting
  | admitted
  | scanned (result : Except Failure (List Finding))
  /-- What came of it is recorded, the place is still taken. -/
  | recorded
  | done

/-- The scan of one image. -/
structure Scan where
  uri : String
  stage : Stage := .waiting

/-- What the scans of a load share. -/
structure Desk (σ : Type) where
  world : σ
  taken : Nat := 0
  failed : Nat := 0
  /-- The findings of each image. -/
  slots : List (List Finding)
  /-- The images that were scanned, the last one first. -/
  calls : List String := []

/-- What a scan does in one go. -/
inductive Move where
  | acquire
  | scan
  | record
  | release

/-- What a move of the scan at an index leads to, if it can be made. -/
def move (s : Scanner σ) (index : Nat) (x : Scan) (d : Desk σ) (m : Move) : Option (Scan × Desk σ) :=
  match m, x.stage with
  | .acquire, .waiting =>
    if d.taken < scanLimit then some ({ x with stage := .admitted }, { d with taken := d.taken + 1 }) else none
  | .scan, .admitted =>
    let (result, world) := s.scan x.uri d.world
    some ({ x with stage := .scanned result }, { d with world, calls := x.uri :: d.calls })
  | .record, .scanned (.ok fs) =>
    some ({ x with stage := .recorded }, { d with slots := d.slots.set index (ascribe x.uri fs) })
  | .record, .scanned (.error _) => some ({ x with stage := .recorded }, { d with failed := d.failed + 1 })
  | .release, .recorded => some ({ x with stage := .done }, { d with taken := d.taken - 1 })
  | _, _ => none

/-- The rules of scans. The world of the scanner may change without it. -/
def rules (s : Scanner σ) : Rules Scan (Desk σ) Move σ where
  move := move s
  outside world d := { d with world }

def begun (uris : List String) (world : σ) : Scene Scan (Desk σ) where
  shared := { world, slots := uris.map fun _ => [] }
  activities := uris.map fun uri => { uri }

def Finished (m : Scene Scan (Desk σ)) : Prop := ∀ x ∈ m.activities, x.stage = .done

def result (m : Scene Scan (Desk σ)) : Except Failure (List Finding) :=
  if 0 < m.activities.length ∧ m.shared.failed = m.activities.length then .error (allFailed m.shared.failed)
  else .ok m.shared.slots.flatten

/-! ## One move -/

namespace Stage

/-- How many moves lie behind. -/
@[simp] def rank : Stage → Nat
  | .waiting => 0
  | .admitted => 1
  | .scanned _ => 2
  | .recorded => 3
  | .done => 4

@[simp] def holds : Stage → Bool
  | .admitted | .scanned _ | .recorded => true
  | .waiting | .done => false

@[simp] def asked : Stage → Bool
  | .scanned _ | .recorded | .done => true
  | .waiting | .admitted => false

@[simp] def settled : Stage → Bool
  | .recorded | .done => true
  | .waiting | .admitted | .scanned _ => false

theorem rank_eq_iff (stage : Stage) : stage.rank = 4 ↔ stage = .done := by
  cases stage <;> simp

end Stage

section

variable (assigned : String → Except Failure (List Finding))

/-- What the slot of an image holds. -/
@[simp] def Scan.written (x : Scan) : List Finding :=
  if x.stage.settled then yield x.uri (assigned x.uri) else []

/-- The scan has been counted as failed. -/
@[simp] def Scan.counted (x : Scan) : Bool := x.stage.settled && !succeeded (assigned x.uri)

end

/-- `x` makes the move `m` to the stage `stage` and leaves `d'` of what is shared. -/
inductive Moves (s : Scanner σ) (index : Nat) (x : Scan) (d : Desk σ) : Move → Stage → Desk σ → Prop
  | admitted : x.stage = .waiting → d.taken < scanLimit →
      Moves s index x d .acquire .admitted { d with taken := d.taken + 1 }
  | scanned : x.stage = .admitted →
      Moves s index x d .scan (.scanned (s.scan x.uri d.world).1)
        { d with world := (s.scan x.uri d.world).2, calls := x.uri :: d.calls }
  | kept {fs : List Finding} : x.stage = .scanned (.ok fs) →
      Moves s index x d .record .recorded { d with slots := d.slots.set index (ascribe x.uri fs) }
  | counted {e : Failure} : x.stage = .scanned (.error e) →
      Moves s index x d .record .recorded { d with failed := d.failed + 1 }
  | released : x.stage = .recorded → Moves s index x d .release .done { d with taken := d.taken - 1 }

theorem moves_of_move {s : Scanner σ} {index : Nat} {x x' : Scan} {d d' : Desk σ} {m : Move}
    (h : (rules s).move index x d m = some (x', d')) :
    ∃ stage, x' = { x with stage } ∧ Moves s index x d m stage d' := by
  simp only [rules, move] at h
  split at h
  · rename_i hstage
    split at h
    · rename_i hfree
      cases h
      exact ⟨_, rfl, .admitted hstage hfree⟩
    · cases h
  · rename_i hstage
    cases h
    exact ⟨_, rfl, .scanned hstage⟩
  · rename_i hstage
    cases h
    exact ⟨_, rfl, .kept hstage⟩
  · rename_i hstage
    cases h
    exact ⟨_, rfl, .counted hstage⟩
  · rename_i hstage
    cases h
    exact ⟨_, rfl, .released hstage⟩
  · cases h

theorem rank_lt_of_move {s : Scanner σ} {index : Nat} {x x' : Scan} {d d' : Desk σ} {m : Move}
    (h : (rules s).move index x d m = some (x', d')) : x.stage.rank < x'.stage.rank := by
  obtain ⟨stage, rfl, hmoves⟩ := moves_of_move h
  cases hmoves <;> simp [*]

/-- A scan with a place can move, and so can a waiting one if there is a place to take. -/
theorem exists_move (s : Scanner σ) (index : Nat) {x : Scan} (d : Desk σ)
    (h : x.stage.holds = true ∨ x.stage = .waiting ∧ d.taken < scanLimit) :
    ∃ m x' d', (rules s).move index x d m = some (x', d') := by
  obtain ⟨uri, stage⟩ := x
  cases stage with
  | waiting =>
    have hfree : d.taken < scanLimit := by simpa using h
    exact ⟨.acquire, _, _, by simp only [rules, move, hfree, if_true]; rfl⟩
  | admitted => exact ⟨.scan, _, _, rfl⟩
  | scanned result =>
    cases result with
    | ok fs => exact ⟨.record, _, _, rfl⟩
    | error e => exact ⟨.record, _, _, rfl⟩
  | recorded => exact ⟨.release, _, _, rfl⟩
  | done => simp at h

/-! ## Many moves -/

/-- What is shared fits to where the scans stand, if `assigned` is what comes of them. -/
structure Sound (assigned : String → Except Failure (List Finding)) (m : Scene Scan (Desk σ)) : Prop where
  slots : m.shared.slots = m.activities.map (Scan.written assigned)
  failed : m.shared.failed = m.activities.countP (Scan.counted assigned)
  taken : m.shared.taken = m.activities.countP (·.stage.holds)
  calls : m.shared.calls.Perm ((m.activities.filter (·.stage.asked)).map (·.uri))
  results : ∀ x ∈ m.activities, ∀ r, x.stage = .scanned r → r = assigned x.uri

section

variable {s : Scanner σ} {assigned : String → Except Failure (List Finding)}
  {m m' : Scene Scan (Desk σ)}

theorem sound_begun (uris : List String) (world : σ) : Sound assigned (begun uris world) where
  slots := by simp [begun, Function.comp_def]
  failed := by simp [begun, Function.comp_def]
  taken := by simp [begun, Function.comp_def]
  calls := by simp [begun, List.filter_map, Function.comp_def]
  results x hx r hr := by
    obtain ⟨uri, -, rfl⟩ := List.mem_map.1 hx
    cases hr

/-- **One event** keeps what is shared in step with the scans. -/
theorem Sound.step (hscan : ∀ uri world, (s.scan uri world).1 = assigned uri) (h : Sound assigned m)
    {e : Event Move σ} (hstep : m.step (rules s) e = some m') : Sound assigned m' := by
  cases e with
  | outside world =>
    cases hstep
    exact ⟨h.slots, h.failed, h.taken, h.calls, h.results⟩
  | move i mv =>
    obtain ⟨pre, ⟨uri, stage⟩, post, x', d, hsplit, rfl, hmove, rfl⟩ := Scene.step_move hstep
    obtain ⟨stage', rfl, hmoves⟩ := moves_of_move hmove
    obtain ⟨slots, failed, taken, calls, results⟩ := h
    rw [hsplit] at slots failed taken calls results
    cases hmoves with
    | admitted hstage hfree =>
      cases hstage
      refine ⟨by simpa using slots, by simpa using failed, ?_, by simpa using calls, forall_mem_replace results nofun⟩
      simp at taken ⊢
      omega
    | scanned hstage =>
      cases hstage
      refine ⟨by simpa using slots, by simpa using failed, by simpa using taken, ?_, forall_mem_replace results ?_⟩
      · have hasked := calls.cons uri
        simp only [List.filter_append, List.map_append] at hasked ⊢
        exact hasked.trans List.perm_middle.symm
      · intro r hr
        cases hr
        exact hscan _ _
    | @kept fs hstage =>
      cases hstage
      have hresult : .ok fs = assigned uri := results _ (List.mem_append_right _ List.mem_cons_self) _ rfl
      refine ⟨?_, ?_, by simpa using taken, by simpa using calls, forall_mem_replace results nofun⟩
      · simp [slots, ← hresult, yield]
      · simpa [← hresult, succeeded] using failed
    | @counted e hstage =>
      cases hstage
      have hresult : .error e = assigned uri := results _ (List.mem_append_right _ List.mem_cons_self) _ rfl
      refine ⟨?_, ?_, by simpa using taken, by simpa using calls, forall_mem_replace results nofun⟩
      · simpa [← hresult, yield] using slots
      · simp [← hresult, succeeded] at failed ⊢
        omega
    | released hstage =>
      cases hstage
      refine ⟨by simpa using slots, by simpa [List.countP_cons] using failed, ?_, by simpa using calls,
        forall_mem_replace results nofun⟩
      simp at taken ⊢
      omega

/-- **All events** do. -/
theorem Sound.exec (hscan : ∀ uri world, (s.scan uri world).1 = assigned uri) (h : Sound assigned m)
    {es : List (Event Move σ)} (hexec : m.exec (rules s) es = some m') : Sound assigned m' :=
  Scene.exec_invariant (fun _ _ _ hm hstep => Sound.step hscan hm hstep) h hexec

/-- The scans stay those of the images that they are of. -/
theorem uris_exec {es : List (Event Move σ)} (hexec : m.exec (rules s) es = some m') :
    m'.activities.map (·.uri) = m.activities.map (·.uri) := by
  refine Scene.exec_invariant (P := fun m' => m'.activities.map (·.uri) = m.activities.map (·.uri)) ?_ rfl hexec
  intro m₁ e m₂ huris hstep
  cases e with
  | outside world =>
    cases hstep
    exact huris
  | move i mv =>
    obtain ⟨pre, x, post, x', d, hsplit, -, hmove, rfl⟩ := Scene.step_move hstep
    obtain ⟨stage, rfl, -⟩ := moves_of_move hmove
    rw [← huris, hsplit]
    simp

/-- As long as a scan is not through, some scan can move. -/
theorem Sound.exists_step (h : Sound assigned m) (hleft : ∃ x ∈ m.activities, x.stage.rank ≠ 4) :
    ∃ i mv m', m.step (rules s) (.move i mv) = some m' := by
  have hmove : ∀ x ∈ m.activities, x.stage.holds = true ∨ x.stage = .waiting ∧ m.shared.taken < scanLimit →
      ∃ i mv m', m.step (rules s) (.move i mv) = some m' := by
    intro x hx hcan
    obtain ⟨pre, post, hsplit⟩ := List.append_of_mem hx
    obtain ⟨mv, x', d, hm⟩ := exists_move s pre.length m.shared hcan
    exact ⟨pre.length, mv, _, Scene.step_of_move hsplit hm⟩
  -- Either some scan has a place, or all places are free and a waiting one can take one.
  by_cases hbusy : ∃ x ∈ m.activities, x.stage.holds = true
  · obtain ⟨x, hx, hholds⟩ := hbusy
    exact hmove x hx (.inl hholds)
  · have hfree : m.shared.taken = 0 := by
      rw [h.taken, List.countP_eq_zero]
      exact fun x hx hholds => hbusy ⟨x, hx, hholds⟩
    obtain ⟨x, hx, hnot⟩ := hleft
    have hidle : ¬ x.stage.holds = true := fun hholds => hbusy ⟨x, hx, hholds⟩
    refine hmove x hx (.inr ⟨?_, by rw [hfree]; decide⟩)
    cases hstage : x.stage with
    | waiting => rfl
    | done => exact absurd (x.stage.rank_eq_iff.2 hstage) hnot
    | _ => simp [hstage] at hidle

/-- **Every load can be ended.** -/
theorem Sound.exists_finish (hscan : ∀ uri world, (s.scan uri world).1 = assigned uri)
    (h : Sound assigned m) : ∃ es m', m.exec (rules s) es = some m' ∧ Finished m' := by
  obtain ⟨es, m', hexec, hlast⟩ := Scene.exists_finish (fun x : Scan => x.stage.rank) 4
    (fun x => by cases x.stage <;> simp) rank_lt_of_move (fun _ _ _ hm hstep => Sound.step hscan hm hstep)
    (fun _ hm => hm.exists_step) h
  exact ⟨es, m', hexec, fun x hx => x.stage.rank_eq_iff.1 (hlast x hx)⟩

/-! ## What the scans come to -/

/-- When all scans are through, each image has been scanned once, and each slot holds what came of it. -/
theorem Sound.of_finished (h : Sound assigned m) (hfinished : Finished m) :
    m.shared.calls.Perm (m.activities.map (·.uri)) ∧
      m.shared.slots = m.activities.map (fun x => yield x.uri (assigned x.uri)) ∧
      m.shared.failed = m.activities.countP (fun x => !succeeded (assigned x.uri)) := by
  refine ⟨?_, ?_, ?_⟩
  · have hall : m.activities.filter (·.stage.asked) = m.activities :=
      List.filter_eq_self.2 fun x hx => by simp [hfinished x hx]
    rw [← hall]
    exact h.calls
  · rw [h.slots]
    exact List.map_congr_left fun x hx => by simp [hfinished x hx]
  · rw [h.failed]
    exact List.countP_congr fun x hx => by simp [hfinished x hx]

/-- What the scans of all targets come to, if `assigned` is what comes of each. -/
theorem collect_eq (assigned : String → Except Failure (List Finding)) (uris : List String) :
    collect (uris.map fun uri => (uri, assigned uri)) =
      if uris ≠ [] ∧ ∀ uri ∈ uris, succeeded (assigned uri) = false then .error (allFailed uris.length)
      else .ok (uris.flatMap fun uri => yield uri (assigned uri)) := by
  have hcond : ((uris.map fun uri => (uri, assigned uri)).isEmpty ||
      (uris.map fun uri => (uri, assigned uri)).any fun s => succeeded s.2) = true ↔
      ¬ (uris ≠ [] ∧ ∀ uri ∈ uris, succeeded (assigned uri) = false) := by
    simp [List.any_map, imp_iff_not_or]
  unfold collect
  by_cases hall : uris ≠ [] ∧ ∀ uri ∈ uris, succeeded (assigned uri) = false
  · rw [if_pos hall, if_neg (fun h => hcond.1 h hall), List.length_map]
  · rw [if_neg hall, if_pos (hcond.2 hall), List.flatMap_map]

/-- **What all scans come to**, in whatever order they were made. -/
theorem result_of_finished (h : Sound assigned m) (hfinished : Finished m) :
    result m = collect ((m.activities.map (·.uri)).map fun uri => (uri, assigned uri)) := by
  obtain ⟨-, hslots, hfailed⟩ := h.of_finished hfinished
  have hall : 0 < m.activities.length ∧ m.shared.failed = m.activities.length ↔
      m.activities.map (·.uri) ≠ [] ∧ ∀ uri ∈ m.activities.map (·.uri), succeeded (assigned uri) = false := by
    rw [hfailed, List.countP_eq_length]
    simp [List.length_pos_iff]
  rw [collect_eq, result]
  by_cases hfail : 0 < m.activities.length ∧ m.shared.failed = m.activities.length
  · rw [if_pos hfail, if_pos (hall.1 hfail), hfail.2, List.length_map]
  · rw [if_neg hfail, if_neg (fun h => hfail (hall.2 h)), hslots, List.flatMap_map, List.flatMap_def]

end

/-! ## The load -/

theorem mapM_scan {s : Scanner σ} {assigned : String → Except Failure (List Finding)}
    (hscan : ∀ uri world, (s.scan uri world).1 = assigned uri) (uris : List String) (world : σ) :
    (uris.mapM (m := StateM σ) (fun uri => do return (uri, ← s.scan uri)) world).1 =
      uris.map fun uri => (uri, assigned uri) := by
  induction uris generalizing world with
  | nil => rfl
  | cons uri uris ih =>
    rw [List.mapM_cons, List.map_cons, bind_apply, bind_apply, ih, bind_apply, hscan]
    rfl

/-- One scan after the other. -/
theorem load_eq (d : Discoverer σ) {s : Scanner σ} {assigned : String → Except Failure (List Finding)}
    (hscan : ∀ uri world, (s.scan uri world).1 = assigned uri) (world : σ) :
    (load d s world).1 =
      match (d.discover world).1 with
      | .error e => .error (.context "failed to discover images" e)
      | .ok images => collect ((targets images).map fun uri => (uri, assigned uri)) := by
  unfold load
  rw [bind_apply]
  cases (d.discover world).1 with
  | error e => rfl
  | ok images =>
    dsimp only
    rw [bind_apply, mapM_scan hscan]
    rfl

theorem succeeded_eq_false_iff (r : Except Failure (List Finding)) :
    succeeded r = false ↔ ∃ e, r = .error e := by
  cases r <;> simp [succeeded]

/-- A load that does not fail gives what the scans found, target by target. -/
theorem collect_eq_ok_iff (assigned : String → Except Failure (List Finding)) (uris : List String)
    (fs : List Finding) :
    collect (uris.map fun uri => (uri, assigned uri)) = .ok fs ↔
      ¬ (uris ≠ [] ∧ ∀ uri ∈ uris, ∃ e, assigned uri = .error e) ∧
        fs = uris.flatMap fun uri => yield uri (assigned uri) := by
  simp only [← succeeded_eq_false_iff]
  rw [collect_eq]
  by_cases hall : uris ≠ [] ∧ ∀ uri ∈ uris, succeeded (assigned uri) = false
  · rw [if_pos hall]
    exact ⟨fun h => (nomatch h), fun h => absurd hall h.1⟩
  · rw [if_neg hall, Except.ok.injEq, eq_comm]
    exact ⟨fun h => ⟨hall, h⟩, fun h => h.2⟩

/-- A load fails if there are targets and all scans do. -/
theorem collect_eq_error_iff (assigned : String → Except Failure (List Finding)) (uris : List String) :
    (∃ e, collect (uris.map fun uri => (uri, assigned uri)) = .error e) ↔
      uris ≠ [] ∧ ∀ uri ∈ uris, ∃ e, assigned uri = .error e := by
  have hok := collect_eq_ok_iff assigned uris
  cases hcollect : collect (uris.map fun uri => (uri, assigned uri)) with
  | ok fs => exact ⟨fun ⟨e, he⟩ => (nomatch he), fun h => absurd h ((hok fs).1 hcollect).1⟩
  | error e =>
    refine ⟨fun _ => ?_, fun _ => ⟨e, rfl⟩⟩
    by_contra hnot
    have hfs := (hok _).2 ⟨hnot, rfl⟩
    rw [hcollect] at hfs
    cases hfs

/-- **A load gives the same answer whatever order the scans end in.** It fails if the discovery does. Otherwise
its targets are the addresses that were discovered, without the empty one, each of them once and in the order in
which they are first seen. It fails if there are targets and all scans fail, and else gives the findings of the
scans that succeed, target by target, with the address of the image as the source of those that name none. Scans
that are made side by side can always be brought to an end; then each target has been scanned once, and they come
to the same answer. -/
theorem load_in_any_order (d : Discoverer σ) (s : Scanner σ) {assigned : String → Except Failure (List Finding)}
    (hscan : ∀ uri world, (s.scan uri world).1 = assigned uri) (world : σ) :
    (∀ e, (d.discover world).1 = .error e →
      (load d s world).1 = .error (.context "failed to discover images" e)) ∧
    ∀ images, (d.discover world).1 = .ok images →
      ((targets images).Nodup ∧ (∀ uri, uri ∈ targets images ↔ uri ≠ "" ∧ ∃ i ∈ images, i.uri = uri) ∧
        (targets images).Pairwise fun a b => (images.map (·.uri)).idxOf a < (images.map (·.uri)).idxOf b) ∧
      ((∃ e, (load d s world).1 = .error e) ↔
        targets images ≠ [] ∧ ∀ uri ∈ targets images, ∃ e, assigned uri = .error e) ∧
      (∀ fs, (load d s world).1 = .ok fs → fs = (targets images).flatMap fun uri =>
        match assigned uri with
        | .ok found => found.map fun f => if f.source = "" then { f with source := uri } else f
        | .error _ => []) ∧
      ∀ es m, (begun (targets images) (d.discover world).2).exec (rules s) es = some m →
        (∃ more m', m.exec (rules s) more = some m' ∧ Finished m') ∧
        (Finished m → m.shared.calls.Perm (targets images) ∧ result m = (load d s world).1) := by
  have hload := load_eq d hscan world
  refine ⟨fun e he => ?_, fun images himages => ?_⟩
  · rw [hload, he]
  simp only [himages] at hload
  rw [hload]
  refine ⟨⟨nodup_targets _, fun uri => mem_targets, pairwise_targets _⟩, collect_eq_error_iff _ _, ?_, ?_⟩
  · intro fs hfs
    rw [((collect_eq_ok_iff _ _ _).1 hfs).2]
    refine congrArg (List.flatMap · (targets images)) (funext fun uri => ?_)
    cases assigned uri <;> rfl
  · intro es m hexec
    have hsound := (sound_begun (targets images) (d.discover world).2).exec hscan hexec
    have huris : m.activities.map (·.uri) = targets images := by
      rw [uris_exec hexec]
      simp [begun, Function.comp_def]
    refine ⟨hsound.exists_finish hscan, fun hfinished => ?_⟩
    rw [← huris]
    exact ⟨(hsound.of_finished hfinished).1, result_of_finished hsound hfinished⟩

/-- Five sightings: an image twice, and one without an address. -/
def fiveSightings : List Image.Sighting :=
  ["a", "b", "a", "", "c"].map fun uri => { uri, ns := "n", workload := "w", workloadType := "t" }

/-- A discoverer that sees them, and knows nothing of its world. -/
def fiveDiscoverer : Discoverer (List String) where
  name := "five"
  discover := return .ok fiveSightings
  covers _ := true

/-- What comes of scanning an image: `b` fails, and the others have two findings, one with a source. -/
def halfAnswer (uri : String) : Except Failure (List Finding) :=
  if uri = "b" then .error (.plain "no scan") else .ok [{ cve := "CVE-2024-0001" }, { source := "preset" }]

/-- A scanner that writes down what it scans. -/
def halfScanner : Scanner (List String) where
  name := "half"
  scan uri := fun log => (halfAnswer uri, uri :: log)

/-- The last image is scanned first, and the second scan is recorded before the first is made. -/
def crossingEvents : List (Event Move (List String)) :=
  [.move 2 .acquire, .move 0 .acquire, .move 2 .scan, .move 1 .acquire, .move 1 .scan, .outside [],
    .move 1 .record, .move 0 .scan, .move 2 .record, .move 0 .record, .move 1 .release, .move 0 .release,
    .move 2 .release]

theorem load_in_any_order_crossing :
    ∃ m, (begun ["a", "b", "c"] []).exec (rules halfScanner) crossingEvents = some m ∧ Finished m ∧
      m.shared.calls.Perm ["a", "b", "c"] ∧ result m = (load fiveDiscoverer halfScanner []).1 := by
  have hthrough : ((begun ["a", "b", "c"] []).exec (rules halfScanner) crossingEvents).any
      (fun m => m.activities.all (·.stage.rank == 4)) = true := by decide +kernel
  obtain ⟨m, hexec, hlast⟩ := (Option.any_eq_true _ _).1 hthrough
  have hfinished : Finished m := fun x hx =>
    x.stage.rank_eq_iff.1 (eq_of_beq (List.all_eq_true.1 hlast x hx))
  have hany := (load_in_any_order fiveDiscoverer halfScanner (fun _ _ => rfl) []).2 fiveSightings rfl
  exact ⟨m, hexec, hfinished, (hany.2.2.2 crossingEvents m hexec).2 hfinished⟩

end Triage.Inventory.Images
