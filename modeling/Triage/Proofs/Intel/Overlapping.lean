import Triage.Intel.Advisories
import Triage.Proofs.Activities
import Triage.Proofs.SideBySide

/-!
# Lookups of advisories that overlap

A lookup looks at what the client keeps, sends a query if that is nothing, receives the answer and keeps it. The
client is locked while a lookup looks and while it keeps an answer, but not in between. So each of these is a move
of its own, those of different lookups come in any order (`rules`), and the world may change between any two of them.
The moves of one lookup in a row are `Client.find` (`exec_in_a_row`).

An answer that is kept is not asked for again. But until it is kept, every other lookup of the vulnerability finds
nothing and asks for itself. Main statement: a vulnerability gets at most one answer more than it has lookups that
find nothing while another one is under way (`answers_of_overlapping_lookups`). Without such lookups it gets one
answer at most, and all lookups that succeed tell the same advisory.
-/
namespace Triage.Advisories

open SideBySide (Rules Scene Event forall_mem_replace exists_mem_replace countP_replace)

/-! ## The moves of a lookup -/

/-- Where a lookup stands. -/
inductive Stage where
  | begun
  /-- The client kept no answer. -/
  | missed
  | sent (reply : Except Failure (List Node))
  /-- The advisory is there, but it is not kept yet. -/
  | received (a : Advisory)
  | done (result : Except Failure Advisory)

/-- The lookup of a vulnerability. -/
structure Lookup where
  cve : String
  stage : Stage := .begun

/-- What the lookups share. -/
structure Desk where
  client : Client
  host : Host
  /-- The advisories that queries were answered with, the last one first. -/
  answered : List (String × Advisory) := []

/-- What a lookup does in one go. -/
inductive Move where
  | check
  | send
  | receive
  | store

/-- What a move of a lookup leads to, if it can be made. -/
def move (x : Lookup) (d : Desk) (m : Move) : Option (Lookup × Desk) :=
  match m, x.stage with
  | .check, .begun =>
    match d.client.known.lookup x.cve with
    | some a => some ({ x with stage := .done (.ok a) }, d)
    | none => some ({ x with stage := .missed }, d)
  | .send, .missed =>
    let (reply, host) := d.client.ask x.cve d.host
    some ({ x with stage := .sent reply }, { d with host })
  | .receive, .sent (.ok nodes) =>
    let a := firstAdvisory nodes
    some ({ x with stage := .received a }, { d with answered := (x.cve, a) :: d.answered })
  | .receive, .sent (.error cause) => some ({ x with stage := .done (.error (lookupFailure cause)) }, d)
  | .store, .received a =>
    some ({ x with stage := .done (.ok a) },
      { d with client := { d.client with known := Keyed.insert x.cve a d.client.known } })
  | _, _ => none

/-- The rules of lookups. The host may change without them. -/
def rules : Rules Lookup Desk Move Host where
  move _ := move
  outside host d := { d with host }

/-- The lookups of some vulnerabilities at the beginning of a run, before any of them has moved. -/
def begun (c : Client) (host : Host) (cves : List String) : Scene Lookup Desk where
  shared := { client := c.reset, host }
  activities := cves.map fun cve => { cve }

def Finished (m : Scene Lookup Desk) : Prop := ∀ x ∈ m.activities, ∃ result, x.stage = .done result

/-- The advisories that the queries for a vulnerability were answered with. -/
def Desk.answersTo (d : Desk) (cve : String) : List Advisory :=
  (d.answered.filter (·.1 == cve)).map (·.2)

namespace Stage

/-- How many moves lie behind at least. -/
@[simp] def rank : Stage → Nat
  | .begun => 0
  | .missed => 1
  | .sent _ => 2
  | .received _ => 3
  | .done _ => 4

/-- The lookup has found nothing and has not kept an answer yet. -/
@[simp] def underWay : Stage → Bool
  | .missed | .sent _ | .received _ => true
  | .begun | .done _ => false

/-- The lookup may still get an answer from the server. -/
@[simp] def awaits : Stage → Bool
  | .missed | .sent _ => true
  | .begun | .received _ | .done _ => false

/-- The advisory that the lookup has got. -/
@[simp] def advisory? : Stage → Option Advisory
  | .received a | .done (.ok a) => some a
  | .begun | .missed | .sent _ | .done (.error _) => none

end Stage

/-- The lookup is one of the vulnerability and may still get an answer from the server. -/
def Lookup.awaits (cve : String) (x : Lookup) : Bool := x.cve == cve && x.stage.awaits

/-- In the next event a lookup of the vulnerability finds nothing while another one is under way. -/
def overlapping (cve : String) (m : Scene Lookup Desk) : Event Move Host → Bool
  | .move i .check =>
    m.activities[i]?.any (·.cve == cve) && (m.shared.client.known.lookup cve).isNone &&
      m.activities.any fun x => x.cve == cve && x.stage.underWay
  | _ => false

/-- How many lookups of a vulnerability find nothing while another one is under way. -/
def overlaps (cve : String) : Scene Lookup Desk → List (Event Move Host) → Nat
  | _, [] => 0
  | m, e :: es => (overlapping cve m e).toNat + ((m.step rules e).map fun m => overlaps cve m es).getD 0

/-! ## One move -/

/-- `x` makes the move `m` to the stage `stage` and leaves `d'` of what is shared. -/
inductive Moves (x : Lookup) (d : Desk) : Move → Stage → Desk → Prop
  | found {a : Advisory} : x.stage = .begun → d.client.known.lookup x.cve = some a →
      Moves x d .check (.done (.ok a)) d
  | missed : x.stage = .begun → d.client.known.lookup x.cve = none → Moves x d .check .missed d
  | sent : x.stage = .missed →
      Moves x d .send (.sent (d.client.ask x.cve d.host).1) { d with host := (d.client.ask x.cve d.host).2 }
  | answered {nodes : List Node} : x.stage = .sent (.ok nodes) →
      Moves x d .receive (.received (firstAdvisory nodes))
        { d with answered := (x.cve, firstAdvisory nodes) :: d.answered }
  | failed {cause : Failure} : x.stage = .sent (.error cause) →
      Moves x d .receive (.done (.error (lookupFailure cause))) d
  | stored {a : Advisory} : x.stage = .received a →
      Moves x d .store (.done (.ok a))
        { d with client := { d.client with known := Keyed.insert x.cve a d.client.known } }

theorem moves_of_move {index : Nat} {x x' : Lookup} {d d' : Desk} {m : Move}
    (h : rules.move index x d m = some (x', d')) : ∃ stage, x' = { x with stage } ∧ Moves x d m stage d' := by
  simp only [rules, move] at h
  split at h
  · rename_i hstage
    split at h
    · rename_i hknown
      cases h
      exact ⟨_, rfl, .found hstage hknown⟩
    · rename_i hknown
      cases h
      exact ⟨_, rfl, .missed hstage hknown⟩
  · rename_i hstage
    cases h
    exact ⟨_, rfl, .sent hstage⟩
  · rename_i hstage
    cases h
    exact ⟨_, rfl, .answered hstage⟩
  · rename_i hstage
    cases h
    exact ⟨_, rfl, .failed hstage⟩
  · rename_i hstage
    cases h
    exact ⟨_, rfl, .stored hstage⟩
  · cases h

theorem rank_lt_of_move {index : Nat} {x x' : Lookup} {d d' : Desk} {m : Move}
    (h : rules.move index x d m = some (x', d')) : x.stage.rank < x'.stage.rank := by
  obtain ⟨stage, rfl, hmoves⟩ := moves_of_move h
  cases hmoves <;> simp [*]

/-- A lookup that is not through can move. -/
theorem exists_move (index : Nat) {x : Lookup} (d : Desk) (h : x.stage.rank ≠ 4) :
    ∃ m x' d', rules.move index x d m = some (x', d') := by
  obtain ⟨cve, stage⟩ := x
  cases stage with
  | begun =>
    cases hknown : d.client.known.lookup cve with
    | none => exact ⟨.check, _, _, by simp only [rules, move, hknown]; rfl⟩
    | some a => exact ⟨.check, _, _, by simp only [rules, move, hknown]; rfl⟩
  | missed => exact ⟨.send, _, _, rfl⟩
  | sent reply =>
    cases reply with
    | ok nodes => exact ⟨.receive, _, _, rfl⟩
    | error cause => exact ⟨.receive, _, _, rfl⟩
  | received a => exact ⟨.store, _, _, rfl⟩
  | done result => simp at h

/-! ## A lookup in a row -/

section

variable {c : Client} {cve : String}

theorem find_of_known {a : Advisory} (h : c.known.lookup cve = some a) (host : Host) :
    c.find cve host = ((.ok a, c), host) := by
  simp only [Client.find, h, pure_apply]

theorem find_of_failed (h : c.known.lookup cve = none) {host : Host} {cause : Failure}
    (hask : (c.ask cve host).1 = .error cause) :
    c.find cve host = ((.error (lookupFailure cause), c), (c.ask cve host).2) := by
  simp only [Client.find, h, bind_apply, hask, pure_apply]

theorem find_of_answered (h : c.known.lookup cve = none) {host : Host} {nodes : List Node}
    (hask : (c.ask cve host).1 = .ok nodes) :
    c.find cve host =
      ((.ok (firstAdvisory nodes), { c with known := Keyed.insert cve (firstAdvisory nodes) c.known }),
        (c.ask cve host).2) := by
  simp only [Client.find, h, bind_apply, hask, pure_apply]

end

variable {m m' : Scene Lookup Desk}

/-- **The moves of one lookup in a row** are what the client does to find an advisory. -/
theorem exec_in_a_row (d : Desk) (pre post : List Lookup) (cve : String) :
    ∃ es answered, Scene.exec rules ⟨d, pre ++ ⟨cve, .begun⟩ :: post⟩ es = some
      ⟨⟨(d.client.find cve d.host).1.2, (d.client.find cve d.host).2, answered⟩,
        pre ++ ⟨cve, .done (d.client.find cve d.host).1.1⟩ :: post⟩ := by
  cases hknown : d.client.known.lookup cve with
  | some a =>
    have hchecked : rules.move pre.length ⟨cve, .begun⟩ d .check = some (⟨cve, .done (.ok a)⟩, d) := by
      simp only [rules, move, hknown]
    refine ⟨[.move pre.length .check], d.answered, ?_⟩
    rw [find_of_known hknown, Scene.exec_of_move _ hchecked]
    rfl
  | none =>
    have hchecked : rules.move pre.length ⟨cve, .begun⟩ d .check = some (⟨cve, .missed⟩, d) := by
      simp only [rules, move, hknown]
    have hsent : ∀ reply, (d.client.ask cve d.host).1 = reply →
        rules.move pre.length ⟨cve, .missed⟩ d .send =
          some (⟨cve, .sent reply⟩, ⟨d.client, (d.client.ask cve d.host).2, d.answered⟩) := by
      rintro _ rfl
      rfl
    cases hask : (d.client.ask cve d.host).1 with
    | error cause =>
      refine ⟨[.move pre.length .check, .move pre.length .send, .move pre.length .receive], d.answered, ?_⟩
      rw [find_of_failed hknown hask, Scene.exec_of_move _ hchecked, Scene.exec_of_move _ (hsent _ hask),
        Scene.exec_of_move _ rfl]
      rfl
    | ok nodes =>
      refine ⟨[.move pre.length .check, .move pre.length .send, .move pre.length .receive,
        .move pre.length .store], (cve, firstAdvisory nodes) :: d.answered, ?_⟩
      rw [find_of_answered hknown hask, Scene.exec_of_move _ hchecked, Scene.exec_of_move _ (hsent _ hask),
        Scene.exec_of_move _ rfl, Scene.exec_of_move _ rfl]
      rfl

/-! ## Many moves -/

/-- **Every run can be ended.** -/
theorem exists_finish (m : Scene Lookup Desk) : ∃ es m', m.exec rules es = some m' ∧ Finished m' := by
  obtain ⟨es, m', hexec, hlast⟩ := Scene.exists_finish (r := rules) (s := m) (fun x => x.stage.rank) 4
    (fun x => by cases x.stage <;> simp) rank_lt_of_move (P := fun _ => True) (fun _ _ _ _ _ => trivial)
    (fun m _ ⟨x, hx, hrank⟩ => by
      obtain ⟨pre, post, hsplit⟩ := List.append_of_mem hx
      obtain ⟨mv, x', d, hmove⟩ := exists_move pre.length m.shared hrank
      exact ⟨pre.length, mv, _, Scene.step_of_move hsplit hmove⟩) trivial
  refine ⟨es, m', hexec, fun x hx => ?_⟩
  have hrank := hlast x hx
  cases hstage : x.stage with
  | done result => exact ⟨result, rfl⟩
  | _ => simp [hstage] at hrank

/-- Every advisory that is kept or told was an answer of the server. -/
structure Sound (m : Scene Lookup Desk) : Prop where
  known : ∀ cve a, m.shared.client.known.lookup cve = some a → (cve, a) ∈ m.shared.answered
  got : ∀ x ∈ m.activities, ∀ a, x.stage.advisory? = some a → (x.cve, a) ∈ m.shared.answered

theorem sound_begun (c : Client) (host : Host) (cves : List String) : Sound (begun c host cves) where
  known := nofun
  got x hx a ha := by
    obtain ⟨cve, -, rfl⟩ := List.mem_map.1 hx
    cases ha

/-- **One event** keeps and tells nothing else. -/
theorem Sound.step (h : Sound m) {e : Event Move Host} (hstep : m.step rules e = some m') : Sound m' := by
  cases e with
  | outside host =>
    cases hstep
    exact ⟨h.known, h.got⟩
  | move i mv =>
    obtain ⟨pre, ⟨cve, stage⟩, post, x', d, hsplit, -, hmove, rfl⟩ := Scene.step_move hstep
    obtain ⟨stage', rfl, hmoves⟩ := moves_of_move hmove
    obtain ⟨known, got⟩ := h
    rw [hsplit] at got
    cases hmoves with
    | found hstage hknown =>
      refine ⟨known, forall_mem_replace got fun a ha => ?_⟩
      cases ha
      exact known _ _ hknown
    | missed hstage hknown => exact ⟨known, forall_mem_replace got nofun⟩
    | sent hstage => exact ⟨known, forall_mem_replace got nofun⟩
    | answered hstage =>
      refine ⟨fun cve' a ha => .tail _ (known cve' a ha),
        forall_mem_replace (fun x hx a ha => .tail _ (got x hx a ha)) fun a ha => ?_⟩
      cases ha
      exact .head _
    | failed hstage => exact ⟨known, forall_mem_replace got nofun⟩
    | @stored a hstage =>
      cases hstage
      have hself : (cve, a) ∈ m.shared.answered :=
        got ⟨cve, .received a⟩ (by simp) a rfl
      refine ⟨fun cve' b hb => ?_, forall_mem_replace got fun b hb => ?_⟩
      · by_cases hcve : cve' = cve
        · rw [hcve, Keyed.lookup_insert_self] at hb
          cases hb
          exact hcve ▸ hself
        · rw [Keyed.lookup_insert_of_ne _ _ _ _ hcve] at hb
          exact known cve' b hb
      · cases hb
        exact hself

/-- The answers to a vulnerability are few: with those that may still come, at most one more than `k`. -/
structure Bounded (cve : String) (k : Nat) (m : Scene Lookup Desk) : Prop where
  few : (m.shared.answersTo cve).length + m.activities.countP (Lookup.awaits cve) ≤ 1 + k
  /-- An answer is kept, or it is about to be. -/
  kept : m.shared.answersTo cve ≠ [] → (m.shared.client.known.lookup cve).isSome = true ∨
    ∃ x ∈ m.activities, x.cve = cve ∧ ∃ a, x.stage = .received a

theorem bounded_begun (c : Client) (host : Host) (cves : List String) (cve : String) :
    Bounded cve 0 (begun c host cves) where
  few := by simp [begun, Desk.answersTo, Lookup.awaits, Function.comp_def]
  kept := by simp [begun, Desk.answersTo]

theorem answersTo_cons (d : Desk) (cve other : String) (a : Advisory) :
    Desk.answersTo { d with answered := (other, a) :: d.answered } cve =
      if other = cve then a :: d.answersTo cve else d.answersTo cve := by
  by_cases h : other = cve <;> simp [Desk.answersTo, h]

theorem overlapping_check {pre post : List Lookup} {cve : String} {stage : Stage}
    (hm : m.activities = pre ++ ⟨cve, stage⟩ :: post) (hknown : m.shared.client.known.lookup cve = none) :
    overlapping cve m (.move pre.length .check) =
      m.activities.any fun x => x.cve == cve && x.stage.underWay := by
  simp [overlapping, hm, hknown]

/-- A vulnerability without a kept answer and without a lookup under way has no answers, and none can come. -/
theorem Bounded.none_of_alone {cve : String} {k : Nat} (h : Bounded cve k m)
    (hknown : m.shared.client.known.lookup cve = none)
    (halone : ∀ x ∈ m.activities, x.cve = cve → x.stage.underWay = false) :
    m.shared.answersTo cve = [] ∧ m.activities.countP (Lookup.awaits cve) = 0 := by
  constructor
  · by_contra hsome
    rcases h.kept hsome with hkept | ⟨x, hx, hcve, a, hstage⟩
    · simp [hknown] at hkept
    · simpa [hstage] using halone x hx hcve
  · rw [List.countP_eq_zero]
    intro x hx hawaits
    obtain ⟨hcve, hawaits⟩ : x.cve = cve ∧ x.stage.awaits = true := by
      simpa [Lookup.awaits] using hawaits
    have hidle := halone x hx hcve
    cases hstage : x.stage <;> simp [hstage] at hawaits hidle

/-- **One event** adds at most one answer to those that can come, and it does so only if it is overlapping. -/
theorem Bounded.step {cve : String} {k : Nat} (h : Bounded cve k m) {e : Event Move Host}
    (hstep : m.step rules e = some m') : Bounded cve (k + (overlapping cve m e).toNat) m' := by
  cases e with
  | outside host =>
    cases hstep
    exact ⟨h.few, h.kept⟩
  | move i mv =>
    obtain ⟨pre, ⟨other, stage⟩, post, x', d, hsplit, rfl, hmove, rfl⟩ := Scene.step_move hstep
    obtain ⟨stage', rfl, hmoves⟩ := moves_of_move hmove
    have hcount := countP_replace (Lookup.awaits cve) pre post ⟨other, stage⟩ ⟨other, stage'⟩
    have few := h.few
    have kept := h.kept
    rw [hsplit] at few
    rw [hsplit, exists_mem_replace] at kept
    -- Unless the lookup that moves is the one that is about to keep an answer, another one is.
    have hothers : (∀ a, stage ≠ .received a) → m.shared.answersTo cve ≠ [] →
        (m.shared.client.known.lookup cve).isSome = true ∨
          ∃ x ∈ pre ++ ⟨other, stage'⟩ :: post, x.cve = cve ∧ ∃ a, x.stage = .received a := by
      intro hstage hsome
      rw [exists_mem_replace]
      rcases kept hsome with hknown | ⟨-, a, ha⟩ | hx
      · exact .inl hknown
      · exact absurd ha (hstage a)
      · exact .inr (.inr hx)
    cases hmoves with
    | found hstage hknown =>
      cases hstage
      simp only [Lookup.awaits, Stage.awaits, Bool.and_false, Bool.toNat_false] at hcount
      exact ⟨by dsimp only; omega, hothers nofun⟩
    | missed hstage hknown =>
      cases hstage
      refine ⟨?_, hothers nofun⟩
      by_cases hother : other = cve
      · subst hother
        have hover := overlapping_check hsplit hknown
        simp only [Lookup.awaits, Stage.awaits, BEq.rfl, Bool.and_false, Bool.and_true, Bool.toNat_false,
          Bool.toNat_true] at hcount
        cases hbusy : overlapping other m (.move pre.length .check) with
        | true =>
          simp only [Bool.toNat_true]
          omega
        | false =>
          obtain ⟨hnone, hidle⟩ := h.none_of_alone hknown fun x hx hcve => by
            simpa [hcve] using List.any_eq_false.1 (hover.symm.trans hbusy) x hx
          rw [hsplit] at hidle
          simp only [hnone, List.length_nil, Bool.toNat_false]
          omega
      · simp only [Lookup.awaits, beq_false_of_ne hother, Bool.false_and, Bool.toNat_false] at hcount
        dsimp only
        omega
    | sent hstage =>
      cases hstage
      simp only [Lookup.awaits, Stage.awaits, Bool.and_true] at hcount
      exact ⟨by simp only [Desk.answersTo] at few ⊢; omega, hothers nofun⟩
    | @answered nodes hstage =>
      cases hstage
      simp only [Lookup.awaits, Stage.awaits, Bool.and_false, Bool.and_true, Bool.toNat_false] at hcount
      refine ⟨?_, fun hsome => ?_⟩
      · rw [answersTo_cons]
        by_cases hother : other = cve
        · simp only [hother, BEq.rfl, Bool.toNat_true, if_true, List.length_cons] at hcount ⊢
          rw [hother] at few
          omega
        · simp only [beq_false_of_ne hother, Bool.toNat_false, hother, if_false] at hcount ⊢
          omega
      · by_cases hother : other = cve
        · exact .inr ⟨_, List.mem_append_right _ List.mem_cons_self, hother, _, rfl⟩
        · rw [answersTo_cons, if_neg hother] at hsome
          exact hothers nofun hsome
    | failed hstage =>
      cases hstage
      simp only [Lookup.awaits, Stage.awaits, Bool.and_false, Bool.and_true, Bool.toNat_false] at hcount
      exact ⟨by dsimp only; omega, hothers nofun⟩
    | @stored a hstage =>
      cases hstage
      simp only [Lookup.awaits, Stage.awaits, Bool.and_false, Bool.toNat_false] at hcount
      refine ⟨by simp only [Desk.answersTo] at few ⊢; omega, fun hsome => ?_⟩
      by_cases hother : other = cve
      · subst hother
        exact .inl (by rw [Keyed.lookup_insert_self, Option.isSome_some])
      · rw [exists_mem_replace, Keyed.lookup_insert_of_ne _ _ _ _ (Ne.symm hother)]
        rcases kept hsome with hknown | ⟨hself, -⟩ | hx
        · exact .inl hknown
        · exact absurd hself hother
        · exact .inr (.inr hx)

/-- **All events** do. -/
theorem Bounded.exec {cve : String} {k : Nat} (h : Bounded cve k m) {es : List (Event Move Host)}
    (hexec : m.exec rules es = some m') : Bounded cve (k + overlaps cve m es) m' := by
  induction es generalizing m k with
  | nil =>
    cases hexec
    exact h
  | cons e es ih =>
    obtain ⟨m₁, hstep, hrest⟩ := Option.bind_eq_some_iff.1 hexec
    have hk : k + overlaps cve m (e :: es) = k + (overlapping cve m e).toNat + overlaps cve m₁ es := by
      simp [overlaps, hstep, Nat.add_assoc]
    rw [hk]
    exact ih (h.step hstep) hrest

/-! ## The answers to a vulnerability -/

theorem mem_answersTo {d : Desk} {cve : String} {a : Advisory} :
    a ∈ d.answersTo cve ↔ (cve, a) ∈ d.answered := by
  simp [Desk.answersTo]

/-- All lookups of a vulnerability that has one answer at most tell the same if they succeed. -/
theorem agree_of_few {cve : String} (h : Sound m) (hfew : (m.shared.answersTo cve).length ≤ 1) :
    ∃ a, ∀ x ∈ m.activities, x.cve = cve → ∀ b, x.stage = .done (.ok b) → b = a := by
  have hmem : ∀ x ∈ m.activities, x.cve = cve → ∀ b, x.stage = .done (.ok b) → b ∈ m.shared.answersTo cve := by
    rintro x hx rfl b hb
    exact mem_answersTo.2 (h.got x hx b (by rw [hb, Stage.advisory?]))
  match hanswers : m.shared.answersTo cve with
  | [] => exact ⟨{}, fun x hx hcve b hb => by simpa [hanswers] using hmem x hx hcve b hb⟩
  | [a] => exact ⟨a, fun x hx hcve b hb => by simpa [hanswers] using hmem x hx hcve b hb⟩
  | _ :: _ :: _ => simp [hanswers] at hfew

/-- **Lookups that overlap.** In every order of the moves of the lookups of a run, whatever happens to the world
between them:
- a vulnerability gets at most one answer more than it has lookups that find nothing while another one is under way;
- what a lookup tells and what the client keeps is one of these answers, so that without such lookups all those
  of a vulnerability that succeed tell the same advisory;
- the run can be ended;
- a lookup that has not moved yet and makes its moves in a row does what the client does to find an advisory. -/
theorem answers_of_overlapping_lookups (c : Client) (host : Host) (cves : List String)
    {es : List (Event Move Host)} {m : Scene Lookup Desk} (h : (begun c host cves).exec rules es = some m) :
    (∀ cve, (m.shared.answersTo cve).length ≤ 1 + overlaps cve (begun c host cves) es) ∧
    (∀ x ∈ m.activities, ∀ a, x.stage = .done (.ok a) → a ∈ m.shared.answersTo x.cve) ∧
    (∀ cve a, m.shared.client.known.lookup cve = some a → a ∈ m.shared.answersTo cve) ∧
    (∀ cve, overlaps cve (begun c host cves) es = 0 →
      ∃ a, ∀ x ∈ m.activities, x.cve = cve → ∀ b, x.stage = .done (.ok b) → b = a) ∧
    (∃ es' m', m.exec rules es' = some m' ∧ Finished m') ∧
    ∀ pre post cve, m.activities = pre ++ ⟨cve, .begun⟩ :: post →
      ∃ es' answered, m.exec rules es' = some
        ⟨⟨(m.shared.client.find cve m.shared.host).1.2, (m.shared.client.find cve m.shared.host).2, answered⟩,
          pre ++ ⟨cve, .done (m.shared.client.find cve m.shared.host).1.1⟩ :: post⟩ := by
  have hsound : Sound m := Scene.exec_invariant (fun _ _ _ hm hstep => hm.step hstep) (sound_begun c host cves) h
  have hfew : ∀ cve, (m.shared.answersTo cve).length ≤ 1 + overlaps cve (begun c host cves) es := by
    intro cve
    have hbounded := ((bounded_begun c host cves cve).exec h).few
    omega
  refine ⟨hfew, fun x hx a ha => ?_, fun cve a ha => mem_answersTo.2 (hsound.known cve a ha), fun cve hnone => ?_,
    exists_finish m, fun pre post cve hm => ?_⟩
  · exact mem_answersTo.2 (hsound.got x hx a (by rw [ha, Stage.advisory?]))
  · exact agree_of_few hsound (by simpa [hnone] using hfew cve)
  · obtain ⟨d, activities⟩ := m
    obtain rfl : activities = pre ++ ⟨cve, .begun⟩ :: post := hm
    exact exec_in_a_row d pre post cve

/-- A world in which every query is answered with the advisory of an identifier. -/
def answering (ghsaId : String) : Host where
  now := default
  cache := none
  network _ :=
    .answered 200 ("\x7b\"data\":\x7b\"securityAdvisories\":\x7b\"nodes\":[\x7b\"ghsaId\":\"" ++ ghsaId ++
      "\"\x7d]\x7d\x7d\x7d") none

/-- Two lookups of a vulnerability, the second after the first, and between the moves of the first one those of a
lookup of another vulnerability. The advisories change in the end. -/
def oneByOne : List (Event Move Host) :=
  [.move 0 .check, .move 2 .check, .move 0 .send, .move 0 .receive, .move 0 .store,
    .outside (answering "GHSA-2"), .move 1 .check, .move 2 .send, .move 2 .receive, .move 2 .store]

theorem answers_of_lookups_one_by_one :
    ∃ m, (begun {} (answering "GHSA-1") ["CVE-2024-0001", "CVE-2024-0001", "CVE-2024-0002"]).exec rules oneByOne =
        some m ∧
      m.activities.map (·.stage.advisory?.map (·.ghsaId)) = [some "GHSA-1", some "GHSA-1", some "GHSA-2"] ∧
      (m.shared.answersTo "CVE-2024-0001").length ≤ 1 ∧
      ∃ a, ∀ x ∈ m.activities, x.cve = "CVE-2024-0001" → ∀ b, x.stage = .done (.ok b) → b = a := by
  have hthrough : ((begun {} (answering "GHSA-1") ["CVE-2024-0001", "CVE-2024-0001", "CVE-2024-0002"]).exec rules
      oneByOne).map (fun m => m.activities.map (·.stage.advisory?.map (·.ghsaId))) =
        some [some "GHSA-1", some "GHSA-1", some "GHSA-2"] := by decide +kernel
  have hapart : overlaps "CVE-2024-0001" (begun {} (answering "GHSA-1")
      ["CVE-2024-0001", "CVE-2024-0001", "CVE-2024-0002"]) oneByOne = 0 := by decide +kernel
  obtain ⟨m, hexec, htold⟩ := Option.map_eq_some_iff.1 hthrough
  obtain ⟨hfew, -, -, hagree, -⟩ := answers_of_overlapping_lookups {} (answering "GHSA-1") _ hexec
  exact ⟨m, hexec, htold, by simpa [hapart] using hfew "CVE-2024-0001", hagree _ hapart⟩

/-- The second lookup finds nothing before the first one has kept its answer, and the advisories change in
between. -/
def crossing : List (Event Move Host) :=
  [.move 0 .check, .move 1 .check, .move 0 .send, .move 0 .receive, .move 0 .store,
    .outside (answering "GHSA-2"), .move 1 .send, .move 1 .receive, .move 1 .store]

/-- **Two lookups of one vulnerability in one run that overlap**: both queries are answered, the lookups tell
different advisories, and the later answer replaces the one that was kept. -/
theorem lookups_tell_two_advisories :
    ((begun {} (answering "GHSA-1") ["CVE-2024-0001", "CVE-2024-0001"]).exec rules crossing).map (fun m =>
        (m.activities.map (·.stage.advisory?.map (·.ghsaId)), (m.shared.answersTo "CVE-2024-0001").map (·.ghsaId),
          (m.shared.client.known.lookup "CVE-2024-0001").map (·.ghsaId))) =
      some ([some "GHSA-1", some "GHSA-2"], ["GHSA-2", "GHSA-1"], some "GHSA-2") := by
  decide +kernel

end Triage.Advisories
