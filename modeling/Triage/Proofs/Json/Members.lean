import Triage.Proofs.Json.Printing

/-!
# Members with their text

Reading an object one level deep gives each member with the text of its value. Every such text spells a
document (`spells_of_rawMembers`), and for a text that holds an object these are the values of its members
(`rawMembers_of_parse`).
-/
namespace Triage.Json

/-- A name and a text that tell a member: the name as it reads, and a spelling of the value. -/
def Tells (m : String × Json) (raw : String × String) : Prop :=
  raw.1 = unescape m.1 ∧ Spells (maxDepth - 1) (.value m.2) raw.2.toList

theorem rawValue_of_spells {j : Json} {gap cs rest : List Char} (hgap : Blank gap)
    (h : Spells (maxDepth - 1) (.value j) cs) (hrest : Ends rest) :
    rawValue (gap ++ (cs ++ rest)) = some (cs, rest) := by
  have hskip : skipSpace (gap ++ (cs ++ rest)) = cs ++ rest := by
    obtain ⟨c, tail, rfl, hc⟩ := h.head
    rw [List.cons_append, hgap.skipSpace_cons hc.1]
  have hread : Reads (2 * (cs ++ rest).length + 2) (maxDepth - 1) (.value j) (cs ++ rest) rest :=
    reads_of_spells h (by rw [List.length_append]; omega) hrest
  have hvalue : readValue (2 * (cs ++ rest).length + 2) (maxDepth - 1) (cs ++ rest) = some (j, rest) := hread
  simp only [rawValue, hskip, hvalue, Option.map_some, Option.some.injEq, Prod.mk.injEq, and_true]
  rw [List.length_append, Nat.add_sub_cancel, List.take_left]

theorem spells_of_rawValue {cs raw rest : List Char} (h : rawValue cs = some (raw, rest)) :
    ∃ j, Spells (maxDepth - 1) (.value j) raw := by
  obtain ⟨⟨j, tail⟩, hread, heq⟩ := Option.map_eq_some_iff.1 h
  cases heq
  obtain ⟨text, htext, hspells⟩ := readsOnlySpellings _ _ (.value j) _ _ hread
  rw [skipSpace_skipSpace] at htext
  rw [htext, List.length_append, Nat.add_sub_cancel, List.take_left]
  exact ⟨j, hspells⟩

theorem rawMembersFrom_blank {ws : List Char} (h : Blank ws) (fuel : Nat) (cs : List Char) :
    rawMembersFrom fuel (ws ++ cs) = rawMembersFrom fuel cs := by
  cases fuel with
  | zero => rfl
  | succ fuel => rw [rawMembersFrom, rawMembersFrom, readName_blank h]

/-- The members of an object are read with texts that tell them. -/
theorem rawMembersFrom_of_spells {ms : List (String × Json)} {cs : List Char}
    (h : Spells (maxDepth - 1) (.members ms) cs) {fuel : Nat} (hfuel : cs.length ≤ fuel)
    (rest : List Char) :
    ∃ raws, rawMembersFrom fuel (cs ++ rest) = some (raws, rest) ∧ List.Forall₂ Tells ms raws := by
  induction ms generalizing cs fuel with
  | nil => nomatch h
  | cons m ms ih =>
    have hpos : 0 < cs.length := by
      obtain ⟨c, tail, rfl, -⟩ := h.head
      exact Nat.succ_pos _
    obtain ⟨fuel, rfl⟩ : ∃ f, fuel = f + 1 := Nat.exists_eq_add_one.2 (Nat.lt_of_lt_of_le hpos hfuel)
    cases h with
    | @lastMember _ name j label gap text ws hlabel hgap hvalue hws =>
      have hraw := rawValue_of_spells hgap hvalue (hws.ends (ends_cons (by decide : '}' = ',' ∨ _) rest))
      refine ⟨[(unescape name, String.ofList text)], ?_, .cons ⟨rfl, by simpa using hvalue⟩ .nil⟩
      simp only [rawMembersFrom, List.append_assoc, List.cons_append, List.nil_append, bind,
        readName_of_isLabel hlabel, Option.bind_some, hraw, hws.skipSpace_cons (by decide : isSpace '}' = false)]
    | @member _ name j ms label gap text ws ws' cs' hlabel hgap hvalue hws hws' hs =>
      have hraw := rawValue_of_spells hgap hvalue
        (hws.ends (ends_cons (by decide : ',' = ',' ∨ _) (ws' ++ (cs' ++ rest))))
      have hlength : cs'.length ≤ fuel := by simp at hfuel; omega
      obtain ⟨raws, hraws, htell⟩ := ih hs hlength
      refine ⟨(unescape name, String.ofList text) :: raws, ?_, .cons ⟨rfl, by simpa using hvalue⟩ htell⟩
      simp only [rawMembersFrom, List.append_assoc, List.cons_append, bind,
        readName_of_isLabel hlabel, Option.bind_some, hraw,
        hws.skipSpace_cons (by decide : isSpace ',' = false), rawMembersFrom_blank hws', hraws, Option.map_some]

theorem Spells.of_object {d : Nat} {ms : List (String × Json)} {cs : List Char}
    (h : Spells d (.value (.object ms)) cs) :
    (ms = [] ∧ ∃ ws, Blank ws ∧ cs = '{' :: (ws ++ ['}'])) ∨
      ∃ ws cs', Blank ws ∧ Spells (d - 1) (.members ms) cs' ∧ cs = '{' :: (ws ++ cs') := by
  cases h with
  | scalar h => nomatch h
  | emptyObject hws => exact .inl ⟨rfl, _, hws, rfl⟩
  | object hws h => exact .inr ⟨_, _, hws, h, rfl⟩

/-- **An object's members** are read with texts that tell them. -/
theorem rawMembers_of_parse {s : String} {ms : List (String × Json)} (h : parse s = some (.object ms)) :
    ∃ raws, rawMembers s = some raws ∧ List.Forall₂ Tells ms raws := by
  obtain ⟨ws, text, ws', hws, hws', hspells, heq⟩ := parse_eq_some_iff.1 h
  have hblank : (skipSpace ws').isEmpty = true := List.isEmpty_iff.2 (skipSpace_eq_nil_iff.2 hws')
  rcases hspells.of_object with ⟨rfl, inner, hinner, rfl⟩ | ⟨inner, cs, hinner, hmembers, rfl⟩
  · refine ⟨[], ?_, .nil⟩
    simp only [rawMembers, heq, List.cons_append, hws.skipSpace_cons (by decide : isSpace '{' = false),
      List.append_assoc, List.nil_append, hinner.skipSpace_cons (by decide : isSpace '}' = false), hblank,
      if_true]
  · have hlength : cs.length ≤ (cs ++ ws').length + 1 := by rw [List.length_append]; omega
    obtain ⟨raws, hraws, htell⟩ := rawMembersFrom_of_spells hmembers hlength ws'
    obtain ⟨c, tail, rfl, hc⟩ := hmembers.head
    refine ⟨raws, ?_, htell⟩
    rw [List.cons_append] at hraws
    simp only [rawMembers, heq, List.cons_append, hws.skipSpace_cons (by decide : isSpace '{' = false),
      List.append_assoc, hinner.skipSpace_cons hc.1]
    split
    · rename_i hclose
      exact absurd (List.cons.inj hclose).1 hc.2.2
    · rw [hraws]
      simp only [Option.bind_some, hblank, if_true]

/-- A text that has members holds an object, if it holds a document at all. -/
theorem isObject_of_rawMembers {s : String} {raws : List (String × String)} (hraws : rawMembers s = some raws)
    {j : Json} (hparse : parse s = some j) : ∃ ms, j = .object ms := by
  obtain ⟨ws, text, ws', hws, -, hspells, heq⟩ := parse_eq_some_iff.1 hparse
  obtain ⟨c, tail, rfl, hc⟩ := hspells.head
  have hbrace : c = '{' := by
    unfold rawMembers at hraws
    rw [heq, List.cons_append, hws.skipSpace_cons hc.1] at hraws
    split at hraws
    · rename_i hcons
      exact (List.cons.inj hcons).1
    · cases hraws
  subst hbrace
  cases hspells with
  | scalar h =>
    obtain ⟨c, tail, hcons, -, -, hne⟩ := h.head
    exact absurd (List.cons.inj hcons).1.symm hne
  | emptyObject => exact ⟨[], rfl⟩
  | @object _ ms => exact ⟨ms, rfl⟩

/-- **Every text of a member** spells a document. -/
theorem spells_of_rawMembers {s : String} {raws : List (String × String)} (h : rawMembers s = some raws) :
    ∀ raw ∈ raws, ∃ j, Spells (maxDepth - 1) (.value j) raw.2.toList := by
  have hfrom (fuel : Nat) : ∀ {cs rest : List Char} {raws : List (String × String)},
      rawMembersFrom fuel cs = some (raws, rest) →
        ∀ raw ∈ raws, ∃ j, Spells (maxDepth - 1) (.value j) raw.2.toList := by
    induction fuel with
    | zero => intro _ _ _ h; cases h
    | succ fuel ih =>
      intro cs rest raws h
      simp only [rawMembersFrom, bind, Option.bind_eq_some_iff, Prod.exists] at h
      obtain ⟨name, afterName, -, text, after, hvalue, h⟩ := h
      have hspells := spells_of_rawValue hvalue
      split at h
      · cases h
        simpa using hspells
      · obtain ⟨⟨others, tail⟩, hothers, heq⟩ := Option.map_eq_some_iff.1 h
        cases heq
        intro raw hraw
        rcases List.mem_cons.1 hraw with rfl | hraw
        · simpa using hspells
        · exact ih hothers raw hraw
      · cases h
  unfold rawMembers at h
  split at h
  · split at h
    · obtain ⟨-, heq⟩ := Option.ite_none_right_eq_some.1 h
      cases heq
      simp
    · obtain ⟨⟨members, rest⟩, hmembers, h⟩ := Option.bind_eq_some_iff.1 h
      obtain ⟨-, heq⟩ := Option.ite_none_right_eq_some.1 h
      cases heq
      exact hfrom _ hmembers
  · cases h

end Triage.Json
