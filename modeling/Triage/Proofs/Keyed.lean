import Mathlib.Data.List.Forall2
import Mathlib.Data.List.Nodup
import Mathlib.Data.String.Basic
import Triage.Listing

/-!
# Maps built from lists of pairs

What a map holds after many pairs were put into it: the values of the pairs at their keys, and what it
held before at all others. Keys stay in their order (`sorted_insert`), and a list of pairs that is in
order is a map as it stands (`ofList_of_sorted`). Values for different keys can be put in any order
(`insertAll_of_perm`), and putting them all a second time changes nothing (`insertAll_insertAll`).
-/
namespace Triage.Keyed

variable {α : Type}

/-- Puts all pairs into a map, one after the other. -/
def insertAll (pairs : List (String × α)) (m : List (String × α)) : List (String × α) :=
  pairs.foldl (fun m (k, v) => insert k v m) m

/-- **After many pairs were put into a map**, it holds their values at their keys and what it held
before at all others. -/
theorem lookup_insertAll {pairs : List (String × α)} (h : (pairs.map (·.1)).Nodup)
    (m : List (String × α)) (key : String) :
    (insertAll pairs m).lookup key = (pairs.lookup key).or (m.lookup key) := by
  induction pairs generalizing m with
  | nil => rfl
  | cons kv pairs ih =>
    obtain ⟨k, v⟩ := kv
    obtain ⟨hk, hnodup⟩ := List.nodup_cons.1 h
    have hinsert : (insertAll ((k, v) :: pairs) m).lookup key =
        (pairs.lookup key).or ((insert k v m).lookup key) := ih hnodup _
    rw [hinsert, List.lookup_cons]
    by_cases hkey : key = k
    · subst hkey
      have hnone : pairs.lookup key = none := by
        refine List.lookup_eq_none_iff.2 fun p hp => ?_
        exact bne_iff_ne.2 fun heq => hk (List.mem_map.2 ⟨p, hp, heq.symm⟩)
      simp [hnone, lookup_insert_self]
    · simp [beq_false_of_ne hkey, lookup_insert_of_ne k key v m hkey]

theorem lookup_ofList {pairs : List (String × α)} (h : (pairs.map (·.1)).Nodup) (key : String) :
    (ofList pairs).lookup key = pairs.lookup key :=
  (lookup_insertAll h [] key).trans (Option.or_none ..)

theorem lookup_map_self (g : String → α) {names : List String} {name : String}
    (h : name ∈ names) : (names.map fun n => (n, g n)).lookup name = some (g name) := by
  induction names with
  | nil => cases h
  | cons n names ih =>
    rw [List.map_cons, List.lookup_cons]
    by_cases hn : name = n
    · simp [hn]
    · simp only [beq_false_of_ne hn]
      exact ih ((List.mem_cons.1 h).resolve_left hn)

/-! ## Maps that agree key by key -/

section Forall₂

variable {β : Type} {R : α → β → Prop} {m : List (String × α)} {m' : List (String × β)}

theorem keys_eq_of_forall₂ (h : List.Forall₂ (fun kv kv' => kv'.1 = kv.1 ∧ R kv.2 kv'.2) m m') :
    m'.map (·.1) = m.map (·.1) := by
  induction h with
  | nil => rfl
  | cons hkv _ ih => rw [List.map_cons, List.map_cons, hkv.1, ih]

theorem rel_lookup (h : List.Forall₂ (fun kv kv' => kv'.1 = kv.1 ∧ R kv.2 kv'.2) m m') (key : String) :
    Option.Rel R (m.lookup key) (m'.lookup key) := by
  induction h with
  | nil => exact .none
  | @cons kv kv' m m' hkv _ ih =>
    obtain ⟨k, v⟩ := kv
    obtain ⟨k', v'⟩ := kv'
    obtain ⟨hkey, hvalue⟩ := hkv
    dsimp only at hkey hvalue
    subst hkey
    rw [List.lookup_cons, List.lookup_cons]
    cases key == k' with
    | true => exact .some hvalue
    | false => exact ih

end Forall₂

/-! ## The order of the keys -/

/-- The keys are in ascending order, each of them once. -/
def Sorted (m : List (String × α)) : Prop := m.Pairwise fun a b => a.1 < b.1

theorem eq_or_mem_of_mem_insert {key : String} {value : α} {m : List (String × α)} {kv : String × α}
    (h : kv ∈ insert key value m) : kv = (key, value) ∨ kv ∈ m := by
  induction m with
  | nil => exact .inl (List.mem_singleton.1 h)
  | cons kv' rest ih =>
    unfold insert at h
    split at h
    · rcases List.mem_cons.1 h with h | h
      · exact .inl h
      · exact .inr (List.mem_cons_of_mem _ h)
    · split at h
      · exact List.mem_cons.1 h
      · rcases List.mem_cons.1 h with h | h
        · exact .inr (h ▸ List.mem_cons_self)
        · exact (ih h).imp_right (List.mem_cons_of_mem _)

theorem sorted_insert {m : List (String × α)} (h : Sorted m) (key : String) (value : α) :
    Sorted (insert key value m) := by
  induction m with
  | nil => exact List.pairwise_singleton _ _
  | cons kv rest ih =>
    obtain ⟨k, v⟩ := kv
    obtain ⟨hk, hrest⟩ := List.pairwise_cons.1 h
    unfold insert
    split
    · rename_i heq
      subst heq
      exact List.pairwise_cons.2 ⟨hk, hrest⟩
    · rename_i hne
      split
      · rename_i hlt
        refine List.pairwise_cons.2 ⟨fun kv hkv => ?_, h⟩
        rcases List.mem_cons.1 hkv with rfl | hkv
        · exact hlt
        · exact lt_trans hlt (hk kv hkv)
      · rename_i hnlt
        refine List.pairwise_cons.2 ⟨fun kv hkv => ?_, ih hrest⟩
        rcases eq_or_mem_of_mem_insert hkv with rfl | hkv
        · exact lt_of_le_of_ne (not_lt.1 hnlt) (Ne.symm hne)
        · exact hk kv hkv

theorem sorted_insertAll (pairs : List (String × α)) {m : List (String × α)} (h : Sorted m) :
    Sorted (insertAll pairs m) := by
  induction pairs generalizing m with
  | nil => exact h
  | cons kv pairs ih => exact ih (sorted_insert h kv.1 kv.2)

theorem sorted_ofList (pairs : List (String × α)) : Sorted (ofList pairs) :=
  sorted_insertAll pairs List.Pairwise.nil

theorem mem_or_mem_of_mem_insertAll {pairs m : List (String × α)} {kv : String × α}
    (h : kv ∈ insertAll pairs m) : kv ∈ m ∨ kv ∈ pairs := by
  induction pairs generalizing m with
  | nil => exact .inl h
  | cons kv' pairs ih =>
    rcases ih h with hkv | hkv
    · rcases eq_or_mem_of_mem_insert hkv with hkv | hkv
      · exact .inr (hkv ▸ List.mem_cons_self)
      · exact .inl hkv
    · exact .inr (List.mem_cons_of_mem _ hkv)

theorem mem_of_mem_ofList {pairs : List (String × α)} {kv : String × α} (h : kv ∈ ofList pairs) :
    kv ∈ pairs :=
  (mem_or_mem_of_mem_insertAll h).resolve_left List.not_mem_nil

/-- A key above all others is put last. -/
theorem insert_of_forall_lt {m : List (String × α)} {key : String} (h : ∀ kv ∈ m, kv.1 < key) (value : α) :
    insert key value m = m ++ [(key, value)] := by
  induction m with
  | nil => rfl
  | cons kv rest ih =>
    obtain ⟨k, v⟩ := kv
    have hlt : k < key := h (k, v) List.mem_cons_self
    rw [insert, if_neg (ne_of_gt hlt), if_neg (not_lt_of_gt hlt),
      ih fun kv hkv => h kv (List.mem_cons_of_mem _ hkv), List.cons_append]

theorem insertAll_of_sorted {m pairs : List (String × α)} (h : Sorted (m ++ pairs)) :
    insertAll pairs m = m ++ pairs := by
  induction pairs generalizing m with
  | nil => exact (List.append_nil m).symm
  | cons kv pairs ih =>
    obtain ⟨k, v⟩ := kv
    have hlt : ∀ x ∈ m, x.1 < k := fun x hx =>
      (List.pairwise_append.1 h).2.2 x hx (k, v) List.mem_cons_self
    have hstep : insertAll ((k, v) :: pairs) m = insertAll pairs (insert k v m) := rfl
    have hsplit : m ++ (k, v) :: pairs = m ++ [(k, v)] ++ pairs := by simp
    rw [hsplit] at h ⊢
    rw [hstep, insert_of_forall_lt hlt, ih h]

/-- **Pairs in the order of their keys** are a map as they stand. -/
theorem ofList_of_sorted {pairs : List (String × α)} (h : Sorted pairs) : ofList pairs = pairs :=
  insertAll_of_sorted (m := []) h

/-! ## Putting a value a second time -/

theorem insert_insert_self (key : String) (value : α) (m : List (String × α)) :
    insert key value (insert key value m) = insert key value m := by
  induction m with
  | nil => simp [insert]
  | cons kv rest ih =>
    obtain ⟨k, v⟩ := kv
    simp only [insert]
    split
    · simp [insert]
    · split
      · simp [insert]
      · rename_i hne hlt
        simp [insert, hne, hlt, ih]

/-! ## The order in which values are put -/

theorem insert_comm {key other : String} (hne : key ≠ other) (value new : α) (m : List (String × α)) :
    insert key value (insert other new m) = insert other new (insert key value m) := by
  have hcases := lt_or_gt_of_ne hne
  induction m with
  | nil =>
    rcases hcases with hlt | hgt
    · simp [insert, hne, hne.symm, hlt, not_lt_of_gt hlt]
    · simp [insert, hne, hne.symm, hgt, not_lt_of_gt hgt]
  | cons kv rest ih =>
    obtain ⟨k, v⟩ := kv
    grind [insert]

/-- **Values for different keys can be put in any order.** -/
theorem insertAll_of_perm {pairs pairs' : List (String × α)} (hperm : pairs.Perm pairs')
    (hnodup : (pairs.map (·.1)).Nodup) (m : List (String × α)) :
    insertAll pairs m = insertAll pairs' m := by
  refine hperm.foldl_eq' (fun x hx y hy m => ?_) m
  by_cases hkey : x.1 = y.1
  · rw [List.inj_on_of_nodup_map hnodup hx hy hkey]
  · exact insert_comm (Ne.symm hkey) _ _ _

theorem ofList_of_perm {pairs pairs' : List (String × α)} (hperm : pairs.Perm pairs')
    (hnodup : (pairs.map (·.1)).Nodup) : ofList pairs = ofList pairs' :=
  insertAll_of_perm hperm hnodup []

/-- **Putting the same values a second time changes nothing.** -/
theorem insertAll_insertAll {pairs : List (String × α)} (hnodup : (pairs.map (·.1)).Nodup)
    (m : List (String × α)) : insertAll pairs (insertAll pairs m) = insertAll pairs m := by
  induction pairs generalizing m with
  | nil => rfl
  | cons kv pairs ih =>
    obtain ⟨k, v⟩ := kv
    -- The first value may as well be put last.
    have hlast (m : List (String × α)) : insert k v (insertAll pairs m) = insertAll pairs (insert k v m) := by
      have happend : insertAll (pairs ++ [(k, v)]) m = insert k v (insertAll pairs m) := by
        rw [insertAll, List.foldl_append]
        rfl
      rw [← happend]
      exact (insertAll_of_perm (List.perm_append_singleton _ _).symm hnodup m).symm
    calc insertAll ((k, v) :: pairs) (insertAll ((k, v) :: pairs) m)
        = insertAll pairs (insert k v (insertAll pairs (insert k v m))) := rfl
      _ = insertAll pairs (insertAll pairs (insert k v (insert k v m))) := by rw [hlast]
      _ = insertAll pairs (insertAll pairs (insert k v m)) := by rw [insert_insert_self]
      _ = insertAll ((k, v) :: pairs) m := ih (List.nodup_cons.1 hnodup).2 _

end Triage.Keyed
