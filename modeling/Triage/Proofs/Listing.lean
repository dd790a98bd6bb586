import Mathlib.Data.List.Induction
import Mathlib.Data.List.Nodup
import Triage.Listing

/-!
# Distinct items and portions

The distinct items of a list are its items, each of them once and in the order in which they first occur. Items that
are sorted keep the order in which they came where the sort leaves it open. The portions of a list put together again
are the list, and all of them but the last are full. If something is made of every item, it is made of all of them.
-/
namespace Triage.Listing

variable {α : Type} [BEq α] [LawfulBEq α]

/-- The items of `xs`, each of them once, in the order of their first occurrence. -/
structure ListsOnce (xs ys : List α) : Prop where
  nodup : ys.Nodup
  mem_iff : ∀ y, y ∈ ys ↔ y ∈ xs
  order : ys.Pairwise fun a b => xs.idxOf a < xs.idxOf b

/-- One more item is new and comes last, or it is there already. -/
theorem ListsOnce.addNew {xs ys : List α} (h : ListsOnce xs ys) (x : α) :
    ListsOnce (xs ++ [x]) (addNew ys x) := by
  have hsame {a : α} (ha : a ∈ ys) : (xs ++ [x]).idxOf a = xs.idxOf a :=
    List.idxOf_append_of_mem ((h.mem_iff a).1 ha)
  have hbefore : ys.Pairwise fun a b => (xs ++ [x]).idxOf a < (xs ++ [x]).idxOf b :=
    h.order.imp_of_mem fun ha hb hlt => by rwa [hsame ha, hsame hb]
  unfold Listing.addNew
  split
  · rename_i hx
    have hx : x ∈ ys := List.contains_iff_mem.1 hx
    refine ⟨h.nodup, fun y => ?_, hbefore⟩
    rw [List.mem_append, List.mem_singleton, ← h.mem_iff]
    exact ⟨.inl, fun hy => hy.elim id fun hy => hy ▸ hx⟩
  · rename_i hx
    have hx : x ∉ ys := fun hmem => hx (List.contains_iff_mem.2 hmem)
    refine ⟨List.concat_eq_append ▸ List.Nodup.concat hx h.nodup, fun y => ?_, ?_⟩
    · rw [List.mem_append, List.mem_append, h.mem_iff]
    · refine List.pairwise_append.2 ⟨hbefore, List.pairwise_singleton _ _, fun a ha b hb => ?_⟩
      have hnew : x ∉ xs := fun hmem => hx ((h.mem_iff x).2 hmem)
      rw [List.mem_singleton.1 hb, hsame ha, List.idxOf_append_of_notMem hnew]
      exact Nat.lt_add_right _ (List.idxOf_lt_length_of_mem ((h.mem_iff a).1 ha))

omit [LawfulBEq α] in
theorem listsOnce_nil : ListsOnce ([] : List α) [] := ⟨List.nodup_nil, fun _ => Iff.rfl, .nil⟩

theorem listsOnce_distinct (xs : List α) : ListsOnce xs (distinct xs) := by
  induction xs using List.reverseRecOn with
  | nil => exact listsOnce_nil
  | append_singleton xs x ih =>
    have hstep : distinct (xs ++ [x]) = addNew (distinct xs) x := by simp [distinct]
    rw [hstep]
    exact ih.addNew x

theorem nodup_distinct (xs : List α) : (distinct xs).Nodup := (listsOnce_distinct xs).nodup

theorem mem_distinct {xs : List α} {y : α} : y ∈ distinct xs ↔ y ∈ xs := (listsOnce_distinct xs).mem_iff y

/-- The items come in the order of their first occurrence. -/
theorem pairwise_distinct (xs : List α) : (distinct xs).Pairwise fun a b => xs.idxOf a < xs.idxOf b :=
  (listsOnce_distinct xs).order

/-- Of the items that pass a test, one that comes first among them comes first among all. -/
theorem idxOf_lt_of_filter {p : α → Bool} {xs : List α} {a b : α} (ha : p a = true) (hb : p b = true)
    (h : (xs.filter p).idxOf a < (xs.filter p).idxOf b) : xs.idxOf a < xs.idxOf b := by
  induction xs with
  | nil => simp at h
  | cons x xs ih =>
    by_cases hx : p x = true
    · rw [List.filter_cons_of_pos hx] at h
      by_cases hxb : x = b
      · rw [hxb, List.idxOf_cons_self] at h
        exact absurd h (Nat.not_lt_zero _)
      · by_cases hxa : x = a
        · rw [hxa, List.idxOf_cons_self, List.idxOf_cons_ne _ (hxa ▸ hxb)]
          exact Nat.succ_pos _
        · rw [List.idxOf_cons_ne _ hxa, List.idxOf_cons_ne _ hxb] at h ⊢
          exact Nat.succ_lt_succ (ih (Nat.lt_of_succ_lt_succ h))
    · rw [List.filter_cons_of_neg hx] at h
      have hxa : x ≠ a := fun heq => hx (heq ▸ ha)
      have hxb : x ≠ b := fun heq => hx (heq ▸ hb)
      rw [List.idxOf_cons_ne _ hxa, List.idxOf_cons_ne _ hxb]
      exact Nat.succ_lt_succ (ih h)

omit [BEq α] [LawfulBEq α] in
/-- Only how the items of the list compare matters to a sort. -/
theorem mergeSort_congr {le le' : α → α → Bool} {xs : List α} (h : ∀ a ∈ xs, ∀ b ∈ xs, le a b = le' a b) :
    xs.mergeSort le = xs.mergeSort le' := by
  have hid := List.map_mergeSort (f := id) h
  rwa [List.map_id, List.map_id] at hid

omit [BEq α] [LawfulBEq α] in
/-- **Sorting is stable**: of two items that may stand in either order, the one that was first stays first. -/
theorem pairwise_mergeSort_of_pairwise {le : α → α → Bool} (trans : ∀ a b c, le a b → le b c → le a c)
    (total : ∀ a b, (le a b || le b a) = true) {R : α → α → Prop} {xs : List α} (h : xs.Pairwise R) :
    (xs.mergeSort le).Pairwise fun a b => le a b = true ∧ (le b a = true → R a b) := by
  induction xs with
  | nil => simp
  | cons a xs ih =>
    obtain ⟨ha, hxs⟩ := List.pairwise_cons.1 h
    obtain ⟨before, after, hsorted, hrest, hbefore⟩ := List.mergeSort_cons trans total a xs
    have hle := List.pairwise_mergeSort trans total (a :: xs)
    have hstable := ih hxs
    rw [hsorted] at hle ⊢
    rw [hrest] at hstable
    rw [List.pairwise_append, List.pairwise_cons] at hle ⊢
    obtain ⟨hfront, hback, hacross⟩ := List.pairwise_append.1 hstable
    refine ⟨hfront, ⟨fun b hb => ⟨hle.2.1.1 b hb, fun _ => ha b ?_⟩, hback⟩, fun b hb c hc => ?_⟩
    · have hmem : b ∈ xs.mergeSort le := by rw [hrest]; exact List.mem_append_right _ hb
      exact List.mem_mergeSort.1 hmem
    · obtain rfl | hc := List.mem_cons.1 hc
      · have hnot : le c b = false := by simpa using hbefore b hb
        refine ⟨hle.2.2 b hb c List.mem_cons_self, fun hcb => ?_⟩
        rw [hnot] at hcb
        cases hcb
      · exact hacross b hb c hc

omit [BEq α] [LawfulBEq α] in
theorem flatten_portions (extra : Nat) (xs : List α) : (portions extra xs).flatten = xs := by
  fun_induction portions extra xs with
  | case1 => rfl
  | case2 x rest ih => rw [List.flatten_cons, ih, List.cons_append, List.take_append_drop]

omit [BEq α] [LawfulBEq α] in
theorem ne_nil_of_mem_portions {extra : Nat} {xs portion : List α} (h : portion ∈ portions extra xs) :
    portion ≠ [] := by
  fun_induction portions extra xs with
  | case1 => cases h
  | case2 x rest ih =>
    rcases List.mem_cons.1 h with rfl | h
    · exact List.cons_ne_nil _ _
    · exact ih h

omit [BEq α] [LawfulBEq α] in
theorem length_le_of_mem_portions {extra : Nat} {xs portion : List α} (h : portion ∈ portions extra xs) :
    portion.length ≤ extra + 1 := by
  fun_induction portions extra xs with
  | case1 => cases h
  | case2 x rest ih =>
    rcases List.mem_cons.1 h with rfl | h
    · rw [List.length_cons]
      exact Nat.succ_le_succ (List.length_take_le _ _)
    · exact ih h

omit [BEq α] [LawfulBEq α] in
theorem portions_eq_nil_iff {extra : Nat} {xs : List α} : portions extra xs = [] ↔ xs = [] := by
  cases xs <;> simp [portions]

omit [BEq α] [LawfulBEq α] in
/-- **All portions but the last are full.** -/
theorem length_portions (extra : Nat) (xs : List α) :
    (∀ portion ∈ (portions extra xs).dropLast, portion.length = extra + 1) ∧
      ∀ portion ∈ (portions extra xs).getLast?, 1 ≤ portion.length ∧ portion.length ≤ extra + 1 := by
  fun_induction portions extra xs with
  | case1 => exact ⟨fun _ h => (nomatch h), fun _ h => (nomatch h)⟩
  | case2 x rest ih =>
    by_cases hrest : portions extra (rest.drop extra) = []
    · rw [hrest]
      refine ⟨fun _ h => (nomatch h), fun portion hportion => ?_⟩
      obtain rfl : x :: rest.take extra = portion := Option.some.inj hportion
      have hshort : (rest.take extra).length ≤ extra := List.length_take_le extra rest
      exact ⟨Nat.le_add_left 1 _, Nat.add_le_add_right hshort 1⟩
    · have hmore : extra < rest.length := by
        rw [portions_eq_nil_iff, List.drop_eq_nil_iff] at hrest
        omega
      rw [List.dropLast_cons_of_ne_nil hrest, List.getLast?_cons_of_ne_nil hrest, List.forall_mem_cons]
      refine ⟨⟨?_, ih.1⟩, ih.2⟩
      simp only [List.length_cons, List.length_take]
      omega

omit [BEq α] [LawfulBEq α] in
theorem isSome_mapM_iff {β : Type} (g : α → Option β) (xs : List α) :
    (xs.mapM g).isSome ↔ ∀ x ∈ xs, (g x).isSome := by
  induction xs with
  | nil => simp
  | cons x xs ih =>
    rw [List.mapM_cons, List.forall_mem_cons, ← ih]
    cases g x with
    | none => simp
    | some y => cases xs.mapM g <;> simp

end Triage.Listing
