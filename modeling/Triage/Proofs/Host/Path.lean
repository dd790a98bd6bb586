import Triage.Host.Path
import Triage.Proofs.Text.Pieces

/-!
# Paths in their shortest form

The shortest form of a path is its own shortest form (`clean_clean`), a path keeps its last character
(`getLast?_clean`), and plain parts after a path are kept as they are (`clean_append`). All three look at
the parts of a path as a stack that `push` works on.
-/
namespace Triage.Path

open Text (splitChars)

/-! ## The stack of parts -/

/-- A part that is more than a step in place or upwards. -/
def IsPlain (part : List Char) : Prop := part ≠ [] ∧ part ≠ ['.'] ∧ part ≠ ['.', '.'] ∧ '/' ∉ part

instance (part : List Char) : Decidable (IsPlain part) := inferInstanceAs (Decidable (_ ∧ _ ∧ _ ∧ _))

/-- Parts in their shortest form, the last one first: steps upwards only at the front of a relative path. -/
def Settled (rooted : Bool) : List (List Char) → Prop
  | [] => True
  | part :: parts => Settled rooted parts ∧
    (IsPlain part ∨ part = ['.', '.'] ∧ rooted = false ∧ ∀ p ∈ parts, p = ['.', '.'])

theorem push_of_isPlain {part : List Char} (h : IsPlain part) (rooted : Bool) (parts : List (List Char)) :
    push rooted parts part = part :: parts := by
  unfold push
  rw [if_neg (by simp [h.1, h.2.1]), if_neg h.2.2.1]

theorem Settled.push {rooted : Bool} {parts : List (List Char)} (h : Settled rooted parts)
    {part : List Char} (hslash : '/' ∉ part) : Settled rooted (push rooted parts part) := by
  unfold Path.push
  split
  · exact h
  · rename_i hne
    split
    · rename_i hup
      subst hup
      cases parts with
      | nil =>
        cases rooted with
        | true => exact trivial
        | false => exact ⟨trivial, .inr ⟨rfl, rfl, fun _ hp => nomatch hp⟩⟩
      | cons last parts =>
        dsimp only
        split
        · rename_i hlast
          obtain ⟨hparts, hplain | ⟨-, hrooted, hall⟩⟩ := h
          · exact absurd hlast hplain.2.2.1
          · refine ⟨⟨hparts, .inr ⟨hlast, hrooted, hall⟩⟩, .inr ⟨rfl, hrooted, fun p hp => ?_⟩⟩
            rcases List.mem_cons.1 hp with rfl | hp
            · exact hlast
            · exact hall p hp
        · exact h.1
    · rename_i hup
      rw [not_or] at hne
      exact ⟨h, .inl ⟨hne.1, hne.2, hup, hslash⟩⟩

theorem settled_foldl {rooted : Bool} {steps : List (List Char)} (hsteps : ∀ part ∈ steps, '/' ∉ part)
    {parts : List (List Char)} (h : Settled rooted parts) : Settled rooted (steps.foldl (push rooted) parts) := by
  induction steps generalizing parts with
  | nil => exact h
  | cons step steps ih =>
    exact ih (fun part hp => hsteps part (List.mem_cons_of_mem _ hp)) (h.push (hsteps step List.mem_cons_self))

/-- Parts in their shortest form stay as they are. -/
theorem Settled.foldl_reverse {rooted : Bool} {parts : List (List Char)} (h : Settled rooted parts) :
    parts.reverse.foldl (Path.push rooted) [] = parts := by
  induction parts with
  | nil => rfl
  | cons part parts ih =>
    obtain ⟨hparts, hpart⟩ := h
    rw [List.reverse_cons, List.foldl_append, ih hparts, List.foldl_cons, List.foldl_nil]
    rcases hpart with hplain | ⟨rfl, rfl, hall⟩
    · exact push_of_isPlain hplain rooted parts
    · cases parts with
      | nil => rfl
      | cons last parts =>
        have hlast := hall last List.mem_cons_self
        subst hlast
        rfl

/-! ## The text of a stack -/

theorem Settled.part {rooted : Bool} {parts : List (List Char)} (h : Settled rooted parts) :
    ∀ part ∈ parts, part ≠ [] ∧ '/' ∉ part := by
  induction parts with
  | nil => exact fun _ hp => nomatch hp
  | cons part parts ih =>
    obtain ⟨hparts, hpart⟩ := h
    intro p hp
    rcases List.mem_cons.1 hp with rfl | hp
    · rcases hpart with hplain | ⟨rfl, -⟩
      · exact ⟨hplain.1, hplain.2.2.2⟩
      · decide
    · exact ih hparts p hp

theorem joinParts_cons_cons (part next : List Char) (parts : List (List Char)) :
    joinParts (part :: next :: parts) = part ++ '/' :: joinParts (next :: parts) := rfl

theorem splitChars_joinParts {parts : List (List Char)} (hne : parts ≠ []) (h : ∀ part ∈ parts, '/' ∉ part) :
    splitChars '/' (joinParts parts) = parts := by
  induction parts with
  | nil => exact absurd rfl hne
  | cons part parts ih =>
    have hpart := Text.splitChars_of_not_mem (h part List.mem_cons_self)
    cases parts with
    | nil => exact hpart
    | cons next parts =>
      rw [joinParts_cons_cons, Text.splitChars_append, hpart,
        ih (List.cons_ne_nil _ _) fun p hp => h p (List.mem_cons_of_mem _ hp)]
      rfl

theorem joinParts_append {front back : List (List Char)} (hfront : front ≠ []) (hback : back ≠ []) :
    joinParts (front ++ back) = joinParts front ++ '/' :: joinParts back := by
  induction front with
  | nil => exact absurd rfl hfront
  | cons part front ih =>
    cases front with
    | nil =>
      obtain ⟨next, back, rfl⟩ := List.exists_cons_of_ne_nil hback
      rfl
    | cons next front =>
      rw [List.cons_append, List.cons_append, joinParts_cons_cons, ← List.cons_append,
        ih (List.cons_ne_nil _ _), joinParts_cons_cons, List.append_assoc]
      rfl

theorem joinParts_ne_nil {parts : List (List Char)} (hne : parts ≠ []) (h : ∀ part ∈ parts, part ≠ []) :
    joinParts parts ≠ [] := by
  obtain ⟨part, parts, rfl⟩ := List.exists_cons_of_ne_nil hne
  have hpart := h part List.mem_cons_self
  cases parts with
  | nil => exact hpart
  | cons next parts => simp [joinParts_cons_cons]

def isRooted (cs : List Char) : Bool := cs.head? = some '/'

/-- The parts of a path in their shortest form, the last one first. -/
def stack (cs : List Char) : List (List Char) := (splitChars '/' cs).foldl (push (isRooted cs)) []

/-- The path with these parts, the last one first. -/
def spell (rooted : Bool) (parts : List (List Char)) : List Char :=
  if rooted then '/' :: joinParts parts.reverse
  else if parts = [] then ['.'] else joinParts parts.reverse

theorem settled_stack (cs : List Char) : Settled (isRooted cs) (stack cs) :=
  settled_foldl (fun _ => Text.not_mem_of_mem_splitChars) trivial

theorem Settled.joinParts_eq_nil_iff {rooted : Bool} {parts : List (List Char)} (h : Settled rooted parts) :
    joinParts parts.reverse = [] ↔ parts = [] := by
  constructor
  · intro hnil
    refine Decidable.byContradiction fun hne => ?_
    have hreverse : parts.reverse ≠ [] := by simpa using hne
    exact joinParts_ne_nil hreverse (fun part hp => (h.part part (List.mem_reverse.1 hp)).1) hnil
  · rintro rfl
    rfl

theorem toList_clean (path : String) :
    (clean path).toList = spell (isRooted path.toList) (stack path.toList) := by
  have hstack : (splitChars '/' path.toList).foldl (push (path.toList.head? = some '/')) [] =
      stack path.toList := rfl
  have hempty := (settled_stack path.toList).joinParts_eq_nil_iff
  unfold clean spell
  simp only [hstack, List.isEmpty_iff, isRooted, decide_eq_true_eq]
  by_cases hrooted : path.toList.head? = some '/'
  · rw [if_pos hrooted, if_pos hrooted, String.toList_ofList]
  · rw [if_neg hrooted, if_neg hrooted]
    by_cases hnil : stack path.toList = []
    · rw [if_pos (hempty.2 hnil), if_pos hnil]
      rfl
    · rw [if_neg (mt hempty.1 hnil), if_neg hnil, String.toList_ofList]

/-- The text of parts in their shortest form has these parts. -/
theorem Settled.stack_spell {rooted : Bool} {parts : List (List Char)} (h : Settled rooted parts) :
    isRooted (spell rooted parts) = rooted ∧ stack (spell rooted parts) = parts := by
  have hslash : ∀ part ∈ parts.reverse, '/' ∉ part := fun part hp => (h.part part (List.mem_reverse.1 hp)).2
  cases rooted with
  | true =>
    refine ⟨rfl, ?_⟩
    have hsplit : splitChars '/' ('/' :: joinParts parts.reverse) =
        [] :: splitChars '/' (joinParts parts.reverse) := rfl
    have hrooted : isRooted (spell true parts) = true := rfl
    rw [stack, hrooted, spell, if_pos rfl, hsplit, List.foldl_cons]
    by_cases hnil : parts = []
    · subst hnil
      rfl
    · rw [splitChars_joinParts (by simpa using hnil) hslash]
      exact h.foldl_reverse
  | false =>
    by_cases hnil : parts = []
    · subst hnil
      decide
    · have hne : parts.reverse ≠ [] := by simpa using hnil
      have hspell : spell false parts = joinParts parts.reverse := by
        rw [spell, if_neg Bool.false_ne_true, if_neg hnil]
      have hrooted : isRooted (joinParts parts.reverse) = false := by
        obtain ⟨part, rest, heq⟩ := List.exists_cons_of_ne_nil hne
        have hmem : part ∈ parts.reverse := heq ▸ List.mem_cons_self
        have hpart := h.part part (List.mem_reverse.1 hmem)
        obtain ⟨c, cs, rfl⟩ := List.exists_cons_of_ne_nil hpart.1
        have hc : c ≠ '/' := fun hc => hpart.2 (hc ▸ List.mem_cons_self)
        rw [heq]
        cases rest with
        | nil => simpa [isRooted, joinParts] using hc
        | cons next rest => simpa [isRooted, joinParts] using hc
      rw [hspell, stack, hrooted, splitChars_joinParts hne hslash, h.foldl_reverse]
      exact ⟨rfl, rfl⟩

/-- **The shortest form of a path** is its own shortest form. -/
theorem clean_clean (path : String) : clean (clean path) = clean path := by
  have hsettled := (settled_stack path.toList).stack_spell
  rw [← String.toList_inj, toList_clean, toList_clean path, hsettled.1, hsettled.2]

/-! ## The end of a path -/

theorem getLast?_append_of_ne_nil {xs ys : List Char} (h : ys ≠ []) : (xs ++ ys).getLast? = ys.getLast? := by
  rw [List.getLast?_append, List.getLast?_eq_some_getLast h]
  rfl

theorem getLast?_joinParts {part : List Char} (h : part ≠ []) (parts : List (List Char)) :
    (joinParts (parts ++ [part])).getLast? = part.getLast? := by
  by_cases hnil : parts = []
  · rw [hnil]
    rfl
  · rw [joinParts_append hnil (List.cons_ne_nil _ _), ← List.singleton_append, ← List.append_assoc]
    exact getLast?_append_of_ne_nil h

theorem getLast?_spell {part : List Char} (h : part ≠ []) (rooted : Bool) (parts : List (List Char)) :
    (spell rooted (part :: parts)).getLast? = part.getLast? := by
  have hjoin := getLast?_joinParts h parts.reverse
  have hne : joinParts (parts.reverse ++ [part]) ≠ [] := by
    intro hnil
    rw [hnil, List.getLast?_nil] at hjoin
    exact h (List.getLast?_eq_none_iff.1 hjoin.symm)
  cases rooted with
  | true =>
    rw [spell, if_pos rfl, List.reverse_cons, ← List.singleton_append, getLast?_append_of_ne_nil hne, hjoin]
  | false => rw [spell, if_neg Bool.false_ne_true, if_neg (List.cons_ne_nil _ _), List.reverse_cons, hjoin]

/-- **A path keeps its last character**, unless that is a slash or a point. -/
theorem getLast?_clean {path : String} {c : Char} (h : path.toList.getLast? = some c) (hslash : c ≠ '/')
    (hpoint : c ≠ '.') : (clean path).toList.getLast? = some c := by
  obtain ⟨front, part, hsplit, hpart⟩ := Text.exists_last_part hslash h
  have hne : part ≠ [] := by
    rintro rfl
    cases hpart
  have hplain : IsPlain part := by
    refine ⟨hne, ?_, ?_, Text.not_mem_of_mem_splitChars (hsplit ▸ List.mem_append_right _ List.mem_cons_self)⟩
    · rintro rfl
      exact hpoint (Option.some.inj hpart).symm
    · rintro rfl
      exact hpoint (Option.some.inj hpart).symm
  rw [toList_clean, stack, hsplit, List.foldl_append, List.foldl_cons, List.foldl_nil,
    push_of_isPlain hplain, getLast?_spell hne, hpart]

/-! ## Plain parts after a path -/

theorem foldl_push_of_isPlain {steps : List (List Char)} (h : ∀ part ∈ steps, IsPlain part) (rooted : Bool)
    (parts : List (List Char)) : steps.foldl (push rooted) parts = steps.reverse ++ parts := by
  induction steps generalizing parts with
  | nil => rfl
  | cons step steps ih =>
    rw [List.foldl_cons, push_of_isPlain (h step List.mem_cons_self),
      ih fun part hp => h part (List.mem_cons_of_mem _ hp)]
    simp

/-- **Plain parts after a path** are kept as they are. -/
theorem clean_append {root : List Char} (hroot : stack root ≠ []) {parts : List (List Char)}
    (hne : parts ≠ []) (hparts : ∀ part ∈ parts, IsPlain part) :
    (clean (String.ofList (root ++ '/' :: joinParts parts))).toList =
      (clean (String.ofList root)).toList ++ '/' :: joinParts parts := by
  have hrootNe : root ≠ [] := by
    rintro rfl
    exact hroot rfl
  have hrooted : isRooted (root ++ '/' :: joinParts parts) = isRooted root := by
    obtain ⟨c, cs, rfl⟩ := List.exists_cons_of_ne_nil hrootNe
    rfl
  have hstack : stack (root ++ '/' :: joinParts parts) = parts.reverse ++ stack root := by
    rw [stack, hrooted, Text.splitChars_append, List.foldl_append,
      splitChars_joinParts hne fun part hp => (hparts part hp).2.2.2, foldl_push_of_isPlain hparts, stack]
  have hjoin : joinParts (parts.reverse ++ stack root).reverse =
      joinParts (stack root).reverse ++ '/' :: joinParts parts := by
    rw [List.reverse_append, List.reverse_reverse, joinParts_append (by simpa using hroot) hne]
  simp only [toList_clean, String.toList_ofList, hrooted, hstack, spell, hjoin]
  cases isRooted root with
  | true => rfl
  | false => simp [hroot]

/-! ## Joined parts -/

theorem toList_textJoin (parts : List String) :
    (Text.join "/" parts).toList = joinParts (parts.map String.toList) := by
  induction parts with
  | nil => rfl
  | cons part parts ih =>
    cases parts with
    | nil => rw [Text.join, String.intercalate_singleton]; rfl
    | cons next parts =>
      rw [Text.join, String.intercalate_cons_cons, String.toList_append, String.toList_append]
      rw [Text.join] at ih
      rw [ih, List.append_assoc]
      rfl

/-- Parts that are joined are in their shortest form. -/
theorem clean_join {parts : List String} {part : String} (hpart : part ∈ parts) (hne : part ≠ "") :
    clean (join parts) = join parts := by
  have hfilter : (parts.filter (· != "")).isEmpty = false := by
    refine Bool.eq_false_iff.2 fun hempty => ?_
    have hmem : part ∈ parts.filter (· != "") := List.mem_filter.2 ⟨hpart, bne_iff_ne.2 hne⟩
    rw [List.isEmpty_iff.1 hempty] at hmem
    cases hmem
  simp only [join, hfilter, Bool.false_eq_true, if_false, clean_clean]

/-- Parts that are joined end like the last one. -/
theorem getLast?_join (parts : List String) {part : String} {c : Char} (h : part.toList.getLast? = some c)
    (hslash : c ≠ '/') (hpoint : c ≠ '.') : (join (parts ++ [part])).toList.getLast? = some c := by
  have hne : part.toList ≠ [] := by
    intro hnil
    rw [hnil] at h
    cases h
  have hpart : part ≠ "" := by
    rintro rfl
    exact hne rfl
  have hfilter : (parts ++ [part]).filter (· != "") = parts.filter (· != "") ++ [part] := by
    rw [List.filter_append]
    congr 1
    simpa using hpart
  simp only [join, hfilter]
  rw [if_neg (by simp)]
  refine getLast?_clean ?_ hslash hpoint
  rw [toList_textJoin, List.map_append, List.map_singleton, getLast?_joinParts hne, h]

/-- **Plain parts that are joined to a path** are kept as they are. -/
theorem toList_join {root : String} (hroot : stack root.toList ≠ []) {parts : List String} (hne : parts ≠ [])
    (hparts : ∀ part ∈ parts, IsPlain part.toList) :
    (join (root :: parts)).toList = (clean root).toList ++ '/' :: joinParts (parts.map String.toList) := by
  have hfilter : (root :: parts).filter (· != "") = root :: parts := by
    refine List.filter_eq_self.2 fun part hp => bne_iff_ne.2 ?_
    rintro rfl
    rcases List.mem_cons.1 hp with rfl | hp
    · exact hroot rfl
    · exact (hparts "" hp).1 rfl
  have hjoin : Text.join "/" (root :: parts) =
      String.ofList (root.toList ++ '/' :: joinParts (parts.map String.toList)) := by
    obtain ⟨part, parts, rfl⟩ := List.exists_cons_of_ne_nil hne
    rw [← String.toList_inj, toList_textJoin, String.toList_ofList]
    rfl
  have hplain : ∀ part ∈ parts.map String.toList, IsPlain part := by
    intro part hpart
    obtain ⟨p, hp, rfl⟩ := List.mem_map.1 hpart
    exact hparts p hp
  have hclean := clean_append hroot (by simpa using hne) hplain
  rw [String.ofList_toList] at hclean
  simp only [join, hfilter, List.isEmpty_cons, Bool.false_eq_true, if_false, hjoin, hclean]

end Triage.Path
