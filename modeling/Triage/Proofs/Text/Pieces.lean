import Triage.Text.Pieces

/-!
# Texts in pieces

A text begins with another one, or holds it, exactly if it does so as a list of characters. A text is cut at the first
or the last separator exactly if there is no other one before or after it (`cutFirst_eq_some_iff`,
`cutLast_eq_some_iff`). A text with one more separator in it has the parts of what stands before the separator and of
what stands after it (`splitChars_append`).
-/
namespace Triage.Text

/-! ## Texts in texts -/

theorem isSome_stripLead_iff {α : Type} [DecidableEq α] {lead cs : List α} :
    (stripLead lead cs).isSome ↔ lead <+: cs := by
  induction lead generalizing cs with
  | nil => simp [stripLead]
  | cons l lead ih =>
    cases cs with
    | nil => simp [stripLead]
    | cons c cs =>
      rw [stripLead, List.cons_prefix_cons, ← ih]
      split <;> simp_all

theorem startsWith_iff {lead s : String} : startsWith lead s = true ↔ lead.toList <+: s.toList :=
  isSome_stripLead_iff

theorem startsWith_of_toList {lead s : String} {rest : List Char} (h : s.toList = lead.toList ++ rest) :
    startsWith lead s = true :=
  startsWith_iff.2 ⟨rest, h.symm⟩

theorem hasPart_iff {α : Type} [DecidableEq α] {part cs : List α} : hasPart part cs = true ↔ part <:+: cs := by
  induction cs with
  | nil => simp [hasPart]
  | cons c cs ih => rw [hasPart, Bool.or_eq_true, isSome_stripLead_iff, ih, List.infix_cons_iff]

/-- The characters of a text that is put together. A literal has its own by `String.toList_ofList`. -/
theorem toList_append_of {s t : String} {cs ds : List Char} (hs : s.toList = cs) (ht : t.toList = ds) :
    (s ++ t).toList = cs ++ ds := by
  rw [String.toList_append, hs, ht]

/-! ## Before and after a separator -/

theorem cutFirst_eq_none_iff {sep : Char} {cs : List Char} : cutFirst sep cs = none ↔ sep ∉ cs := by
  induction cs with
  | nil => simp [cutFirst]
  | cons c cs ih =>
    rw [cutFirst, List.mem_cons, not_or, ← ih]
    split
    · rename_i hc
      simp [hc]
    · rename_i hc
      simp [Ne.symm hc]

/-- **The first separator**: there is none before it. -/
theorem cutFirst_eq_some_iff {sep : Char} {cs before after : List Char} :
    cutFirst sep cs = some (before, after) ↔ cs = before ++ sep :: after ∧ sep ∉ before := by
  induction cs generalizing before with
  | nil => simp [cutFirst]
  | cons c cs ih =>
    rw [cutFirst]
    split
    · rename_i hc
      subst hc
      -- A cut further back would have the separator before it.
      cases before with
      | nil => simp [eq_comm]
      | cons b before =>
        refine iff_of_false (by simp) ?_
        rintro ⟨heq, hmem⟩
        exact hmem ((List.cons.inj heq).1 ▸ List.mem_cons_self)
    · rename_i hc
      cases before with
      | nil => simp [hc]
      | cons b before =>
        rw [List.cons_append, List.cons.injEq, List.mem_cons, not_or, Option.map_eq_some_iff]
        constructor
        · rintro ⟨⟨before', after'⟩, hcut, heq⟩
          cases heq
          obtain ⟨hcs, hbefore⟩ := ih.1 hcut
          exact ⟨⟨rfl, hcs⟩, Ne.symm hc, hbefore⟩
        · rintro ⟨⟨rfl, hcs⟩, -, hbefore⟩
          exact ⟨(before, after), ih.2 ⟨hcs, hbefore⟩, rfl⟩

/-- **The last separator**: there is none after it. -/
theorem cutLast_eq_some_iff {sep : Char} {cs before after : List Char} :
    cutLast sep cs = some (before, after) ↔ cs = before ++ sep :: after ∧ sep ∉ after := by
  have hreverse : cutLast sep cs = some (before, after) ↔
      cutFirst sep cs.reverse = some (after.reverse, before.reverse) := by
    rw [cutLast, Option.map_eq_some_iff]
    constructor
    · rintro ⟨⟨after', before'⟩, hcut, heq⟩
      cases heq
      simpa using hcut
    · intro hcut
      exact ⟨_, hcut, by simp⟩
  rw [hreverse, cutFirst_eq_some_iff, List.mem_reverse, List.reverse_eq_iff]
  simp

theorem cutFirst_append_of_some {sep : Char} {cs before after : List Char} (h : cutFirst sep cs = some (before, after))
    (more : List Char) : cutFirst sep (cs ++ more) = some (before, after ++ more) := by
  obtain ⟨rfl, hbefore⟩ := cutFirst_eq_some_iff.1 h
  exact cutFirst_eq_some_iff.2 ⟨by simp, hbefore⟩

theorem cutFirst_append_of_none {sep : Char} {cs : List Char} (h : cutFirst sep cs = none) (more : List Char) :
    cutFirst sep (cs ++ more) = (cutFirst sep more).map fun p => (cs ++ p.1, p.2) := by
  have hcs := cutFirst_eq_none_iff.1 h
  cases hmore : cutFirst sep more with
  | none => exact cutFirst_eq_none_iff.2 (by simp [hcs, cutFirst_eq_none_iff.1 hmore])
  | some p =>
    obtain ⟨rfl, hbefore⟩ := cutFirst_eq_some_iff.1 hmore
    exact cutFirst_eq_some_iff.2 ⟨by simp, by simp [hcs, hbefore]⟩

/-! ## Between the separators -/

theorem splitChars_ne_nil (sep : Char) (cs : List Char) : splitChars sep cs ≠ [] := by
  cases cs with
  | nil => simp [splitChars]
  | cons c cs =>
    unfold splitChars
    split
    · simp
    · split <;> simp

theorem splitChars_cons_of_ne {sep c : Char} (h : c ≠ sep) {cs part : List Char} {parts : List (List Char)}
    (hsplit : splitChars sep cs = part :: parts) : splitChars sep (c :: cs) = (c :: part) :: parts := by
  rw [splitChars, if_neg h, hsplit]

theorem splitChars_append (sep : Char) (a b : List Char) :
    splitChars sep (a ++ sep :: b) = splitChars sep a ++ splitChars sep b := by
  induction a with
  | nil => simp [splitChars]
  | cons c a ih =>
    obtain ⟨part, parts, ha⟩ := List.exists_cons_of_ne_nil (splitChars_ne_nil sep a)
    rw [ha, List.cons_append] at ih
    by_cases hc : c = sep
    · subst hc
      rw [List.cons_append, splitChars, if_pos rfl, ih, splitChars, if_pos rfl, ha]
      rfl
    · rw [List.cons_append, splitChars_cons_of_ne hc ih, splitChars_cons_of_ne hc ha, List.cons_append]

theorem splitChars_of_not_mem {sep : Char} {cs : List Char} (h : sep ∉ cs) : splitChars sep cs = [cs] := by
  induction cs with
  | nil => rfl
  | cons c cs ih =>
    rw [List.mem_cons, not_or] at h
    exact splitChars_cons_of_ne (Ne.symm h.1) (ih h.2)

theorem not_mem_of_mem_splitChars {sep : Char} {cs part : List Char} (h : part ∈ splitChars sep cs) :
    sep ∉ part := by
  induction cs generalizing part with
  | nil => rw [splitChars, List.mem_singleton] at h; simp [h]
  | cons c cs ih =>
    obtain ⟨first, parts, hsplit⟩ := List.exists_cons_of_ne_nil (splitChars_ne_nil sep cs)
    rw [hsplit] at ih
    by_cases hc : c = sep
    · rw [splitChars, if_pos hc, hsplit] at h
      rcases List.mem_cons.1 h with rfl | h
      · simp
      · exact ih h
    · rw [splitChars_cons_of_ne hc hsplit] at h
      rcases List.mem_cons.1 h with rfl | h
      · have hfirst := ih List.mem_cons_self
        simp only [List.mem_cons, not_or]
        exact ⟨Ne.symm hc, hfirst⟩
      · exact ih (List.mem_cons_of_mem _ h)

theorem intercalate_splitChars (sep : Char) (cs : List Char) : [sep].intercalate (splitChars sep cs) = cs := by
  induction cs with
  | nil => rfl
  | cons c cs ih =>
    obtain ⟨part, parts, hsplit⟩ := List.exists_cons_of_ne_nil (splitChars_ne_nil sep cs)
    by_cases hc : c = sep
    · rw [splitChars, if_pos hc, List.intercalate_cons_of_ne_nil (splitChars_ne_nil sep cs), ih, hc]
      rfl
    · rw [hsplit] at ih
      rw [splitChars_cons_of_ne hc hsplit, ← ih]
      cases parts <;> rfl

/-- The parts tell the text. -/
theorem splitChars_injective (sep : Char) : Function.Injective (splitChars sep) :=
  Function.LeftInverse.injective (intercalate_splitChars sep)

/-- The last part of a text ends like the text, unless the text ends with the separator. -/
theorem exists_last_part {sep c : Char} (hc : c ≠ sep) {cs : List Char} (h : cs.getLast? = some c) :
    ∃ front part, splitChars sep cs = front ++ [part] ∧ part.getLast? = some c := by
  induction cs with
  | nil => cases h
  | cons x cs ih =>
    cases cs with
    | nil =>
      obtain rfl : x = c := by simpa using h
      exact ⟨[], [x], by rw [splitChars_cons_of_ne hc rfl]; rfl, rfl⟩
    | cons y cs =>
      obtain ⟨front, part, hsplit, hpart⟩ := ih (by simpa using h)
      by_cases hx : x = sep
      · exact ⟨[] :: front, part, by rw [splitChars, if_pos hx, hsplit]; rfl, hpart⟩
      · cases front with
        | nil =>
          refine ⟨[], x :: part, by rw [splitChars_cons_of_ne hx hsplit]; rfl, ?_⟩
          rw [List.getLast?_cons, hpart]
          rfl
        | cons first front =>
          exact ⟨(x :: first) :: front, part, by rw [splitChars_cons_of_ne hx hsplit]; rfl, hpart⟩

end Triage.Text
