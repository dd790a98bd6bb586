import Mathlib.Data.Bool.AllAny
import Triage.Json.Reader

/-!
# The bodies of strings

`IsBody` says which texts may stand between the quotes of a string; the reader accepts exactly those
(`readBody_of_isBody`, `isBody_of_readBody`). Escaping a text gives a body that reads as that text
(`unescape_escape`), and escaping what markup would misread keeps what a body reads as
(`unescape_escapeMarkup`).
-/
namespace Triage.Json

/-- A text that may stand between the quotes of a string. -/
inductive IsBody : List Char → Prop
  | nil : IsBody []
  | unit {a b c d : Char} {cs : List Char} (hex : (hexNumber? a b c d).isSome) (h : IsBody cs) :
    IsBody ('\\' :: 'u' :: a :: b :: c :: d :: cs)
  | letter {c : Char} {cs : List Char} (hc : c ∈ ['"', '\\', '/', 'b', 'f', 'n', 'r', 't'])
    (h : IsBody cs) : IsBody ('\\' :: c :: cs)
  | plain {c : Char} {cs : List Char} (control : 0x20 ≤ c.toNat) (quote : c ≠ '"') (slash : c ≠ '\\')
    (h : IsBody cs) : IsBody (c :: cs)

/-! ## Reading -/

/-- The reader takes a body up to its quote. -/
theorem readBody_of_isBody {body : List Char} (h : IsBody body) (rest : List Char) :
    readBody (body ++ '"' :: rest) = some (body, rest) := by
  induction h with
  | nil => simp [readBody]
  | unit hex _ ih => simp only [List.cons_append, readBody_unit hex, ih, Option.map_some]
  | letter hc _ ih => simp only [List.cons_append, readBody_letter hc, ih, Option.map_some]
  | plain control quote slash _ ih =>
    simp only [List.cons_append, readBody_plain control quote slash, ih, Option.map_some]

/-- What the reader takes is a body, and it stops after the quote. -/
theorem isBody_of_readBody {cs body rest : List Char} (h : readBody cs = some (body, rest)) :
    IsBody body ∧ cs = body ++ '"' :: rest := by
  fun_induction readBody cs generalizing body with
  | case1 => cases h
  | case2 cs => cases h; exact ⟨.nil, rfl⟩
  | case3 => cases h
  | case4 a b c d cs hex ih =>
    obtain ⟨⟨inner, tail⟩, hinner, heq⟩ := Option.map_eq_some_iff.1 h
    cases heq
    obtain ⟨hbody, rfl⟩ := ih hinner
    exact ⟨.unit (by simpa [Option.isSome_iff_ne_none] using hex) hbody, rfl⟩
  | case5 c cs _ hc ih =>
    obtain ⟨⟨inner, tail⟩, hinner, heq⟩ := Option.map_eq_some_iff.1 h
    cases heq
    obtain ⟨hbody, rfl⟩ := ih hinner
    exact ⟨.letter hc hbody, rfl⟩
  | case6 => cases h
  | case7 => cases h
  | case8 c cs hquote _ _ hplain ih =>
    obtain ⟨⟨inner, tail⟩, hinner, heq⟩ := Option.map_eq_some_iff.1 h
    cases heq
    obtain ⟨hbody, rfl⟩ := ih hinner
    rw [not_or] at hplain
    exact ⟨.plain (Nat.le_of_not_lt hplain.1) hquote hplain.2 hbody, rfl⟩

/-! ## Hexadecimal digits -/

theorem hexValue?_hexDigit : ∀ n < 16, Number.hexValue? (Text.hexDigit n) = some n := by decide

/-- Four digits spell every number that fits into them. -/
theorem hexNumber?_hexChars {n : Nat} (h : n < 65536) :
    ∃ a b c d, Text.hexChars 4 n = [a, b, c, d] ∧ hexNumber? a b c d = some n := by
  refine ⟨_, _, _, _, rfl, ?_⟩
  have hmod (m : Nat) : m % 16 < 16 := Nat.mod_lt _ (by decide)
  simp only [hexNumber?, hexValue?_hexDigit _ (hmod _), bind, Option.bind, pure, Option.some.injEq]
  omega

/-! ## Undoing escapes -/

theorem unescapeChars_plain {c : Char} (h : c ≠ '\\') (cs : List Char) :
    unescapeChars (c :: cs) = c :: unescapeChars cs := by
  rw [unescapeChars]
  · intro _ _ _ _ _ hc
    exact absurd hc h
  · intro _ _ hc
    exact absurd hc h

theorem unescapeChars_letter {c : Char} (h : c ≠ 'u') (cs : List Char) :
    unescapeChars ('\\' :: c :: cs) = letterEscape c :: unescapeChars cs := by
  rw [unescapeChars]
  intro _ _ _ _ _ hc
  exact absurd hc h

theorem unescapeChars_unit {a b c d : Char} {unit : Nat} (h : hexNumber? a b c d = some unit)
    (cs : List Char) :
    unescapeChars ('\\' :: 'u' :: a :: b :: c :: d :: cs) =
      ((nextUnit? cs).bind (pairChar? unit)).elim (unitChar unit :: unescapeChars cs)
        fun paired => paired :: unescapeChars (cs.drop 6) := by
  cases hpair : (nextUnit? cs).bind (pairChar? unit) with
  | none => simp only [unescapeChars, h, hpair, Option.elim_none]
  | some paired => simp only [unescapeChars, h, hpair, Option.elim_some]

/-- A unit below the surrogates pairs with nothing. -/
theorem pairChar?_of_lt {high : Nat} (h : high < 0xD800) (low : Nat) : pairChar? high low = none :=
  if_neg fun hp => absurd hp.1 (Nat.not_le.2 h)

/-- A unit below the surrogates is the second one of no pair. -/
theorem pairChar?_of_low_lt {low : Nat} (h : low < 0xD800) (high : Nat) : pairChar? high low = none :=
  if_neg fun hp => absurd hp.2.2.1 (Nat.not_le.2 (Nat.lt_trans h (by decide)))

theorem unescapeChars_unicodeEscape {n : Nat} (h : n < 0xD800) (cs : List Char) :
    unescapeChars (unicodeEscape n ++ cs) = Char.ofNat n :: unescapeChars cs := by
  obtain ⟨a, b, c, d, hchars, hnum⟩ := hexNumber?_hexChars (Nat.lt_trans h (by decide : _ < 65536))
  have hnone : (nextUnit? cs).bind (pairChar? n) = none := by
    cases nextUnit? cs with
    | none => rfl
    | some low => exact pairChar?_of_lt h low
  have hunit : unitChar n = Char.ofNat n := if_neg fun hp => absurd hp.1 (Nat.not_le.2 h)
  simp only [unicodeEscape, hchars, List.cons_append, List.nil_append, unescapeChars_unit hnum, hnone, hunit,
    Option.elim_none]

theorem isBody_unicodeEscape {n : Nat} (h : n < 65536) {cs : List Char} (hcs : IsBody cs) :
    IsBody (unicodeEscape n ++ cs) := by
  obtain ⟨a, b, c, d, hchars, hnum⟩ := hexNumber?_hexChars h
  simp only [unicodeEscape, hchars, List.cons_append, List.nil_append]
  exact .unit (by simp [hnum]) hcs

/-! ## Escaping -/

/-- The five characters that markup would misread. -/
theorem unsafeInMarkup_iff {c : Char} :
    unsafeInMarkup c = true ↔ c ∈ ['<', '>', '&', Char.ofNat 0x2028, Char.ofNat 0x2029] := by
  have hchar (n : Nat) (hn : (Char.ofNat n).toNat = n) : c.toNat = n ↔ c = Char.ofNat n :=
    ⟨fun h => by rw [← h, Char.ofNat_toNat], fun h => by rw [h, hn]⟩
  simp only [unsafeInMarkup, Bool.or_eq_true, beq_iff_eq, hchar 0x2028 (by decide),
    hchar 0x2029 (by decide), List.mem_cons, List.not_mem_nil, or_false, or_assoc]

theorem toNat_lt_of_unsafeInMarkup {c : Char} (h : unsafeInMarkup c = true) : c.toNat < 0xD800 := by
  have hall : ∀ c ∈ ['<', '>', '&', Char.ofNat 0x2028, Char.ofNat 0x2029], c.toNat < 0xD800 :=
    List.all_iff_forall_prop.1 (by decide)
  exact hall c (unsafeInMarkup_iff.1 h)

/-- What is no member of a list without such characters is safe. -/
theorem unsafeInMarkup_eq_false {c : Char}
    (h : c ∉ ['<', '>', '&', Char.ofNat 0x2028, Char.ofNat 0x2029]) : unsafeInMarkup c = false :=
  Bool.eq_false_iff.2 fun hc => h (unsafeInMarkup_iff.1 hc)

/-- A hexadecimal digit is safe in markup. -/
theorem unsafeInMarkup_of_hexValue? {c : Char} (h : (Number.hexValue? c).isSome) :
    unsafeInMarkup c = false := by
  refine unsafeInMarkup_eq_false fun hc => ?_
  have hall : ∀ c ∈ ['<', '>', '&', Char.ofNat 0x2028, Char.ofNat 0x2029],
      (Number.hexValue? c).isSome = false := List.all_iff_forall_prop.1 (by decide)
  rw [hall c hc] at h
  cases h

theorem isSome_of_hexNumber? {a b c d : Char} (h : (hexNumber? a b c d).isSome) :
    (Number.hexValue? a).isSome ∧ (Number.hexValue? b).isSome ∧ (Number.hexValue? c).isSome ∧
      (Number.hexValue? d).isSome := by
  obtain ⟨n, hn⟩ := Option.isSome_iff_exists.1 h
  simp only [hexNumber?, bind, Option.bind_eq_some_iff] at hn
  obtain ⟨_, ha, _, hb, _, hc, _, hd, -⟩ := hn
  simp [ha, hb, hc, hd]

/-- One character of a body, escaped if markup would misread it. -/
def markupChar (c : Char) : List Char := if unsafeInMarkup c then unicodeEscape c.toNat else [c]

theorem toList_escapeMarkup (body : String) :
    (escapeMarkup body).toList = body.toList.flatMap markupChar := by
  rw [escapeMarkup, String.toList_ofList]
  rfl

theorem markupChar_of_safe {c : Char} (h : unsafeInMarkup c = false) : markupChar c = [c] := by
  rw [markupChar, h]
  rfl

/-- Characters that stand for themselves stay as they are. -/
theorem flatMap_eq_self {f : Char → List Char} {cs : List Char} (h : ∀ c ∈ cs, f c = [c]) :
    cs.flatMap f = cs := by
  induction cs with
  | nil => rfl
  | cons c cs ih =>
    rw [List.flatMap_cons, h c List.mem_cons_self, ih fun c hc => h c (List.mem_cons_of_mem _ hc),
      List.singleton_append]

theorem flatMap_markupChar_of_safe {cs : List Char} (h : ∀ c ∈ cs, unsafeInMarkup c = false) :
    cs.flatMap markupChar = cs := flatMap_eq_self fun c hc => markupChar_of_safe (h c hc)

theorem flatMap_markupChar_unit {a b c d : Char} (hex : (hexNumber? a b c d).isSome) (cs : List Char) :
    ('\\' :: 'u' :: a :: b :: c :: d :: cs).flatMap markupChar =
      '\\' :: 'u' :: a :: b :: c :: d :: cs.flatMap markupChar := by
  obtain ⟨ha, hb, hc, hd⟩ := isSome_of_hexNumber? hex
  have hsafe : ∀ x ∈ ['\\', 'u', a, b, c, d], unsafeInMarkup x = false := by
    intro x hx
    simp only [List.mem_cons, List.not_mem_nil, or_false] at hx
    rcases hx with rfl | rfl | rfl | rfl | rfl | rfl
    · decide
    · decide
    all_goals exact unsafeInMarkup_of_hexValue? (by assumption)
  have happend : '\\' :: 'u' :: a :: b :: c :: d :: cs = ['\\', 'u', a, b, c, d] ++ cs := rfl
  rw [happend, List.flatMap_append, flatMap_markupChar_of_safe hsafe]
  rfl

theorem flatMap_markupChar_letter {c : Char} (hc : c ∈ ['"', '\\', '/', 'b', 'f', 'n', 'r', 't'])
    (cs : List Char) : ('\\' :: c :: cs).flatMap markupChar = '\\' :: c :: cs.flatMap markupChar := by
  have hall : ∀ c ∈ ['"', '\\', '/', 'b', 'f', 'n', 'r', 't'], unsafeInMarkup c = false :=
    List.all_iff_forall_prop.1 (by decide)
  rw [List.flatMap_cons, List.flatMap_cons, markupChar_of_safe (by decide), markupChar_of_safe (hall c hc)]
  rfl

/-- A body stays one when what markup would misread is escaped. -/
theorem IsBody.markup {body : List Char} (h : IsBody body) : IsBody (body.flatMap markupChar) := by
  induction h with
  | nil => exact .nil
  | unit hex _ ih => rw [flatMap_markupChar_unit hex]; exact .unit hex ih
  | letter hc _ ih => rw [flatMap_markupChar_letter hc]; exact .letter hc ih
  | @plain c cs control quote slash _ ih =>
    rw [List.flatMap_cons]
    cases hsafe : unsafeInMarkup c with
    | false => rw [markupChar_of_safe hsafe]; exact .plain control quote slash ih
    | true =>
      rw [markupChar, hsafe]
      exact isBody_unicodeEscape (Nat.lt_trans (toNat_lt_of_unsafeInMarkup hsafe) (by decide)) ih

/-! ## What an escaped body reads as -/

theorem nextUnit?_letter {c : Char} (h : c ≠ 'u') (cs : List Char) : nextUnit? ('\\' :: c :: cs) = none := by
  rw [nextUnit?]
  intro _ _ _ _ _ hc
  exact absurd (List.cons.inj (List.cons.inj hc).2).1 h

theorem nextUnit?_plain {c : Char} (h : c ≠ '\\') (cs : List Char) : nextUnit? (c :: cs) = none := by
  rw [nextUnit?]
  intro _ _ _ _ _ hc
  exact absurd (List.cons.inj hc).1 h

/-- A second half of a pair stands at the front of a body before and after what markup would misread is
escaped. -/
theorem nextPair_markup {body : List Char} (h : IsBody body) (unit : Nat) :
    (nextUnit? (body.flatMap markupChar)).bind (pairChar? unit) = (nextUnit? body).bind (pairChar? unit) := by
  cases h with
  | nil => rfl
  | unit hex _ => rw [flatMap_markupChar_unit hex]; rfl
  | letter hc _ =>
    have hu := letter_ne_u hc
    rw [flatMap_markupChar_letter hc, nextUnit?_letter hu, nextUnit?_letter hu]
  | @plain c cs _ _ slash _ =>
    rw [List.flatMap_cons, nextUnit?_plain slash]
    cases hsafe : unsafeInMarkup c with
    | false => rw [markupChar_of_safe hsafe, List.singleton_append, nextUnit?_plain slash]
    | true =>
      -- An escape takes the place of the character, but what it stands for pairs with nothing.
      have hlt := toNat_lt_of_unsafeInMarkup hsafe
      obtain ⟨a, b, c', d, hchars, hnum⟩ := hexNumber?_hexChars (Nat.lt_trans hlt (by decide : _ < 65536))
      simp only [markupChar, hsafe, if_true, unicodeEscape, hchars, List.cons_append, List.nil_append,
        nextUnit?, hnum, Option.bind_some, Option.bind_none, pairChar?_of_low_lt hlt]

/-- A body that begins with a unit has a body after it. -/
theorem IsBody.of_unit {a b c d : Char} {cs : List Char}
    (h : IsBody ('\\' :: 'u' :: a :: b :: c :: d :: cs)) : (hexNumber? a b c d).isSome ∧ IsBody cs := by
  cases h with
  | unit hex h => exact ⟨hex, h⟩
  | letter hc _ => exact absurd rfl (letter_ne_u hc)
  | plain _ _ slash _ => exact absurd rfl slash

theorem eq_of_nextUnit? {cs : List Char} {n : Nat} (h : nextUnit? cs = some n) :
    ∃ a b c d rest, cs = '\\' :: 'u' :: a :: b :: c :: d :: rest := by
  unfold nextUnit? at h
  split at h
  · exact ⟨_, _, _, _, _, rfl⟩
  · cases h

/-- **Escaping for markup** does not change what a body reads as. -/
theorem unescapeChars_markup {body : List Char} (h : IsBody body) :
    unescapeChars (body.flatMap markupChar) = unescapeChars body := by
  -- A pair takes two escapes at once, so the induction is on the length.
  induction hlen : body.length using Nat.strongRecOn generalizing body with
  | ind n ih =>
    subst hlen
    cases h with
    | nil => rfl
    | @unit a b c d cs hex h =>
      obtain ⟨unit, hunit⟩ := Option.isSome_iff_exists.1 hex
      rw [flatMap_markupChar_unit hex, unescapeChars_unit hunit, unescapeChars_unit hunit, nextPair_markup h]
      cases hpair : (nextUnit? cs).bind (pairChar? unit) with
      | none => rw [Option.elim_none, Option.elim_none, ih cs.length (by simp only [List.length_cons]; omega) h rfl]
      | some paired =>
        obtain ⟨low, hlow, -⟩ := Option.bind_eq_some_iff.1 hpair
        obtain ⟨a', b', c', d', rest, rfl⟩ := eq_of_nextUnit? hlow
        obtain ⟨hex', h'⟩ := h.of_unit
        rw [flatMap_markupChar_unit hex']
        simp only [Option.elim_some, List.drop_succ_cons, List.drop_zero,
          ih rest.length (by simp only [List.length_cons]; omega) h' rfl]
    | @letter c cs hc h =>
      have hu := letter_ne_u hc
      rw [flatMap_markupChar_letter hc, unescapeChars_letter hu, unescapeChars_letter hu,
        ih cs.length (by simp only [List.length_cons]; omega) h rfl]
    | @plain c cs _ _ slash h =>
      rw [List.flatMap_cons, unescapeChars_plain slash]
      have ih := ih cs.length (by simp) h rfl
      cases hsafe : unsafeInMarkup c with
      | false => rw [markupChar_of_safe hsafe, List.singleton_append, unescapeChars_plain slash, ih]
      | true =>
        rw [markupChar, hsafe, if_pos rfl, unescapeChars_unicodeEscape (toNat_lt_of_unsafeInMarkup hsafe),
          Char.ofNat_toNat, ih]

theorem unescape_escapeMarkup {body : String} (h : IsBody body.toList) :
    unescape (escapeMarkup body) = unescape body := by
  rw [unescape, toList_escapeMarkup, unescapeChars_markup h, unescape]

/-! ## Escaped texts -/

theorem escapeChar_cases (c : Char) :
    (∃ l ∈ ['"', '\\', '/', 'b', 'f', 'n', 'r', 't'], escapeChar c = ['\\', l] ∧ letterEscape l = c) ∨
      c.toNat < 0xD800 ∧ escapeChar c = unicodeEscape c.toNat ∨
      0x20 ≤ c.toNat ∧ c ≠ '"' ∧ c ≠ '\\' ∧ unsafeInMarkup c = false ∧ escapeChar c = [c] := by
  have hchar {n : Nat} (hn : c.toNat = n) : c = Char.ofNat n := by rw [← hn, Char.ofNat_toNat]
  rw [escapeChar]
  by_cases hquote : c = '"'
  · exact .inl ⟨'"', by decide, if_pos hquote, by rw [hquote]; decide⟩
  by_cases hslash : c = '\\'
  · exact .inl ⟨'\\', by decide, by rw [if_neg hquote, if_pos hslash], by rw [hslash]; decide⟩
  rw [if_neg hquote, if_neg hslash]
  by_cases hn : c = '\n'
  · exact .inl ⟨'n', by decide, if_pos hn, by rw [hn]; decide⟩
  rw [if_neg hn]
  by_cases hr : c = '\r'
  · exact .inl ⟨'r', by decide, if_pos hr, by rw [hr]; decide⟩
  rw [if_neg hr]
  by_cases ht : c = '\t'
  · exact .inl ⟨'t', by decide, if_pos ht, by rw [ht]; decide⟩
  rw [if_neg ht]
  by_cases hb : c.toNat = 8
  · exact .inl ⟨'b', by decide, if_pos hb, by rw [hchar hb]; decide⟩
  rw [if_neg hb]
  by_cases hf : c.toNat = 12
  · exact .inl ⟨'f', by decide, if_pos hf, by rw [hchar hf]; decide⟩
  rw [if_neg hf]
  by_cases hother : (c.toNat < 0x20 || unsafeInMarkup c) = true
  · rw [if_pos hother]
    rw [Bool.or_eq_true, decide_eq_true_eq] at hother
    refine .inr (.inl ⟨?_, rfl⟩)
    rcases hother with hother | hother
    · exact Nat.lt_trans hother (by decide)
    · exact toNat_lt_of_unsafeInMarkup hother
  · rw [if_neg hother]
    rw [Bool.or_eq_true, not_or, decide_eq_true_eq, Nat.not_lt, Bool.not_eq_true] at hother
    exact .inr (.inr ⟨hother.1, hquote, hslash, hother.2, rfl⟩)

theorem unescapeChars_escapeChar (c : Char) (cs : List Char) :
    unescapeChars (escapeChar c ++ cs) = c :: unescapeChars cs := by
  rcases escapeChar_cases c with ⟨l, hl, heq, hc⟩ | ⟨hlt, heq⟩ | ⟨_, _, hslash, _, heq⟩
  · rw [heq, List.cons_append, List.singleton_append, unescapeChars_letter (letter_ne_u hl), hc]
  · rw [heq, unescapeChars_unicodeEscape hlt, Char.ofNat_toNat]
  · rw [heq, List.singleton_append, unescapeChars_plain hslash]

theorem isBody_escapeChar (c : Char) {cs : List Char} (h : IsBody cs) : IsBody (escapeChar c ++ cs) := by
  rcases escapeChar_cases c with ⟨l, hl, heq, -⟩ | ⟨hlt, heq⟩ | ⟨hcontrol, hquote, hslash, _, heq⟩
  · rw [heq]; exact .letter hl h
  · rw [heq]; exact isBody_unicodeEscape (Nat.lt_trans hlt (by decide)) h
  · rw [heq]; exact .plain hcontrol hquote hslash h

theorem markup_escapeChar (c : Char) : (escapeChar c).flatMap markupChar = escapeChar c := by
  rcases escapeChar_cases c with ⟨l, hl, heq, -⟩ | ⟨hlt, heq⟩ | ⟨_, _, _, hsafe, heq⟩
  · rw [heq, flatMap_markupChar_letter hl]; rfl
  · obtain ⟨a, b, c', d, hchars, hnum⟩ := hexNumber?_hexChars (Nat.lt_trans hlt (by decide : _ < 65536))
    rw [heq, unicodeEscape, hchars, flatMap_markupChar_unit (by simp [hnum])]
    rfl
  · rw [heq, flatMap_markupChar_of_safe (by simpa using hsafe)]

/-- An escaped text is a body. -/
theorem isBody_escape (s : String) : IsBody (escape s).toList := by
  rw [escape, String.toList_ofList]
  induction s.toList with
  | nil => exact .nil
  | cons c cs ih => rw [List.flatMap_cons]; exact isBody_escapeChar c ih

/-- **An escaped text** reads as the text. -/
theorem unescape_escape (s : String) : unescape (escape s) = s := by
  have hchars (cs : List Char) : unescapeChars (cs.flatMap escapeChar) = cs := by
    induction cs with
    | nil => rw [List.flatMap_nil, unescapeChars]
    | cons c cs ih => rw [List.flatMap_cons, unescapeChars_escapeChar, ih]
  rw [unescape, escape, String.toList_ofList, hchars, String.ofList_toList]

/-- An escaped text holds nothing that markup would misread. -/
theorem escapeMarkup_escape (s : String) : escapeMarkup (escape s) = escape s := by
  have hchars (cs : List Char) : (cs.flatMap escapeChar).flatMap markupChar = cs.flatMap escapeChar := by
    induction cs with
    | nil => rfl
    | cons c cs ih => rw [List.flatMap_cons, List.flatMap_append, markup_escapeChar, ih]
  have hlist : (escapeMarkup (escape s)).toList = (escape s).toList := by
    rw [toList_escapeMarkup, escape, String.toList_ofList, hchars]
  exact String.toList_inj.1 hlist

/-- A text without anything to escape stays as it is. -/
theorem escape_eq_self {s : String} (h : ∀ c ∈ s.toList, escapeChar c = [c]) : escape s = s := by
  rw [escape, flatMap_eq_self h, String.ofList_toList]

end Triage.Json
