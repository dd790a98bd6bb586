import Triage.Finding.Document
import Triage.Proofs.Json.Grammar
import Triage.Proofs.Number.Digits

/-!
# Written numbers are numbers of JSON

Whole numbers, and finite doubles in the layout of JSON, are written as the grammar of numbers asks for:
no zero stands in front of another digit, and there are digits on both sides of a point. Main statements:
`isNumber_write`, `isNumber_toString`.
-/
namespace Triage.Number

open Json (Digits IsWhole IsFraction IsPower IsMagnitude IsNumber)

/-! ## Digits -/

theorem digits_of_isDigit {cs : List Char} (hne : cs ≠ []) (h : ∀ c ∈ cs, c.isDigit = true) : Digits cs := by
  refine ⟨hne, fun c hc => ?_⟩
  rw [Json.isDigit, digitValue?_of_isDigit (h c hc)]
  rfl

theorem isDigit_of_mem_digitChars {n : Nat} {c : Char} (h : c ∈ digitChars n) : c.isDigit = true :=
  Nat.isDigit_of_mem_toDigits (by decide) (by decide) h

theorem digits_digitChars (n : Nat) : Digits (digitChars n) :=
  digits_of_isDigit Nat.toDigits_ne_nil fun _ => isDigit_of_mem_digitChars

theorem digits_zeros_append (k n : Nat) : Digits (List.replicate k '0' ++ digitChars n) := by
  refine digits_of_isDigit (by simp [digitChars, Nat.toDigits_ne_nil]) fun c hc => ?_
  rcases List.mem_append.1 hc with hc | hc
  · rw [List.eq_of_mem_replicate hc]
    rfl
  · exact isDigit_of_mem_digitChars hc

/-- A number other than zero does not begin with one. -/
theorem head?_digitChars {n : Nat} (h : n ≠ 0) : (digitChars n).head? ≠ some '0' := by
  induction n using Nat.strongRecOn with
  | ind n ih =>
    by_cases hsmall : n < 10
    · have hall : ∀ n < 10, n ≠ 0 → Nat.digitChar n ≠ '0' := by decide
      rw [digitChars, Nat.toDigits_of_lt_base hsmall]
      simpa using hall n hsmall h
    · -- The first digit is that of the number without its last one.
      obtain ⟨c, cs, hcs⟩ := List.exists_cons_of_ne_nil (digits_digitChars (n / 10)).1
      have hrest := ih (n / 10) (by omega) (by omega)
      rw [hcs] at hrest
      have hsplit : digitChars n = digitChars (n / 10) ++ digitChars (n % 10) := by
        rw [digitChars, Nat.toDigits_of_base_le (by decide) (by omega), digitChars, digitChars,
          Nat.toDigits_of_lt_base (Nat.mod_lt n (by decide))]
      rw [hsplit, hcs]
      exact hrest

theorem isWhole_digitChars (n : Nat) : IsWhole (digitChars n) := by
  by_cases h : n = 0
  · subst h
    exact .inl rfl
  · exact .inr ⟨digits_digitChars n, head?_digitChars h⟩

/-! ## The shortest decimal -/

theorem digits_stripZeros {fuel d : Nat} {e : Int} (h : d ≠ 0) : (stripZeros fuel d e).digits ≠ 0 := by
  induction fuel generalizing d e with
  | zero => exact h
  | succ fuel ih =>
    unfold stripZeros
    split
    · exact ih (by omega)
    · exact h

/-- A decimal of the grid lies in the interval. -/
theorem holds_of_onGrid {i : Interval} {up down n d : Nat} {lead exponent : Int} (hup : 0 < up)
    (h : onGrid i up down lead n = some (d, exponent)) :
    ∃ num den, 0 < den ∧ i.holds (d * num) den = true := by
  have hden : 0 < (if 0 ≤ lead + 1 - Int.ofNat n then 1 else Nat.pow 10 (lead + 1 - Int.ofNat n).natAbs) * up := by
    refine Nat.mul_pos ?_ hup
    split
    · exact Nat.one_pos
    · exact Nat.pow_pos (by decide)
  simp only [onGrid] at h
  generalize (if 0 ≤ lead + 1 - Int.ofNat n then 1 else Nat.pow 10 (lead + 1 - Int.ofNat n).natAbs) * up = den
    at h hden
  generalize (if 0 ≤ lead + 1 - Int.ofNat n then Nat.pow 10 (lead + 1 - Int.ofNat n).natAbs else 1) * down = num
    at h
  refine ⟨num, den, hden, ?_⟩
  split at h
  · rename_i hbelow
    cases h
    exact (Bool.and_eq_true_iff.1 hbelow).1
  · split at h
    · rename_i habove
      cases h
      exact habove
    · cases h

/-- Zero is not in the interval of another double. -/
theorem holds_interval_zero {m den : Nat} {e : Int} (hm : m ≠ 0) (hden : 0 < den) :
    (interval m e).holds 0 den = false := by
  have hlow : 0 < (interval m e).low := by
    simp only [interval]
    split <;> omega
  have hpos : 0 < (interval m e).low * den := Nat.mul_pos hlow hden
  unfold Interval.holds
  split
  · simp only [Bool.and_eq_false_iff, decide_eq_false_iff_not]
    omega
  · simp only [Bool.and_eq_false_iff, decide_eq_false_iff_not]
    omega

theorem firstGrid_eq_or {m up down : Nat} {e lead : Int} (hm : m ≠ 0) (hup : 0 < up) (fuel n : Nat) :
    firstGrid (interval m e) up down lead fuel n = (0, 0) ∨
      (firstGrid (interval m e) up down lead fuel n).1 ≠ 0 := by
  induction fuel generalizing n with
  | zero => exact .inl rfl
  | succ fuel ih =>
    unfold firstGrid
    cases hgrid : onGrid (interval m e) up down lead n with
    | none => exact ih (n + 1)
    | some d =>
      refine .inr ?_
      obtain ⟨num, den, hden, hholds⟩ := holds_of_onGrid hup hgrid
      intro hzero
      have hzero : d.1 = 0 := hzero
      rw [hzero, Nat.zero_mul, holds_interval_zero hm hden] at hholds
      cases hholds

/-- The shortest decimal has digits other than zero, if it is not plain zero. -/
theorem shortest_eq_or {m : Nat} (hm : m ≠ 0) (e : Int) :
    shortest m e = ⟨0, 0⟩ ∨ (shortest m e).digits ≠ 0 := by
  unfold shortest
  rw [if_neg hm]
  dsimp only
  generalize hup : (if 0 ≤ e - 2 then Nat.pow 2 (e - 2).natAbs else 1) = up
  have hpos : 0 < up := by
    rw [← hup]
    split
    · exact Nat.pow_pos (by decide)
    · exact Nat.one_pos
  rcases firstGrid_eq_or hm hpos 17 1 with hzero | hne
  · rw [hzero]
    exact .inl rfl
  · exact .inr (digits_stripZeros hne)

/-! ## Layouts -/

/-- Digits with a first one other than zero stay a whole part when digits follow. -/
theorem isWhole_append {ds more : List Char} (hds : Digits ds) (hhead : ds.head? ≠ some '0')
    (hmore : ∀ c ∈ more, c.isDigit = true) : IsWhole (ds ++ more) := by
  obtain ⟨c, cs, rfl, hc⟩ := hds.head?
  refine .inr ⟨⟨List.cons_ne_nil _ _, fun d hd => ?_⟩, hhead⟩
  rcases List.mem_append.1 hd with hd | hd
  · exact hds.2 d hd
  · rw [Json.isDigit, digitValue?_of_isDigit (hmore d hd)]
    rfl

theorem isMagnitude_positional {d : Decimal} (h : d.digits ≠ 0) : IsMagnitude (positional d) := by
  have hds := digits_digitChars d.digits
  have hhead := head?_digitChars h
  simp only [positional]
  split
  · refine ⟨_, [], [], isWhole_append hds hhead fun c hc => ?_, .inl rfl, .inl rfl, (List.append_nil _).symm⟩
    rw [List.eq_of_mem_replicate hc]
    rfl
  rename_i hexponent
  split
  · -- The point stands between two digits.
    rename_i hplaces
    have hlead : 0 < (digitChars d.digits).length - d.exponent.natAbs := by omega
    have hdecimals : (digitChars d.digits).length - d.exponent.natAbs < (digitChars d.digits).length := by omega
    generalize (digitChars d.digits).length - d.exponent.natAbs = lead at hlead hdecimals
    refine ⟨(digitChars d.digits).take lead, '.' :: (digitChars d.digits).drop lead, [],
      .inr ⟨⟨?_, fun x hx => hds.2 x (List.mem_of_mem_take hx)⟩, ?_⟩,
      .inr ⟨_, ⟨?_, fun x hx => hds.2 x (List.mem_of_mem_drop hx)⟩, rfl⟩, .inl rfl, by simp⟩
    · rw [Ne, List.take_eq_nil_iff]
      rintro (hzero | hnil)
      · omega
      · exact hds.1 hnil
    · rwa [List.head?_take, if_neg (by omega)]
    · rw [Ne, List.drop_eq_nil_iff]
      omega
  · exact ⟨['0'], _, [], .inl rfl, .inr ⟨_, digits_zeros_append _ _, rfl⟩, .inl rfl,
      congrArg ('0' :: ·) (List.append_nil _).symm⟩

theorem isMagnitude_scientific {d : Decimal} (h : d.digits ≠ 0) (width : Nat) (lead : Int) :
    IsMagnitude (scientific width d lead) := by
  have hds := digits_digitChars d.digits
  have hhead := head?_digitChars h
  have hpower : IsPower ('e' :: (if lead < 0 then '-' else '+') :: zeroPadded width lead.natAbs) := by
    refine .inr ⟨'e', [if lead < 0 then '-' else '+'], _, .inl rfl, ?_, digits_zeros_append _ _, rfl⟩
    split
    · exact .inr (.inr rfl)
    · exact .inr (.inl rfl)
  obtain ⟨c, cs, hcs, hc⟩ := hds.head?
  simp only [scientific, hcs]
  rw [hcs] at hds hhead
  have hfirst : IsWhole [c] := .inr ⟨⟨List.cons_ne_nil _ _, by simpa using hc⟩, hhead⟩
  cases cs with
  | nil => exact ⟨[c], [], _, hfirst, .inl rfl, hpower, rfl⟩
  | cons c' cs =>
    have hdecimals : Digits (c' :: cs) := ⟨List.cons_ne_nil _ _, fun x hx => hds.2 x (List.mem_cons_of_mem _ hx)⟩
    exact ⟨[c], '.' :: c' :: cs, _, hfirst, .inr ⟨_, hdecimals, rfl⟩, hpower, rfl⟩

theorem isMagnitude_zero : IsMagnitude ['0'] := ⟨['0'], [], [], .inl rfl, .inl rfl, .inl rfl, rfl⟩

/-- **A finite double is written as a number.** -/
theorem isNumber_write {x : Float} (h : isFinite x = true) : IsNumber (Layout.json.write x).toList := by
  unfold isFinite at h
  unfold Layout.write
  split at h
  · rename_i negative m e hparts
    rw [hparts]
    simp only [String.toList_ofList, Layout.finite]
    have hbody : IsMagnitude (if m = 0 then ['0']
        else if Int.ofNat (digitCount (shortest m e).digits) - 1 + (shortest m e).exponent < Layout.json.least ||
          Layout.json.beyond ≤ Int.ofNat (digitCount (shortest m e).digits) - 1 + (shortest m e).exponent then
          scientific Layout.json.exponentDigits (shortest m e)
            (Int.ofNat (digitCount (shortest m e).digits) - 1 + (shortest m e).exponent)
        else positional (shortest m e)) := by
      split
      · exact isMagnitude_zero
      · rename_i hm
        rcases shortest_eq_or hm e with hzero | hne
        · rw [hzero]
          exact isMagnitude_zero
        · split
          · exact isMagnitude_scientific hne _ _
          · exact isMagnitude_positional hne
    split
    · exact .inr ⟨_, hbody, rfl⟩
    · exact .inl hbody
  · cases h

/-- **A whole number is written as a number.** -/
theorem isNumber_toString (n : Int) : IsNumber (toString n).toList := by
  have hnat (k : Nat) : IsMagnitude k.repr.toList := by
    rw [Nat.toList_repr]
    exact ⟨_, [], [], isWhole_digitChars k, .inl rfl, .inl rfl, by simp [digitChars]⟩
  cases n with
  | ofNat k => exact .inl (hnat k)
  | negSucc k =>
    refine .inr ⟨_, hnat (k + 1), ?_⟩
    rw [show toString (Int.negSucc k) = "-" ++ (k + 1).repr from rfl]
    simp

end Triage.Number
