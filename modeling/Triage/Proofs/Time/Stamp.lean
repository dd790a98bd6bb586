import Mathlib.Data.Bool.AllAny
import Mathlib.Data.List.TakeDrop
import Triage.Proofs.Number.Digits
import Triage.Proofs.Time.Calendar

/-!
# Stamps that are written are read again

A stamp with a written form is read from it as the same stamp (`parse?_text`): the date by the calendar,
the time of day by digits of a fixed width, the fraction by as many digits as are needed, and the offset
in hours and minutes. Stamps that were read have an offset in whole minutes (`whole_of_parse?`).
-/
namespace Triage.Time

/-! ## Fractions -/

/-- A text is what is left without its last zeros, and these zeros. -/
theorem exists_trailing_zeros (cs : List Char) :
    ∃ k, cs = (cs.reverse.dropWhile (· == '0')).reverse ++ List.replicate k '0' := by
  have hzeros : cs.reverse.takeWhile (· == '0') =
      List.replicate (cs.reverse.takeWhile (· == '0')).length '0' := by
    refine List.eq_replicate_of_mem fun c hc => ?_
    simpa using List.all_eq_true.1 List.all_takeWhile c hc
  refine ⟨(cs.reverse.takeWhile (· == '0')).length, ?_⟩
  have hsplit : cs.reverse = cs.reverse.takeWhile (· == '0') ++ cs.reverse.dropWhile (· == '0') :=
    List.takeWhile_append_dropWhile.symm
  calc cs = cs.reverse.reverse := cs.reverse_reverse.symm
    _ = (cs.reverse.dropWhile (· == '0')).reverse ++ (cs.reverse.takeWhile (· == '0')).reverse := by
      rw [← List.reverse_append, ← hsplit]
    _ = _ := by rw [hzeros, List.reverse_replicate, List.length_replicate]

/-- Digits after a point are read as that part of a second. -/
theorem readFraction_digits {ds rest : List Char} (hds : ds ≠ []) (hdigits : ∀ c ∈ ds, c.isDigit = true)
    (hlength : ds.length ≤ 9) (hrest : ∀ c ∈ rest.head?, c.isDigit = false) :
    readFraction ('.' :: (ds ++ rest)) = (Nat.ofDigitChars 10 ds 0 * Nat.pow 10 (9 - ds.length), rest) := by
  have hsome : ∀ c ∈ ds, (Number.digitValue? c).isSome = true := by
    intro c hc
    rw [Number.digitValue?_of_isDigit (hdigits c hc)]
    rfl
  have hspan : (ds ++ rest).span (fun d => (Number.digitValue? d).isSome) = (ds, rest) := by
    rw [List.span_eq_takeWhile_dropWhile, List.takeWhile_append_of_pos hsome,
      List.dropWhile_append_of_pos hsome]
    cases rest with
    | nil => simp
    | cons c rest =>
      have hc : (Number.digitValue? c).isSome = false := by
        refine Bool.eq_false_iff.2 fun h => ?_
        have hdigit := Number.isDigit_of_digitValue? h
        rw [hrest c rfl] at hdigit
        cases hdigit
      simp [hc]
  have hvalues : (ds.filterMap Number.digitValue?).length = ds.length := by
    rw [List.filterMap_length_eq_length]
    exact hsome
  have htake : (ds.filterMap Number.digitValue?).take 9 = ds.filterMap Number.digitValue? :=
    List.take_of_length_le (by omega)
  have hne : ds.isEmpty = false := by simpa using hds
  simp only [readFraction, hspan, hne, Bool.not_false, true_or, and_self, if_true, htake, hvalues,
    Number.digitsToNat_filterMap hdigits]

/-- What follows a fraction: the offset. -/
def BeginsOffset (cs : List Char) : Prop := ∃ c tail, cs = c :: tail ∧ c ∈ ['Z', '+', '-']

theorem readFraction_beginsOffset {cs : List Char} (h : BeginsOffset cs) : readFraction cs = (0, cs) := by
  obtain ⟨c, tail, rfl, hc⟩ := h
  have hpoint : ¬ (c = '.' ∨ c = ',') := by
    have hall : ∀ c ∈ ['Z', '+', '-'], ¬ (c = '.' ∨ c = ',') := List.all_iff_forall_prop.1 (by decide)
    exact hall c hc
  simp [readFraction, hpoint]

theorem readFraction_fractionText (s : Stamp) {rest : List Char} (hrest : BeginsOffset rest) :
    readFraction (s.fractionText.toList ++ rest) = ((s.instant.nanos % 1000000000).toNat, rest) := by
  obtain ⟨n, hn⟩ : ∃ n, n = (s.instant.nanos % 1000000000).toNat := ⟨_, rfl⟩
  obtain ⟨ds, hds⟩ : ∃ ds, ds = ((Number.zeroPadded 9 n).reverse.dropWhile (· == '0')).reverse := ⟨_, rfl⟩
  have hlt : n < 1000000000 := by omega
  have hlength : (Number.zeroPadded 9 n).length = 9 := Number.length_zeroPadded (by decide) hlt
  obtain ⟨k, hk⟩ := exists_trailing_zeros (Number.zeroPadded 9 n)
  rw [← hds] at hk
  have hk9 : ds.length + k = 9 := by
    rw [← hlength, hk, List.length_append, List.length_replicate]
  have hvalue : Nat.ofDigitChars 10 ds 0 * Nat.pow 10 k = n := by
    have hpadded := Number.ofDigitChars_zeroPadded 9 n
    rwa [hk, Nat.ofDigitChars_append, Nat.ofDigitChars_replicate_zero, Nat.mul_comm] at hpadded
  simp only [Stamp.fractionText, ← hn, ← hds]
  split
  · rename_i hempty
    rw [List.isEmpty_iff] at hempty
    subst hempty
    have hzero : n = 0 := by rw [← hvalue]; simp
    rw [hzero]
    exact readFraction_beginsOffset hrest
  · rename_i hne
    have hdigits : ∀ c ∈ ds, c.isDigit = true := by
      intro c hc
      have hmem : c ∈ Number.zeroPadded 9 n := by rw [hk]; exact List.mem_append_left _ hc
      exact Number.isDigit_of_mem_zeroPadded hmem
    have hafter : ∀ c ∈ rest.head?, c.isDigit = false := by
      obtain ⟨c, tail, rfl, hc⟩ := hrest
      intro x hx
      cases hx
      have hall : ∀ c ∈ ['Z', '+', '-'], c.isDigit = false := List.all_iff_forall_prop.1 (by decide)
      exact hall c hc
    rw [String.toList_ofList, List.cons_append,
      readFraction_digits (by simpa using hne) hdigits (by omega) hafter, ← hvalue,
      show 9 - ds.length = k by omega]

/-! ## Offsets -/

theorem beginsOffset_offsetText (offset : Int) : BeginsOffset (Stamp.offsetText offset).toList := by
  unfold Stamp.offsetText
  split
  · exact ⟨'Z', [], rfl, by decide⟩
  · split
    · simp only [String.toList_append]
      exact ⟨'-', _, rfl, by decide⟩
    · simp only [String.toList_append]
      exact ⟨'+', _, rfl, by decide⟩

theorem toList_twoDigits (n : Int) : (twoDigits n).toList = Number.zeroPadded 2 n.natAbs :=
  String.toList_ofList

theorem readOffset_signed {c : Char} {sign : Int} (hc : c = '-' ∧ sign = -1 ∨ c = '+' ∧ sign = 1)
    {hours minutes : Nat} (hhours : hours < 24) (hminutes : minutes < 60) :
    readOffset (c :: (Number.zeroPadded 2 hours ++ ':' :: Number.zeroPadded 2 minutes)) =
      some (sign * (Int.ofNat hours * 3600 + Int.ofNat minutes * 60), []) := by
  have hread := readFixed_zeroPadded (by decide : 0 < 2) (Nat.lt_trans hhours (by decide))
    (':' :: Number.zeroPadded 2 minutes)
  have hread' := readFixed_zeroPadded (by decide : 0 < 2) (Nat.lt_trans hminutes (by decide)) []
  rw [List.append_nil] at hread'
  have hrange : ¬ (24 < hours ∨ 60 < minutes) := by omega
  rcases hc with ⟨rfl, rfl⟩ | ⟨rfl, rfl⟩
  · simp [readOffset, readMark, hread, hread', hrange]
  · simp [readOffset, readMark, hread, hread', hrange]

/-- An offset of less than a day in whole minutes is read again. -/
theorem readOffset_offsetText {offset : Int} (hday : offset.natAbs < 86400) (hwhole : offset % 60 = 0) :
    readOffset (Stamp.offsetText offset).toList = some (offset, []) := by
  unfold Stamp.offsetText
  split
  · rename_i hzero
    rw [hzero]
    rfl
  · have hhours : ((offset.natAbs / 60 : Nat) / 60 : Int).natAbs < 24 := by omega
    have hminutes : ((offset.natAbs / 60 : Nat) % 60 : Int).natAbs < 60 := by omega
    simp only [String.toList_append, toList_twoDigits, List.append_assoc]
    split
    · refine (readOffset_signed (.inl ⟨rfl, rfl⟩) hhours hminutes).trans ?_
      simp only [Int.ofNat_eq_natCast, Option.some.injEq, Prod.mk.injEq, and_true]
      omega
    · refine (readOffset_signed (.inr ⟨rfl, rfl⟩) hhours hminutes).trans ?_
      simp only [Int.ofNat_eq_natCast, Option.some.injEq, Prod.mk.injEq, and_true]
      omega

/-- An offset that was read is a number of whole minutes. -/
theorem whole_of_readOffset {cs rest : List Char} {offset : Int} (h : readOffset cs = some (offset, rest)) :
    offset % 60 = 0 := by
  have hwhole (sign : Int) (hours minutes : Nat) :
      (sign * (Int.ofNat hours * 3600 + Int.ofNat minutes * 60)) % 60 = 0 := by
    have hfactor : sign * (Int.ofNat hours * 3600 + Int.ofNat minutes * 60) =
        60 * (sign * (Int.ofNat hours * 60 + Int.ofNat minutes)) := by
      rw [Int.mul_left_comm]
      congr 1
      omega
    rw [hfactor, Int.mul_emod_right]
  unfold readOffset at h
  split at h
  · cases h
    rfl
  · simp only [bind, pure] at h
    split at h
    · simp only [Option.bind_eq_some_iff, Option.some.injEq, Prod.exists, Option.ite_none_left_eq_some,
        Prod.mk.injEq] at h
      obtain ⟨sign, -, hours, _, -, _, -, minutes, _, -, -, rfl, -⟩ := h
      exact hwhole sign hours minutes
    · split at h
      · simp only [Option.bind_eq_some_iff, Option.some.injEq, Prod.exists, Option.ite_none_left_eq_some,
          Prod.mk.injEq] at h
        obtain ⟨sign, -, hours, _, -, _, -, minutes, _, -, -, rfl, -⟩ := h
        exact hwhole sign hours minutes
      · cases h
  · cases h

/-! ## Stamps -/

namespace Stamp

/-- The offset is a number of whole minutes, as it is for stamps that were read. -/
def Whole (s : Stamp) : Prop := s.offset % 60 = 0

theorem whole_universal (t : Instant) : Whole ⟨t, 0⟩ := rfl

/-- What a written stamp consists of. -/
theorem toList_text {s : Stamp} (hyear : 0 ≤ s.date.year) :
    s.text.toList =
      Number.zeroPadded 4 s.date.year.natAbs ++ '-' :: (Number.zeroPadded 2 s.date.month ++
      '-' :: (Number.zeroPadded 2 s.date.day ++ 'T' ::
      (Number.zeroPadded 2 (s.clockSeconds % 86400 / 3600).natAbs ++ ':' ::
      (Number.zeroPadded 2 (s.clockSeconds % 86400 / 60 % 60).natAbs ++ ':' ::
      (Number.zeroPadded 2 (s.clockSeconds % 86400 % 60).natAbs ++
      (s.fractionText.toList ++ (offsetText s.offset).toList)))))) := by
  have hyearText : (yearText s.date.year).toList = Number.zeroPadded 4 s.date.year.natAbs := by
    rw [yearText, if_neg (Int.not_lt.2 hyear), String.empty_append, String.toList_ofList]
  have hdash : "-".toList = ['-'] := rfl
  have hcolon : ":".toList = [':'] := rfl
  have htee : "T".toList = ['T'] := rfl
  simp only [text, secondsText, Date.text, String.toList_append, toList_twoDigits, hyearText, hdash, hcolon,
    htee, Int.natAbs_natCast, List.append_assoc, List.cons_append, List.nil_append]

theorem month_le_of_isValid {d : Date} (h : d.isValid = true) : d.month ≤ 12 ∧ d.day ≤ 31 := by
  simp only [Date.isValid, Bool.and_eq_true, decide_eq_true_eq] at h
  have hdays : daysInMonth d.year d.month ≤ 31 := by
    unfold daysInMonth
    split
    · split <;> decide
    · split <;> decide
  omega

/-- A stamp is the instant of what its clock shows. -/
theorem ofClock_eq (s : Stamp) (nanos : Nat) (hnanos : nanos = (s.instant.nanos % 1000000000).toNat) :
    Instant.ofClock s.date (s.clockSeconds % 86400) nanos s.offset = s.instant := by
  have hdays : s.date.toDays = s.clockSeconds / 86400 := toDays_ofDays _
  obtain ⟨⟨n⟩, offset⟩ := s
  simp only [Instant.ofClock, hdays, clockSeconds, Instant.unixSeconds, Instant.mk.injEq] at hnanos ⊢
  omega

/-- **A stamp with a written form** is read from it again. -/
theorem parse?_text {s : Stamp} (hwritable : s.unwritable? = none) (hwhole : s.Whole) :
    Stamp.parse? s.text = some s := by
  obtain ⟨⟨hyear, hyear'⟩, hoffset⟩ : (0 ≤ s.date.year ∧ s.date.year ≤ 9999) ∧ s.offset.natAbs < 86400 := by
    unfold unwritable? at hwritable
    split at hwritable
    · cases hwritable
    · split at hwritable
      · cases hwritable
      · omega
  have hvalid : s.date.isValid = true := isValid_ofDays _
  obtain ⟨hmonth, hday⟩ := month_le_of_isValid hvalid
  obtain ⟨t, ht⟩ : ∃ t, t = s.clockSeconds % 86400 := ⟨_, rfl⟩
  have hyear4 : s.date.year.natAbs < 10000 := by omega
  have hyears (rest : List Char) : readFixed 4 (Number.zeroPadded 4 s.date.year.natAbs ++ rest) =
      some (s.date.year.natAbs, rest) := readFixed_zeroPadded (by decide) hyear4 rest
  have htwo {n : Nat} (hn : n < 100) (rest : List Char) :
      readFixed 2 (Number.zeroPadded 2 n ++ rest) = some (n, rest) :=
    readFixed_zeroPadded (by decide) hn rest
  have hmonths := htwo (show s.date.month < 100 by omega)
  have hdays := htwo (show s.date.day < 100 by omega)
  have hminutes := htwo (show (t / 60 % 60).natAbs < 100 by omega)
  have hseconds := htwo (show (t % 60).natAbs < 100 by omega)
  have hhours (rest : List Char) : readShort (Number.zeroPadded 2 (t / 3600).natAbs ++ rest) =
      some ((t / 3600).natAbs, rest) := by
    rw [readShort, htwo (show (t / 3600).natAbs < 100 by omega)]
  have hfraction := readFraction_fractionText s (beginsOffset_offsetText s.offset)
  have hread := readOffset_offsetText hoffset hwhole
  have hdate : (⟨(s.date.year.natAbs : Int), s.date.month, s.date.day⟩ : Date) = s.date := by
    rw [Int.natAbs_of_nonneg hyear]
  have hrange : ((23 < (t / 3600).natAbs) = False) ∧ ((59 < (t / 60 % 60).natAbs) = False) ∧
      ((59 < (t % 60).natAbs) = False) := by
    simp only [eq_iff_iff, iff_false]
    omega
  have hclock : Int.ofNat ((t / 3600).natAbs * 3600 + (t / 60 % 60).natAbs * 60 + (t % 60).natAbs) = t := by
    simp only [Int.ofNat_eq_natCast]
    omega
  have hinstant := s.ofClock_eq _ rfl
  rw [← ht] at hinstant
  have hmark (mark : Char) (cs : List Char) : readMark mark (mark :: cs) = some cs := if_pos rfl
  unfold parse?
  rw [toList_text hyear, ← ht]
  -- Part by part, in the order of the text.
  refine Option.bind_eq_some_iff.2 ⟨_, hyears _, ?_⟩
  refine Option.bind_eq_some_iff.2 ⟨_, hmark _ _, ?_⟩
  refine Option.bind_eq_some_iff.2 ⟨_, hmonths _, ?_⟩
  refine Option.bind_eq_some_iff.2 ⟨_, hmark _ _, ?_⟩
  refine Option.bind_eq_some_iff.2 ⟨_, hdays _, ?_⟩
  refine Option.bind_eq_some_iff.2 ⟨_, hmark _ _, ?_⟩
  refine Option.bind_eq_some_iff.2 ⟨_, hhours _, ?_⟩
  refine Option.bind_eq_some_iff.2 ⟨_, hmark _ _, ?_⟩
  refine Option.bind_eq_some_iff.2 ⟨_, hminutes _, ?_⟩
  refine Option.bind_eq_some_iff.2 ⟨_, hmark _ _, ?_⟩
  refine Option.bind_eq_some_iff.2 ⟨_, hseconds _, ?_⟩
  dsimp only
  rw [hfraction]
  refine Option.bind_eq_some_iff.2 ⟨_, hread, ?_⟩
  simp only [hdate, hvalid, hrange, hclock, hinstant, List.isEmpty_nil, Bool.not_true, Bool.or_false,
    decide_false, Bool.false_eq_true, if_false, pure]

/-- **A stamp that was read** has an offset in whole minutes. -/
theorem whole_of_parse? {text : String} {s : Stamp} (h : Stamp.parse? text = some s) : s.Whole := by
  unfold parse? at h
  -- The offset comes after eleven other parts.
  iterate 11 obtain ⟨_, -, h⟩ := Option.bind_eq_some_iff.1 h
  obtain ⟨⟨offset, rest⟩, hoffset, h⟩ := Option.bind_eq_some_iff.1 h
  obtain ⟨-, heq⟩ := Option.ite_none_left_eq_some.1 h
  cases heq
  exact whole_of_readOffset hoffset

/-! ## The characters of a written stamp -/

def IsPlain (c : Char) : Prop := c.isDigit = true ∨ c ∈ ['-', ':', 'T', 'Z', '+', '.']

theorem isPlain_fractionText (s : Stamp) : ∀ c ∈ s.fractionText.toList, IsPlain c := by
  intro c hc
  unfold fractionText at hc
  dsimp only at hc
  split at hc
  · cases hc
  · rw [String.toList_ofList] at hc
    rcases List.mem_cons.1 hc with rfl | hc
    · exact .inr (by decide)
    · have hmem := List.mem_reverse.1 ((List.dropWhile_suffix _).subset (List.mem_reverse.1 hc))
      exact .inl (Number.isDigit_of_mem_zeroPadded hmem)

theorem isPlain_offsetText (offset : Int) : ∀ c ∈ (offsetText offset).toList, IsPlain c := by
  have hsign : ∀ c ∈ (if offset < 0 then "-" else "+").toList, IsPlain c := by
    split
    all_goals
      intro c hc
      rw [List.mem_singleton.1 hc]
      exact .inr (by decide)
  intro c hc
  unfold offsetText at hc
  split at hc
  · rw [List.mem_singleton.1 hc]
    exact .inr (by decide)
  · simp only [String.toList_append, toList_twoDigits, List.mem_append] at hc
    rcases hc with ((hc | hc) | hc) | hc
    · exact hsign c hc
    · exact .inl (Number.isDigit_of_mem_zeroPadded hc)
    · rw [List.mem_singleton.1 hc]
      exact .inr (by decide)
    · exact .inl (Number.isDigit_of_mem_zeroPadded hc)

theorem isPlain_text {s : Stamp} (hyear : 0 ≤ s.date.year) : ∀ c ∈ s.text.toList, IsPlain c := by
  have hdigit {width n : Nat} {c : Char} (h : c ∈ Number.zeroPadded width n) : IsPlain c :=
    .inl (Number.isDigit_of_mem_zeroPadded h)
  intro c hc
  rw [toList_text hyear] at hc
  simp only [List.mem_append, List.mem_cons] at hc
  rcases hc with hc | rfl | hc | rfl | hc | rfl | hc | rfl | hc | rfl | hc | hc | hc
  · exact hdigit hc
  · exact .inr (by decide)
  · exact hdigit hc
  · exact .inr (by decide)
  · exact hdigit hc
  · exact .inr (by decide)
  · exact hdigit hc
  · exact .inr (by decide)
  · exact hdigit hc
  · exact .inr (by decide)
  · exact hdigit hc
  · exact isPlain_fractionText s c hc
  · exact isPlain_offsetText s.offset c hc

end Stamp

end Triage.Time
