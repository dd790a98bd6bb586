import Mathlib.Data.Char
import Mathlib.Data.List.Lex
import Triage.Proofs.Text.Pieces
import Triage.Proofs.Version

/-!
# The order of pre-releases

Versions with the same segments are compared by their pre-releases, part by part. A number comes before a word, a word
before a missing part, and a missing part before a number: this is no order. It goes round where one pre-release is
followed by a number in a second one and by a word in a third (`Forks`), and only there, if no part is a number that is
too large and no number is written in two ways (`PartsBefore.trans`). Versions that keep to this (`Tidy`) have a least
one (`Tidy.exists_leads`).
-/
namespace Triage.Version

/-- The parts of the pre-release. -/
def parts (v : Version) : List (List Char) := Text.splitChars '.' v.prerelease

/-! ## Versions that compare equal -/

theorem comparePrerelease_self (a : List Char) : comparePrerelease a a = .eq := if_pos rfl

/-- Metadata does not count. -/
theorem compare_eq (v w : Version) :
    v.compare w = if v.segments = w.segments then comparePrerelease v.prerelease w.prerelease
      else compareSegments v.segments w.segments := by
  unfold compare
  split
  · rename_i h
    rw [h, if_pos rfl, comparePrerelease_self]
  · rfl

theorem compare_of_segments_eq {v w : Version} (h : v.segments = w.segments) :
    v.compare w = comparePrerelease v.prerelease w.prerelease := by
  rw [compare_eq, if_pos h]

theorem compare_of_segments_ne {v w : Version} (h : v.segments ≠ w.segments) :
    v.compare w = Ord.compare (place v.segments) (place w.segments) := by
  rw [compare_eq, if_neg h, compareSegments_eq_compare]

theorem comparePart_eq_eq_iff {a b : List Char} : comparePart a b = .eq ↔ a = b := by
  constructor
  · intro h
    by_contra hne
    rw [comparePart, if_neg hne] at h
    revert h
    cases partNumber? a <;> cases partNumber? b <;> dsimp only <;> split_ifs <;> simp
  · rintro rfl
    exact if_pos rfl

theorem compareParts_self (as : List (List Char)) : compareParts as as = .eq := by
  induction as with
  | nil => rw [compareParts]
  | cons a as ih => rw [compareParts, comparePart_eq_eq_iff.2 rfl, ih]; rfl

/-- Lists of parts compare equal only if they are, as no part is empty. -/
theorem eq_of_compareParts {as bs : List (List Char)} (has : [] ∉ as) (hbs : [] ∉ bs)
    (h : compareParts as bs = .eq) : as = bs := by
  induction as generalizing bs with
  | nil =>
    cases bs with
    | nil => rfl
    | cons b bs =>
      rw [compareParts, Ordering.then_eq_eq, comparePart_eq_eq_iff] at h
      exact absurd (h.1 ▸ List.mem_cons_self) hbs
  | cons a as ih =>
    cases bs with
    | nil =>
      rw [compareParts, Ordering.then_eq_eq, comparePart_eq_eq_iff] at h
      exact absurd (h.1 ▸ List.mem_cons_self) has
    | cons b bs =>
      rw [compareParts, Ordering.then_eq_eq, comparePart_eq_eq_iff] at h
      rw [h.1, ih (List.not_mem_of_not_mem_cons has) (List.not_mem_of_not_mem_cons hbs) h.2]

/-- The pre-release is one that can be read. -/
def Readable (v : Version) : Prop := v.prerelease = [] ∨ isDotted v.prerelease = true

theorem readable_of_readPrerelease {cs part : List Char} (h : readPrerelease cs = some part) :
    part = [] ∨ isDotted part = true := by
  unfold readPrerelease at h
  split at h
  · cases h
    exact .inl rfl
  · obtain ⟨hdotted, heq⟩ := Option.ite_none_right_eq_some.1 h
    exact .inr (Option.some.inj heq ▸ hdotted)
  · obtain ⟨hdotted, heq⟩ := Option.ite_none_right_eq_some.1 h
    cases heq
    exact .inr (Bool.and_eq_true_iff.1 hdotted).2

theorem readable_of_parseNumber {cs : List Char} {v : Version} (h : parseNumber cs = some v) : v.Readable := by
  unfold parseNumber at h
  cases cs with
  | nil => cases h
  | cons c rest =>
    simp only [Option.bind_eq_bind, Option.bind_eq_some_iff] at h
    obtain ⟨d, -, prerelease, hread, h⟩ := h
    obtain ⟨-, heq⟩ := Option.ite_none_left_eq_some.1 h
    cases heq
    exact readable_of_readPrerelease hread

theorem readable_of_parse? {s : String} {v : Version} (h : parse? s = some v) : v.Readable := by
  unfold parse? at h
  split at h <;> exact readable_of_parseNumber h

theorem Readable.nil_not_mem {v : Version} (h : v.Readable) (hne : v.prerelease ≠ []) : [] ∉ v.parts := by
  intro hmem
  have hall := List.all_eq_true.1 (h.resolve_left hne) [] hmem
  simp at hall

/-- **Readable versions with the same segments compare equal only if their pre-releases are the same.** -/
theorem compare_eq_eq_iff {v w : Version} (hv : v.Readable) (hw : w.Readable) (hsame : v.segments = w.segments) :
    v.compare w = .eq ↔ v.prerelease = w.prerelease := by
  rw [compare_of_segments_eq hsame]
  constructor
  · intro h
    unfold comparePrerelease at h
    by_contra hne
    rw [if_neg hne] at h
    split_ifs at h with hv' hw'
    exact hne (Text.splitChars_injective '.'
      (eq_of_compareParts (hv.nil_not_mem hv') (hw.nil_not_mem hw') h))
  · intro h
    rw [h, comparePrerelease_self]

theorem compare_congr_left {v w : Version} (hsame : v.segments = w.segments) (h : v.prerelease = w.prerelease)
    (u : Version) : v.compare u = w.compare u := by
  rw [compare_eq, compare_eq, hsame, h]

theorem compare_congr_right {v w : Version} (hsame : v.segments = w.segments) (h : v.prerelease = w.prerelease)
    (u : Version) : u.compare v = u.compare w := by
  rw [compare_eq, compare_eq, hsame, h]

/-! ## Kinds of parts -/

/-- What stands at a place of a pre-release. -/
inductive Kind where
  | missing
  | number (n : Int)
  | word (text : List Char)

/-- What comes before what. Nothing is the least kind. -/
inductive Kind.Before : Kind → Kind → Prop
  | missing_number {n : Int} : Before .missing (.number n)
  | number_word {n : Int} {text : List Char} : Before (.number n) (.word text)
  | word_missing {text : List Char} : Before (.word text) .missing
  | numbers {m n : Int} (h : m < n) : Before (.number m) (.number n)
  | words {a b : List Char} (h : a < b) : Before (.word a) (.word b)

def kindOf (part : List Char) : Kind :=
  match partNumber? part with
  | some n => .number n
  | none => .word part

/-- The kind of what stands at the front. -/
def headKind : List (List Char) → Kind
  | [] => .missing
  | part :: _ => kindOf part

theorem kindOf_of_number {part : List Char} {n : Int} (h : partNumber? part = some n) : kindOf part = .number n := by
  rw [kindOf, h]

theorem kindOf_of_word {part : List Char} (h : partNumber? part = none) : kindOf part = .word part := by
  rw [kindOf, h]

theorem Kind.not_before_self (k : Kind) : ¬ k.Before k := by
  intro h
  cases k with
  | missing => cases h
  | number n => cases h with | numbers h => exact lt_irrefl n h
  | word text => cases h with | words h => exact lt_irrefl text h

/-- The three kinds in the order in which they go round. -/
inductive Kind.Round : Kind → Kind → Kind → Prop
  | missing {n : Int} {text : List Char} : Round .missing (.number n) (.word text)
  | number {n : Int} {text : List Char} : Round (.number n) (.word text) .missing
  | word {n : Int} {text : List Char} : Round (.word text) .missing (.number n)

/-- **Only three different kinds go round.** -/
theorem Kind.Before.trans {a b c : Kind} (hab : a.Before b) (hbc : b.Before c) : a.Before c ∨ Round a b c := by
  cases hab with
  | missing_number =>
    cases hbc with
    | number_word => exact .inr .missing
    | numbers _ => exact .inl .missing_number
  | number_word =>
    cases hbc with
    | word_missing => exact .inr .number
    | words _ => exact .inl .number_word
  | word_missing =>
    cases hbc with
    | missing_number => exact .inr .word
  | numbers hmn =>
    cases hbc with
    | number_word => exact .inl .number_word
    | numbers hnk => exact .inl (.numbers (hmn.trans hnk))
  | words hab =>
    cases hbc with
    | word_missing => exact .inl .word_missing
    | words hbc => exact .inl (.words (hab.trans hbc))

/-! ## Parts and their kinds -/

/-- The part is a number in range, or a word. -/
structure Legible (part : List Char) : Prop where
  ne_nil : part ≠ []
  inRange : Number.readInt64 (String.ofList part) ≠ .error .outOfRange

/-- A number that both parts are is written in the same way. -/
def SameSpelling (a b : List Char) : Prop := ∀ n, partNumber? a = some n → partNumber? b = some n → a = b

theorem Legible.partValue_eq_zero {part : List Char} (h : Legible part) (hword : partNumber? part = none) :
    partValue part = 0 := by
  have hinRange := h.inRange
  unfold partNumber? at hword
  unfold partValue
  cases hread : Number.readInt64 (String.ofList part) with
  | ok n => rw [hread] at hword; cases hword
  | error e =>
    cases e with
    | malformed => rfl
    | outOfRange => exact absurd hread hinRange

theorem comparePart_of_word {a b : List Char} (ha : Legible a) (hb : Legible b) (hne : a ≠ b)
    (ha' : partNumber? a = none) (hb' : partNumber? b = none) : comparePart a b = if b < a then .gt else .lt := by
  unfold comparePart
  rw [if_neg hne, if_neg ha.ne_nil, if_neg hb.ne_nil, ha', hb']
  dsimp only
  rw [ha.partValue_eq_zero ha', hb.partValue_eq_zero hb', if_neg (lt_irrefl 0)]

/-- **Legible parts are compared by their kinds.** -/
theorem comparePart_eq_lt_iff {a b : List Char} (ha : Legible a) (hb : Legible b) (hspelled : SameSpelling a b) :
    comparePart a b = .lt ↔ (kindOf a).Before (kindOf b) := by
  by_cases hne : a = b
  · subst hne
    rw [comparePart_eq_eq_iff.2 rfl]
    exact iff_of_false (by decide) (Kind.not_before_self _)
  cases ha' : partNumber? a with
  | none =>
    cases hb' : partNumber? b with
    | none =>
      rw [comparePart_of_word ha hb hne ha' hb', kindOf_of_word ha', kindOf_of_word hb']
      split
      · rename_i hlt
        refine iff_of_false (by decide) fun h => ?_
        cases h with
        | words h => exact lt_asymm hlt h
      · rename_i hnlt
        exact iff_of_true rfl (.words (lt_of_le_of_ne (not_lt.1 hnlt) hne))
    | some n =>
      rw [kindOf_of_word ha', kindOf_of_number hb']
      unfold comparePart
      rw [if_neg hne, if_neg ha.ne_nil, if_neg hb.ne_nil, ha', hb']
      exact iff_of_false (fun h => nomatch h) fun h => nomatch h
  | some m =>
    cases hb' : partNumber? b with
    | none =>
      rw [kindOf_of_number ha', kindOf_of_word hb']
      unfold comparePart
      rw [if_neg hne, if_neg ha.ne_nil, if_neg hb.ne_nil, ha', hb']
      exact iff_of_true rfl .number_word
    | some n =>
      rw [kindOf_of_number ha', kindOf_of_number hb']
      have hmn : m ≠ n := fun h => hne (hspelled m ha' (h ▸ hb'))
      unfold comparePart
      rw [if_neg hne, if_neg ha.ne_nil, if_neg hb.ne_nil, ha', hb']
      dsimp only
      split
      · rename_i hlt
        refine iff_of_false (by decide) fun h => ?_
        cases h with
        | numbers h => exact lt_asymm hlt h
      · rename_i hnlt
        exact iff_of_true rfl (.numbers (lt_of_le_of_ne (not_lt.1 hnlt) hmn))

/-- Of two legible parts one comes first, whichever of them is compared with the other. -/
theorem comparePart_swap {a b : List Char} (ha : Legible a) (hb : Legible b) (hspelled : SameSpelling a b) :
    comparePart b a = (comparePart a b).swap := by
  by_cases hne : a = b
  · subst hne
    rw [comparePart_eq_eq_iff.2 rfl]
    rfl
  unfold comparePart
  rw [if_neg hne, if_neg (Ne.symm hne), if_neg ha.ne_nil, if_neg hb.ne_nil, if_neg hb.ne_nil, if_neg ha.ne_nil]
  cases ha' : partNumber? a with
  | none =>
    cases hb' : partNumber? b with
    | none =>
      dsimp only
      rw [ha.partValue_eq_zero ha', hb.partValue_eq_zero hb', if_neg (lt_irrefl 0)]
      rcases lt_or_gt_of_ne hne with hlt | hgt
      · rw [if_pos hlt, if_neg (lt_asymm hlt)]; rfl
      · rw [if_pos hgt, if_neg (lt_asymm hgt)]; rfl
    | some n => rfl
  | some m =>
    cases hb' : partNumber? b with
    | none => rfl
    | some n =>
      have hmn : m ≠ n := fun h => hne (hspelled m ha' (h ▸ hb'))
      dsimp only
      rcases lt_or_gt_of_ne hmn with hlt | hgt
      · rw [if_pos hlt, if_neg (lt_asymm hlt)]; rfl
      · rw [if_pos hgt, if_neg (lt_asymm hgt)]; rfl

/-! ## Lists of parts -/

/-- The lists agree at the front, and what follows in the first one comes before what follows in the second. -/
def PartsBefore (as bs : List (List Char)) : Prop :=
  ∃ front as' bs', as = front ++ as' ∧ bs = front ++ bs' ∧ (headKind as').Before (headKind bs')

/-- The second list goes on with a number where the first one ends, and the third one with a word. -/
def Forks (as bs cs : List (List Char)) : Prop :=
  ∃ number word bs' cs', bs = as ++ number :: bs' ∧ cs = as ++ word :: cs' ∧
    (partNumber? number).isSome ∧ partNumber? word = none

/-- The parts of both lists are legible, and the numbers in them are written in one way. -/
structure Clear (as bs : List (List Char)) : Prop where
  left : ∀ a ∈ as, Legible a
  right : ∀ b ∈ bs, Legible b
  spelled : ∀ a ∈ as, ∀ b ∈ bs, SameSpelling a b

theorem Clear.tail {a b : List Char} {as bs : List (List Char)} (h : Clear (a :: as) (b :: bs)) : Clear as bs where
  left p hp := h.left p (List.mem_cons_of_mem a hp)
  right q hq := h.right q (List.mem_cons_of_mem b hq)
  spelled p hp q hq := h.spelled p (List.mem_cons_of_mem a hp) q (List.mem_cons_of_mem b hq)

theorem partsBefore_of_head?_ne {as bs : List (List Char)} (h : as.head? ≠ bs.head?) :
    PartsBefore as bs ↔ (headKind as).Before (headKind bs) := by
  constructor
  · rintro ⟨front, as', bs', rfl, rfl, hbefore⟩
    cases front with
    | nil => exact hbefore
    | cons c front => exact absurd rfl h
  · exact fun hbefore => ⟨[], as, bs, rfl, rfl, hbefore⟩

theorem partsBefore_cons_iff {c : List Char} {as bs : List (List Char)} :
    PartsBefore (c :: as) (c :: bs) ↔ PartsBefore as bs := by
  constructor
  · rintro ⟨front, as', bs', has, hbs, hbefore⟩
    cases front with
    | nil =>
      subst has hbs
      exact absurd hbefore (Kind.not_before_self _)
    | cons d front => exact ⟨front, as', bs', (List.cons.inj has).2, (List.cons.inj hbs).2, hbefore⟩
  · rintro ⟨front, as', bs', rfl, rfl, hbefore⟩
    exact ⟨c :: front, as', bs', rfl, rfl, hbefore⟩

theorem comparePart_nil_left {b : List Char} (h : b ≠ []) :
    comparePart [] b = if (partNumber? b).isSome then .lt else .gt := by
  rw [comparePart, if_neg h.symm, if_pos rfl]

theorem comparePart_nil_right {a : List Char} (h : a ≠ []) :
    comparePart a [] = if (partNumber? a).isSome then .gt else .lt := by
  rw [comparePart, if_neg h, if_neg h, if_pos rfl]

/-- What differs at the front decides. -/
theorem compareParts_cons_of_ne {a b : List Char} (h : a ≠ b) (as bs : List (List Char)) :
    compareParts (a :: as) (b :: bs) = comparePart a b := by
  rw [compareParts]
  have hne := mt comparePart_eq_eq_iff.1 h
  cases hab : comparePart a b with
  | eq => exact absurd hab hne
  | lt => rfl
  | gt => rfl

theorem compareParts_cons_self (c : List Char) (as bs : List (List Char)) :
    compareParts (c :: as) (c :: bs) = compareParts as bs := by
  rw [compareParts, comparePart_eq_eq_iff.2 rfl]
  rfl

theorem compareParts_nil_left {b : List Char} (h : b ≠ []) (bs : List (List Char)) :
    compareParts [] (b :: bs) = if (partNumber? b).isSome then .lt else .gt := by
  rw [compareParts, comparePart_nil_left h]
  split <;> rfl

theorem compareParts_nil_right {a : List Char} (h : a ≠ []) (as : List (List Char)) :
    compareParts (a :: as) [] = if (partNumber? a).isSome then .gt else .lt := by
  rw [compareParts, comparePart_nil_right h]
  split <;> rfl

/-- **Lists of parts are compared by what follows the parts that they share.** -/
theorem compareParts_eq_lt_iff {as bs : List (List Char)} (h : Clear as bs) :
    compareParts as bs = .lt ↔ PartsBefore as bs := by
  induction as generalizing bs with
  | nil =>
    cases bs with
    | nil =>
      rw [compareParts_self]
      refine iff_of_false (by decide) ?_
      rintro ⟨front, as', bs', has, hbs, hbefore⟩
      obtain ⟨rfl, rfl⟩ := List.append_eq_nil_iff.1 has.symm
      cases hbs
      exact Kind.not_before_self _ hbefore
    | cons b bs =>
      rw [compareParts_nil_left (h.right b List.mem_cons_self).ne_nil, partsBefore_of_head?_ne (by simp)]
      cases hb : partNumber? b with
      | none =>
        rw [headKind, headKind, kindOf_of_word hb]
        exact iff_of_false (by decide) fun h => nomatch h
      | some n =>
        rw [headKind, headKind, kindOf_of_number hb]
        exact iff_of_true rfl .missing_number
  | cons a as ih =>
    cases bs with
    | nil =>
      rw [compareParts_nil_right (h.left a List.mem_cons_self).ne_nil, partsBefore_of_head?_ne (by simp)]
      cases ha : partNumber? a with
      | none =>
        rw [headKind, headKind, kindOf_of_word ha]
        exact iff_of_true rfl .word_missing
      | some n =>
        rw [headKind, headKind, kindOf_of_number ha]
        exact iff_of_false (fun h => nomatch h) fun h => nomatch h
    | cons b bs =>
      by_cases hne : a = b
      · subst hne
        rw [compareParts_cons_self, partsBefore_cons_iff, ih h.tail]
      · rw [compareParts_cons_of_ne hne, partsBefore_of_head?_ne (by simpa using hne)]
        exact comparePart_eq_lt_iff (h.left a List.mem_cons_self) (h.right b List.mem_cons_self)
          (h.spelled a List.mem_cons_self b List.mem_cons_self)

theorem compareParts_swap {as bs : List (List Char)} (h : Clear as bs) :
    compareParts bs as = (compareParts as bs).swap := by
  induction as generalizing bs with
  | nil =>
    cases bs with
    | nil => rw [compareParts_self]; rfl
    | cons b bs =>
      have hb := (h.right b List.mem_cons_self).ne_nil
      rw [compareParts_nil_left hb, compareParts_nil_right hb]
      split <;> rfl
  | cons a as ih =>
    cases bs with
    | nil =>
      have ha := (h.left a List.mem_cons_self).ne_nil
      rw [compareParts_nil_left ha, compareParts_nil_right ha]
      split <;> rfl
    | cons b bs =>
      by_cases hne : a = b
      · subst hne
        rw [compareParts_cons_self, compareParts_cons_self, ih h.tail]
      · rw [compareParts_cons_of_ne hne, compareParts_cons_of_ne (Ne.symm hne)]
        exact comparePart_swap (h.left a List.mem_cons_self) (h.right b List.mem_cons_self)
          (h.spelled a List.mem_cons_self b List.mem_cons_self)

/-! ## Where the order goes round -/

/-- One of the three lists is followed by a number in another one and by a word in the third. -/
def ForksAmong (as bs cs : List (List Char)) : Prop := Forks as bs cs ∨ Forks bs cs as ∨ Forks cs as bs

theorem eq_nil_of_headKind {as : List (List Char)} (h : headKind as = .missing) : as = [] := by
  cases as with
  | nil => rfl
  | cons a as =>
    rw [headKind, kindOf] at h
    split at h <;> cases h

theorem exists_number_of_headKind {as : List (List Char)} {n : Int} (h : headKind as = .number n) :
    ∃ a as', as = a :: as' ∧ (partNumber? a).isSome := by
  cases as with
  | nil => cases h
  | cons a as =>
    refine ⟨a, as, rfl, ?_⟩
    cases ha : partNumber? a with
    | none => rw [headKind, kindOf_of_word ha] at h; cases h
    | some m => rfl

theorem exists_word_of_headKind {as : List (List Char)} {text : List Char} (h : headKind as = .word text) :
    ∃ a as', as = a :: as' ∧ partNumber? a = none := by
  cases as with
  | nil => cases h
  | cons a as =>
    refine ⟨a, as, rfl, ?_⟩
    cases ha : partNumber? a with
    | none => rfl
    | some m => rw [headKind, kindOf_of_number ha] at h; cases h

theorem forks_of_headKind {front as bs cs : List (List Char)} {n : Int} {text : List Char}
    (has : headKind as = .missing) (hbs : headKind bs = .number n) (hcs : headKind cs = .word text) :
    Forks (front ++ as) (front ++ bs) (front ++ cs) := by
  cases eq_nil_of_headKind has
  obtain ⟨b, bs', rfl, hb⟩ := exists_number_of_headKind hbs
  obtain ⟨c, cs', rfl, hc⟩ := exists_word_of_headKind hcs
  refine ⟨b, c, bs', cs', ?_, ?_, hb, hc⟩ <;> rw [List.append_nil]

theorem forksAmong_of_round {front as bs cs : List (List Char)}
    (h : Kind.Round (headKind as) (headKind bs) (headKind cs)) :
    ForksAmong (front ++ as) (front ++ bs) (front ++ cs) := by
  generalize ha : headKind as = a at h
  generalize hb : headKind bs = b at h
  generalize hc : headKind cs = c at h
  cases h with
  | missing => exact .inl (forks_of_headKind ha hb hc)
  | number => exact .inr (.inr (forks_of_headKind hc ha hb))
  | word => exact .inr (.inl (forks_of_headKind hb hc ha))

theorem before_trans_behind {as bs cs : List (List Char)} (front : List (List Char))
    (hab : (headKind as).Before (headKind bs)) (hbc : (headKind bs).Before (headKind cs)) :
    PartsBefore (front ++ as) (front ++ cs) ∨ ForksAmong (front ++ as) (front ++ bs) (front ++ cs) := by
  rcases hab.trans hbc with hac | hround
  · exact .inl ⟨front, as, cs, rfl, rfl, hac⟩
  · exact .inr (forksAmong_of_round hround)

/-- **The order goes round only where pre-releases fork.** -/
theorem PartsBefore.trans {as bs cs : List (List Char)} (hab : PartsBefore as bs) (hbc : PartsBefore bs cs) :
    PartsBefore as cs ∨ ForksAmong as bs cs := by
  obtain ⟨front, as', bs', rfl, rfl, hab⟩ := hab
  obtain ⟨front', bs'', cs', hbs, rfl, hbc⟩ := hbc
  -- Both fronts are fronts of the second list, so one of them goes on from the other.
  rcases List.append_eq_append_iff.1 hbs with ⟨more, rfl, rfl⟩ | ⟨more, rfl, rfl⟩
  · cases more with
    | nil =>
      rw [List.append_nil]
      exact before_trans_behind front hab hbc
    | cons c more => exact .inl ⟨front, as', (c :: more) ++ cs', rfl, List.append_assoc .., hab⟩
  · cases more with
    | nil =>
      rw [List.append_nil]
      exact before_trans_behind front' hab hbc
    | cons c more => exact .inl ⟨front', (c :: more) ++ as', cs', List.append_assoc .., rfl, hbc⟩

theorem PartsBefore.irrefl (as : List (List Char)) : ¬ PartsBefore as as := by
  rintro ⟨front, as', bs', rfl, heq, hbefore⟩
  cases List.append_cancel_left heq
  exact Kind.not_before_self _ hbefore

/-! ## Tidy versions -/

/-- No number is too large, none is written in two ways, and no pre-releases fork, among those with the same
segments. -/
structure Tidy (vs : List Version) : Prop where
  inRange : ∀ v ∈ vs, ∀ part ∈ v.parts, Number.readInt64 (String.ofList part) ≠ .error .outOfRange
  spelled : ∀ v ∈ vs, ∀ w ∈ vs, v.segments = w.segments → ∀ a ∈ v.parts, ∀ b ∈ w.parts, SameSpelling a b
  unforked : ∀ u ∈ vs, ∀ v ∈ vs, ∀ w ∈ vs, u.segments = v.segments → v.segments = w.segments →
    ¬ Forks u.parts v.parts w.parts

/-- The version is not above the other one, and the other one is not below it. -/
def Leads (v w : Version) : Prop := v.compare w ≠ .gt ∧ w.compare v ≠ .lt

instance (v w : Version) : Decidable (Leads v w) := inferInstanceAs (Decidable (_ ∧ _))

section Tidy

variable {vs : List Version} {u v w : Version}

theorem Tidy.legible (h : Tidy vs) (hv : v ∈ vs) (hread : v.Readable) (hne : v.prerelease ≠ []) :
    ∀ part ∈ v.parts, Legible part := fun part hpart =>
  ⟨fun hnil => hread.nil_not_mem hne (hnil ▸ hpart), h.inRange v hv part hpart⟩

theorem Tidy.clear (h : Tidy vs) (hv : v ∈ vs) (hw : w ∈ vs) (hvread : v.Readable) (hwread : w.Readable)
    (hsame : v.segments = w.segments) (hvne : v.prerelease ≠ []) (hwne : w.prerelease ≠ []) :
    Clear v.parts w.parts where
  left := h.legible hv hvread hvne
  right := h.legible hw hwread hwne
  spelled := h.spelled v hv w hw hsame

/-- A pre-release comes before another one by its parts, and before none. -/
theorem Tidy.compare_eq_lt_iff (h : Tidy vs) (hv : v ∈ vs) (hw : w ∈ vs) (hvread : v.Readable) (hwread : w.Readable)
    (hsame : v.segments = w.segments) :
    v.compare w = .lt ↔ v.prerelease ≠ [] ∧ (w.prerelease = [] ∨ PartsBefore v.parts w.parts) := by
  rw [compare_of_segments_eq hsame, comparePrerelease]
  split_ifs with heq hvnil hwnil
  · refine iff_of_false (by decide) ?_
    rintro ⟨hne, hnil | hbefore⟩
    · exact hne (heq.trans hnil)
    · rw [parts, parts, heq] at hbefore
      exact PartsBefore.irrefl _ hbefore
  · exact iff_of_false (by decide) fun h => h.1 hvnil
  · exact iff_of_true rfl ⟨hvnil, .inl hwnil⟩
  · rw [← parts, ← parts, compareParts_eq_lt_iff (h.clear hv hw hvread hwread hsame hvnil hwnil)]
    simp only [ne_eq, hvnil, hwnil, not_false_eq_true, true_and, false_or]

theorem Tidy.compare_swap (h : Tidy vs) (hv : v ∈ vs) (hw : w ∈ vs) (hvread : v.Readable) (hwread : w.Readable)
    (hsame : v.segments = w.segments) : w.compare v = (v.compare w).swap := by
  rw [compare_of_segments_eq hsame, compare_of_segments_eq hsame.symm, comparePrerelease, comparePrerelease]
  by_cases heq : v.prerelease = w.prerelease
  · rw [if_pos heq, if_pos heq.symm]
    rfl
  · rw [if_neg heq, if_neg (Ne.symm heq)]
    split_ifs with hwnil hvnil hvnil
    · exact absurd (hvnil.trans hwnil.symm) heq
    · rfl
    · rfl
    · exact compareParts_swap (h.clear hv hw hvread hwread hsame hvnil hwnil)

/-- **Tidy versions with the same segments are ordered.** -/
theorem Tidy.compare_trans (h : Tidy vs) (hread : ∀ v ∈ vs, v.Readable) (hu : u ∈ vs) (hv : v ∈ vs) (hw : w ∈ vs)
    (huv : u.segments = v.segments) (hvw : v.segments = w.segments) (hlt : u.compare v = .lt)
    (hlt' : v.compare w = .lt) : u.compare w = .lt := by
  rw [h.compare_eq_lt_iff hu hv (hread u hu) (hread v hv) huv] at hlt
  rw [h.compare_eq_lt_iff hv hw (hread v hv) (hread w hw) hvw] at hlt'
  rw [h.compare_eq_lt_iff hu hw (hread u hu) (hread w hw) (huv.trans hvw)]
  refine ⟨hlt.1, ?_⟩
  rcases hlt'.2 with hnil | hbefore'
  · exact .inl hnil
  · rcases (hlt.2.resolve_left hlt'.1).trans hbefore' with hbefore | hforks | hforks | hforks
    · exact .inr hbefore
    · exact absurd hforks (h.unforked u hu v hv w hw huv hvw)
    · exact absurd hforks (h.unforked v hv w hw u hu hvw (huv.trans hvw).symm)
    · exact absurd hforks (h.unforked w hw u hu v hv (huv.trans hvw).symm huv)

/-- **One of them leads the others.** -/
theorem Tidy.exists_leads (h : Tidy vs) (hread : ∀ v ∈ vs, v.Readable) {segments : List Nat} {group : List Version}
    (hsub : ∀ v ∈ group, v ∈ vs ∧ v.segments = segments) (hne : group ≠ []) : ∃ v ∈ group, ∀ w ∈ group, Leads v w := by
  induction group with
  | nil => exact absurd rfl hne
  | cons v rest ih =>
    have hself (v : Version) : Leads v v := by
      rw [Leads, compare_of_segments_eq rfl, comparePrerelease_self]
      decide
    by_cases hrest : rest = []
    · subst hrest
      exact ⟨v, List.mem_cons_self, List.forall_mem_singleton.2 (hself v)⟩
    · obtain ⟨w, hw, hleads⟩ := ih (fun u hu => hsub u (List.mem_cons_of_mem v hu)) hrest
      obtain ⟨hvmem, hvseg⟩ := hsub v List.mem_cons_self
      obtain ⟨hwmem, hwseg⟩ := hsub w (List.mem_cons_of_mem v hw)
      have hvw := hvseg.trans hwseg.symm
      have hswap := h.compare_swap hvmem hwmem (hread v hvmem) (hread w hwmem) hvw
      by_cases hlt : v.compare w = .lt
      · -- The new one is below the leader and so below all that the leader is not above.
        refine ⟨v, List.mem_cons_self, List.forall_mem_cons.2 ⟨hself v, fun u hu => ?_⟩⟩
        obtain ⟨humem, huseg⟩ := hsub u (List.mem_cons_of_mem v hu)
        have hwu := hwseg.trans huseg.symm
        have hvu : v.compare u = .lt := by
          cases hcompare : w.compare u with
          | lt => exact h.compare_trans hread hvmem hwmem humem hvw hwu hlt hcompare
          | eq =>
            rw [compare_eq_eq_iff (hread w hwmem) (hread u humem) hwu] at hcompare
            rw [← compare_congr_right hwu hcompare, hlt]
          | gt => exact absurd hcompare (hleads u hu).1
        have hswap' := h.compare_swap hvmem humem (hread v hvmem) (hread u humem) (hvw.trans hwu)
        rw [Leads, hswap', hvu]
        decide
      · refine ⟨w, List.mem_cons_of_mem v hw, List.forall_mem_cons.2 ⟨⟨?_, hlt⟩, hleads⟩⟩
        rw [hswap]
        exact fun hgt => hlt (Ordering.swap_eq_gt.1 hgt)

end Tidy

end Triage.Version
