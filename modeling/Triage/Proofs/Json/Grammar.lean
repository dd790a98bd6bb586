import Mathlib.Data.List.TakeDrop
import Triage.Proofs.Json.Escape

/-!
# The grammar of documents

`Spells d p text` says that `text` is a spelling of the piece `p` of a document in which containers nest
at most `d` deep: a value, the items of an array, or the members of an object. The reader accepts exactly
the spellings (`readValue_of_spells`, `spells_of_readValue`), and so `parse` reads a text as a document
exactly if the text spells it with nothing but blanks around (`parse_eq_some_iff`).
-/
namespace Triage.Json

/-! ## Blanks -/

def Blank (ws : List Char) : Prop := ∀ c ∈ ws, isSpace c = true

theorem Blank.nil : Blank [] := fun _ h => nomatch h

theorem Blank.skipSpace_append {ws : List Char} (h : Blank ws) (cs : List Char) :
    skipSpace (ws ++ cs) = skipSpace cs := by
  induction ws with
  | nil => rfl
  | cons c ws ih =>
    have hc : isSpace c = true := h c List.mem_cons_self
    rw [List.cons_append, skipSpace, List.dropWhile_cons_of_pos hc]
    exact ih fun c hc => h c (List.mem_cons_of_mem _ hc)

theorem skipSpace_cons {c : Char} (h : isSpace c = false) (cs : List Char) : skipSpace (c :: cs) = c :: cs :=
  List.dropWhile_cons_of_neg (by simp [h])

theorem Blank.skipSpace_cons {ws : List Char} (h : Blank ws) {c : Char} (hc : isSpace c = false)
    (cs : List Char) : skipSpace (ws ++ c :: cs) = c :: cs := by
  rw [h.skipSpace_append, Json.skipSpace_cons hc]

/-- A text is its leading blanks and the rest. -/
theorem exists_blank_append_skipSpace (cs : List Char) : ∃ ws, Blank ws ∧ cs = ws ++ skipSpace cs := by
  refine ⟨cs.takeWhile isSpace, fun c hc => ?_, (List.takeWhile_append_dropWhile).symm⟩
  exact List.all_eq_true.1 List.all_takeWhile c hc

theorem eq_of_skipSpace {cs rest : List Char} (h : skipSpace cs = rest) : ∃ ws, Blank ws ∧ cs = ws ++ rest :=
  h ▸ exists_blank_append_skipSpace cs

theorem skipSpace_skipSpace (cs : List Char) : skipSpace (skipSpace cs) = skipSpace cs := by
  obtain ⟨ws, hws, heq⟩ := exists_blank_append_skipSpace cs
  have hskip := hws.skipSpace_append (skipSpace cs)
  rw [← heq] at hskip
  exact hskip.symm

theorem skipSpace_eq_nil_iff {cs : List Char} : skipSpace cs = [] ↔ Blank cs := by
  constructor
  · intro h
    obtain ⟨ws, hws, rfl⟩ := eq_of_skipSpace h
    simpa using hws
  · intro h
    have := h.skipSpace_append []
    simpa [skipSpace] using this

/-- Nothing at the front of the text could continue a value. -/
def Ends (rest : List Char) : Prop := ∀ c ∈ rest.head?, isSpace c = true ∨ c = ',' ∨ c = ']' ∨ c = '}'

theorem Blank.ends {ws rest : List Char} (h : Blank ws) (hrest : Ends rest) : Ends (ws ++ rest) := by
  cases ws with
  | nil => exact hrest
  | cons c ws =>
    intro x hx
    cases hx
    exact .inl (h c List.mem_cons_self)

theorem ends_nil : Ends [] := fun _ h => nomatch h

theorem ends_cons {c : Char} (h : c = ',' ∨ c = ']' ∨ c = '}') (cs : List Char) : Ends (c :: cs) := by
  intro x hx
  cases hx
  exact .inr h

/-- The text does not begin with a character of the kind `p`. -/
def BeginsNot (p : Char → Bool) (cs : List Char) : Prop := ∀ c ∈ cs.head?, p c = false

theorem Ends.beginsNot {rest : List Char} (h : Ends rest) {p : Char → Bool}
    (hp : [' ', '\t', '\n', '\r', ',', ']', '}'].all (p · == false) = true) : BeginsNot p rest := by
  intro c hc
  refine eq_of_beq (List.all_eq_true.1 hp c ?_)
  simpa [isSpace, or_assoc] using h c hc

theorem beginsNot_cons {p : Char → Bool} {c : Char} (h : p c = false) (cs : List Char) :
    BeginsNot p (c :: cs) := by
  intro x hx
  cases hx
  exact h

/-! ## Numbers -/

def isDigit (c : Char) : Bool := (Number.digitValue? c).isSome

def Digits (ds : List Char) : Prop := ds ≠ [] ∧ ∀ d ∈ ds, isDigit d = true

/-- The whole part of a number. -/
def IsWhole (cs : List Char) : Prop := cs = ['0'] ∨ Digits cs ∧ cs.head? ≠ some '0'

/-- The fraction of a number, which may be missing. -/
def IsFraction (cs : List Char) : Prop := cs = [] ∨ ∃ ds, Digits ds ∧ cs = '.' :: ds

/-- The exponent of a number, which may be missing. -/
def IsPower (cs : List Char) : Prop :=
  cs = [] ∨ ∃ c sign ds, (c = 'e' ∨ c = 'E') ∧ (sign = [] ∨ sign = ['+'] ∨ sign = ['-']) ∧ Digits ds ∧
    cs = c :: (sign ++ ds)

/-- A number without its sign. -/
def IsMagnitude (cs : List Char) : Prop :=
  ∃ whole fraction power, IsWhole whole ∧ IsFraction fraction ∧ IsPower power ∧
    cs = whole ++ (fraction ++ power)

def IsNumber (cs : List Char) : Prop := IsMagnitude cs ∨ ∃ m, IsMagnitude m ∧ cs = '-' :: m

theorem readDigits_of_digits {ds rest : List Char} (h : Digits ds) (hrest : BeginsNot isDigit rest) :
    readDigits (ds ++ rest) = some (ds, rest) := by
  have hspan : (ds ++ rest).span isDigit = (ds, rest) := by
    rw [List.span_eq_takeWhile_dropWhile, List.takeWhile_append_of_pos h.2, List.dropWhile_append_of_pos h.2]
    cases rest with
    | nil => simp
    | cons c rest => simp [hrest c rfl]
  have hne : ds.isEmpty = false := by simpa using h.1
  unfold readDigits
  rw [show (ds ++ rest).span (fun c => (Number.digitValue? c).isSome) = (ds, rest) from hspan]
  simp [hne]

theorem digits_of_readDigits {cs ds rest : List Char} (h : readDigits cs = some (ds, rest)) :
    Digits ds ∧ cs = ds ++ rest := by
  simp only [readDigits, List.span_eq_takeWhile_dropWhile, Option.ite_none_left_eq_some,
    Option.some.injEq, Prod.mk.injEq] at h
  obtain ⟨hne, rfl, rfl⟩ := h
  refine ⟨⟨by simpa using hne, fun d hd => ?_⟩, List.takeWhile_append_dropWhile.symm⟩
  exact (List.all_eq_true.1 (List.all_takeWhile (l := cs))) d hd

theorem Digits.head? {ds : List Char} (h : Digits ds) : ∃ c cs, ds = c :: cs ∧ isDigit c = true := by
  obtain ⟨hne, hall⟩ := h
  cases ds with
  | nil => exact absurd rfl hne
  | cons c cs => exact ⟨c, cs, rfl, hall c List.mem_cons_self⟩

theorem readWhole_of_isWhole {whole rest : List Char} (h : IsWhole whole) (hrest : BeginsNot isDigit rest) :
    readWhole (whole ++ rest) = some (whole, rest) := by
  rcases h with rfl | ⟨hds, hzero⟩
  · rfl
  · rw [readWhole]
    · exact readDigits_of_digits hds hrest
    · intro cs hcs
      obtain ⟨c, tail, rfl, -⟩ := hds.head?
      exact hzero (congrArg some (List.cons.inj hcs).1)

theorem isWhole_of_readWhole {cs whole rest : List Char} (h : readWhole cs = some (whole, rest)) :
    IsWhole whole ∧ cs = whole ++ rest := by
  unfold readWhole at h
  split at h
  · cases h
    exact ⟨.inl rfl, rfl⟩
  · rename_i cs hzero
    obtain ⟨hds, rfl⟩ := digits_of_readDigits h
    refine ⟨.inr ⟨hds, fun hhead => ?_⟩, rfl⟩
    obtain ⟨c, tail, rfl, -⟩ := hds.head?
    cases hhead
    exact hzero _ rfl

theorem readFraction_of_isFraction {fraction rest : List Char} (h : IsFraction fraction)
    (hdigit : BeginsNot isDigit rest) (hpoint : BeginsNot (· == '.') rest) :
    readFraction (fraction ++ rest) = some (fraction, rest) := by
  rcases h with rfl | ⟨ds, hds, rfl⟩
  · rw [List.nil_append, readFraction]
    rintro cs rfl
    exact absurd (hpoint '.' rfl) (by decide)
  · rw [List.cons_append, readFraction, readDigits_of_digits hds hdigit]
    rfl

theorem isFraction_of_readFraction {cs fraction rest : List Char}
    (h : readFraction cs = some (fraction, rest)) : IsFraction fraction ∧ cs = fraction ++ rest := by
  unfold readFraction at h
  split at h
  · obtain ⟨⟨ds, tail⟩, hread, heq⟩ := Option.map_eq_some_iff.1 h
    cases heq
    obtain ⟨hds, rfl⟩ := digits_of_readDigits hread
    exact ⟨.inr ⟨ds, hds, rfl⟩, rfl⟩
  · cases h
    exact ⟨.inl rfl, rfl⟩

theorem readExponentSign_append {sign ds rest : List Char}
    (hsign : sign = [] ∨ sign = ['+'] ∨ sign = ['-']) (hds : Digits ds) :
    readExponentSign (sign ++ ds ++ rest) = (sign, ds ++ rest) := by
  rcases hsign with rfl | rfl | rfl
  · obtain ⟨c, cs, rfl, hc⟩ := hds.head?
    rw [List.nil_append, readExponentSign]
    · rintro _ h
      rw [List.cons_append, List.cons.injEq] at h
      rw [h.1] at hc
      exact absurd hc (by decide)
    · rintro _ h
      rw [List.cons_append, List.cons.injEq] at h
      rw [h.1] at hc
      exact absurd hc (by decide)
  · rfl
  · rfl

theorem readPower_of_isPower {power rest : List Char} (h : IsPower power) (hdigit : BeginsNot isDigit rest)
    (he : BeginsNot (fun c => c == 'e' || c == 'E') rest) :
    readPower (power ++ rest) = some (power, rest) := by
  rcases h with rfl | ⟨c, sign, ds, hc, hsign, hds, rfl⟩
  · cases rest with
    | nil => rfl
    | cons c rest =>
      have hne : ¬ (c = 'e' ∨ c = 'E') := by simpa using he c rfl
      simp only [List.nil_append, readPower, if_neg hne]
  · simp only [List.cons_append, readPower, if_pos hc, readExponentSign_append hsign hds,
      readDigits_of_digits hds hdigit, Option.map_some]

theorem isPower_of_readPower {cs power rest : List Char} (h : readPower cs = some (power, rest)) :
    IsPower power ∧ cs = power ++ rest := by
  cases cs with
  | nil => cases h; exact ⟨.inl rfl, rfl⟩
  | cons c cs =>
    simp only [readPower] at h
    split at h
    · rename_i hc
      obtain ⟨⟨ds, tail⟩, hread, heq⟩ := Option.map_eq_some_iff.1 h
      cases heq
      obtain ⟨hds, htail⟩ := digits_of_readDigits hread
      have hsign : ((readExponentSign cs).1 = [] ∨ (readExponentSign cs).1 = ['+'] ∨
          (readExponentSign cs).1 = ['-']) ∧ cs = (readExponentSign cs).1 ++ (readExponentSign cs).2 := by
        unfold readExponentSign
        split <;> simp
      refine ⟨.inr ⟨c, _, ds, hc, hsign.1, hds, rfl⟩, ?_⟩
      simp only [List.cons_append, List.append_assoc, ← htail, ← hsign.2]
    · cases h
      exact ⟨.inl rfl, rfl⟩

/-- A number is read to its end. -/
theorem readNumber_of_isNumber {literal rest : List Char} (h : IsNumber literal) (hrest : Ends rest) :
    readNumber (literal ++ rest) = some (literal, rest) := by
  have hdigit : BeginsNot isDigit rest := hrest.beginsNot (by decide)
  have hpoint : BeginsNot (· == '.') rest := hrest.beginsNot (by decide)
  have he : BeginsNot (fun c => c == 'e' || c == 'E') rest := hrest.beginsNot (by decide)
  have hmagnitude {m : List Char} (hm : IsMagnitude m) : readMagnitude (m ++ rest) = some (m, rest) := by
    obtain ⟨whole, fraction, power, hw, hf, hp, rfl⟩ := hm
    have hpower : BeginsNot isDigit (power ++ rest) ∧ BeginsNot (· == '.') (power ++ rest) := by
      rcases hp with rfl | ⟨c, sign, ds, rfl | rfl, -, -, rfl⟩
      · exact ⟨hdigit, hpoint⟩
      all_goals exact ⟨beginsNot_cons (by decide) _, beginsNot_cons (by decide) _⟩
    have hfraction : BeginsNot isDigit (fraction ++ (power ++ rest)) := by
      rcases hf with rfl | ⟨ds, -, rfl⟩
      · exact hpower.1
      · exact beginsNot_cons (by decide) _
    simp only [readMagnitude, List.append_assoc, readWhole_of_isWhole hw hfraction,
      readFraction_of_isFraction hf hpower.1 hpower.2, readPower_of_isPower hp hdigit he, bind,
      Option.bind, pure]
  rcases h with hm | ⟨m, hm, rfl⟩
  · rw [readNumber]
    · exact hmagnitude hm
    · intro cs hcs
      obtain ⟨whole, fraction, power, hw, -, -, rfl⟩ := hm
      rcases hw with rfl | ⟨hds, -⟩
      · cases hcs
      · obtain ⟨c, tail, rfl, hc⟩ := hds.head?
        rw [(List.cons.inj hcs).1] at hc
        exact absurd hc (by decide)
  · rw [List.cons_append, readNumber, hmagnitude hm]
    rfl

theorem isMagnitude_of_readMagnitude {cs literal rest : List Char}
    (h : readMagnitude cs = some (literal, rest)) : IsMagnitude literal ∧ cs = literal ++ rest := by
  simp only [readMagnitude, bind, Option.bind_eq_some_iff, pure, Option.some.injEq, Prod.mk.injEq,
    Prod.exists] at h
  obtain ⟨whole, _, hw, fraction, _, hf, power, _, hp, rfl, rfl⟩ := h
  obtain ⟨hwhole, rfl⟩ := isWhole_of_readWhole hw
  obtain ⟨hfraction, rfl⟩ := isFraction_of_readFraction hf
  obtain ⟨hpower, rfl⟩ := isPower_of_readPower hp
  refine ⟨⟨whole, fraction, power, hwhole, hfraction, hpower, ?_⟩, ?_⟩
  · rw [List.append_assoc]
  · simp only [List.append_assoc]

theorem isNumber_of_readNumber {cs literal rest : List Char} (h : readNumber cs = some (literal, rest)) :
    IsNumber literal ∧ cs = literal ++ rest := by
  unfold readNumber at h
  split at h
  · obtain ⟨⟨m, tail⟩, hread, heq⟩ := Option.map_eq_some_iff.1 h
    cases heq
    obtain ⟨hm, rfl⟩ := isMagnitude_of_readMagnitude hread
    exact ⟨.inr ⟨m, hm, rfl⟩, rfl⟩
  · obtain ⟨hm, rfl⟩ := isMagnitude_of_readMagnitude h
    exact ⟨.inl hm, rfl⟩

/-- A number begins with its sign or a digit. -/
theorem IsNumber.head {cs : List Char} (h : IsNumber cs) :
    ∃ c tail, cs = c :: tail ∧ (c = '-' ∨ isDigit c = true) := by
  rcases h with ⟨whole, fraction, power, rfl | ⟨hds, -⟩, -, -, rfl⟩ | ⟨m, -, rfl⟩
  · exact ⟨'0', _, rfl, .inr (by decide)⟩
  · obtain ⟨c, tail, rfl, hc⟩ := hds.head?
    exact ⟨c, _, rfl, .inr hc⟩
  · exact ⟨'-', m, rfl, .inl rfl⟩

/-! ## Values that are no containers -/

/-- `cs` spells a value that is no container. -/
inductive IsScalar : Json → List Char → Prop
  | null : IsScalar .null ['n', 'u', 'l', 'l']
  | true : IsScalar (.bool true) ['t', 'r', 'u', 'e']
  | false : IsScalar (.bool false) ['f', 'a', 'l', 's', 'e']
  | string {body : List Char} (h : IsBody body) :
    IsScalar (.string (String.ofList body)) ('"' :: (body ++ ['"']))
  | number {literal : List Char} (h : IsNumber literal) : IsScalar (.number (String.ofList literal)) literal

/-- The first character of a number is none of those that begin another value. -/
theorem ne_of_numberHead {c : Char} (h : c = '-' ∨ isDigit c = true) :
    ∀ x ∈ ['n', 't', 'f', '"', '[', '{', ']', '}', ' ', '\t', '\n', '\r'], c ≠ x := by
  rintro x hx rfl
  have hall : ∀ x ∈ ['n', 't', 'f', '"', '[', '{', ']', '}', ' ', '\t', '\n', '\r'],
      ¬ (x = '-' ∨ isDigit x = true) := List.all_iff_forall_prop.1 (by decide)
  exact hall c hx h

theorem readScalar_of_isScalar {j : Json} {cs rest : List Char} (h : IsScalar j cs) (hrest : Ends rest) :
    readScalar (cs ++ rest) = some (j, rest) := by
  cases h with
  | null => rfl
  | true => rfl
  | false => rfl
  | string h =>
    simp only [List.cons_append, List.append_assoc, List.nil_append, readScalar, readBody_of_isBody h,
      Option.map_some]
  | number h =>
    obtain ⟨c, tail, rfl, hc⟩ := h.head
    have hne := ne_of_numberHead hc
    have hread := readNumber_of_isNumber h hrest
    rw [List.cons_append] at hread ⊢
    rw [readScalar, hread]
    · rfl
    all_goals
      intro _ heq
      exact absurd (List.cons.inj heq).1 (hne _ (by decide))

theorem isScalar_of_readScalar {j : Json} {cs rest : List Char} (h : readScalar cs = some (j, rest)) :
    ∃ text, cs = text ++ rest ∧ IsScalar j text := by
  unfold readScalar at h
  split at h
  · cases h; exact ⟨_, rfl, .null⟩
  · cases h; exact ⟨_, rfl, .true⟩
  · cases h; exact ⟨_, rfl, .false⟩
  · obtain ⟨⟨body, tail⟩, hread, heq⟩ := Option.map_eq_some_iff.1 h
    cases heq
    obtain ⟨hbody, rfl⟩ := isBody_of_readBody hread
    exact ⟨_, by simp, .string hbody⟩
  · obtain ⟨⟨literal, tail⟩, hread, heq⟩ := Option.map_eq_some_iff.1 h
    cases heq
    obtain ⟨hliteral, rfl⟩ := isNumber_of_readNumber hread
    exact ⟨_, rfl, .number hliteral⟩

/-- `cs` spells a member name with its colon. -/
def IsLabel (name : String) (cs : List Char) : Prop :=
  ∃ body ws, IsBody body ∧ Blank ws ∧ name = String.ofList body ∧ cs = '"' :: (body ++ '"' :: (ws ++ [':']))

theorem readName_of_isLabel {name : String} {cs : List Char} (h : IsLabel name cs) (rest : List Char) :
    readName (cs ++ rest) = some (name, rest) := by
  obtain ⟨body, ws, hbody, hws, rfl, rfl⟩ := h
  simp only [readName, List.cons_append, List.append_assoc, skipSpace_cons (by decide : isSpace '"' = false),
    readBody_of_isBody hbody, Option.bind_some, List.nil_append,
    hws.skipSpace_cons (by decide : isSpace ':' = false)]

theorem isLabel_of_readName {name : String} {cs rest : List Char} (h : readName cs = some (name, rest)) :
    ∃ label, skipSpace cs = label ++ rest ∧ IsLabel name label := by
  unfold readName at h
  split at h
  · rename_i heq
    obtain ⟨⟨body, tail⟩, hread, hcolon⟩ := Option.bind_eq_some_iff.1 h
    obtain ⟨hbody, rfl⟩ := isBody_of_readBody hread
    dsimp only at hcolon
    split at hcolon
    · rename_i hskip
      cases hcolon
      obtain ⟨ws, hws, rfl⟩ := eq_of_skipSpace hskip
      exact ⟨_, by rw [heq]; simp, body, ws, hbody, hws, rfl, rfl⟩
    · cases hcolon
  · cases h

/-! ## Documents -/

/-- A part of a document that is read at one go. -/
inductive Piece where
  | value (j : Json)
  /-- The items of an array that is not empty, with its closing bracket. -/
  | items (js : List Json)
  /-- The members of an object that is not empty, with its closing brace. -/
  | members (ms : List (String × Json))

/-- `Spells d p cs`: the text `cs` spells the piece `p`, and containers nest at most `d` deep in it. -/
inductive Spells : Nat → Piece → List Char → Prop
  | scalar {d : Nat} {j : Json} {cs : List Char} (h : IsScalar j cs) : Spells d (.value j) cs
  | emptyArray {d : Nat} {ws : List Char} (hws : Blank ws) :
    Spells (d + 1) (.value (.array [])) ('[' :: (ws ++ [']']))
  | array {d : Nat} {js : List Json} {ws cs : List Char} (hws : Blank ws) (h : Spells d (.items js) cs) :
    Spells (d + 1) (.value (.array js)) ('[' :: (ws ++ cs))
  | emptyObject {d : Nat} {ws : List Char} (hws : Blank ws) :
    Spells (d + 1) (.value (.object [])) ('{' :: (ws ++ ['}']))
  | object {d : Nat} {ms : List (String × Json)} {ws cs : List Char} (hws : Blank ws)
    (h : Spells d (.members ms) cs) : Spells (d + 1) (.value (.object ms)) ('{' :: (ws ++ cs))
  | lastItem {d : Nat} {j : Json} {cs ws : List Char} (h : Spells d (.value j) cs) (hws : Blank ws) :
    Spells d (.items [j]) (cs ++ (ws ++ [']']))
  | item {d : Nat} {j : Json} {js : List Json} {cs ws ws' cs' : List Char} (h : Spells d (.value j) cs)
    (hws : Blank ws) (hws' : Blank ws') (hs : Spells d (.items js) cs') :
    Spells d (.items (j :: js)) (cs ++ (ws ++ ',' :: (ws' ++ cs')))
  | lastMember {d : Nat} {name : String} {j : Json} {label gap cs ws : List Char}
    (hlabel : IsLabel name label) (hgap : Blank gap) (h : Spells d (.value j) cs) (hws : Blank ws) :
    Spells d (.members [(name, j)]) (label ++ (gap ++ (cs ++ (ws ++ ['}']))))
  | member {d : Nat} {name : String} {j : Json} {ms : List (String × Json)}
    {label gap cs ws ws' cs' : List Char} (hlabel : IsLabel name label) (hgap : Blank gap)
    (h : Spells d (.value j) cs) (hws : Blank ws) (hws' : Blank ws') (hs : Spells d (.members ms) cs') :
    Spells d (.members ((name, j) :: ms)) (label ++ (gap ++ (cs ++ (ws ++ ',' :: (ws' ++ cs')))))

/-- A spelling stays one when deeper nesting is allowed. -/
theorem Spells.mono {d d' : Nat} {p : Piece} {cs : List Char} (h : Spells d p cs) (hd : d ≤ d') :
    Spells d' p cs := by
  induction h generalizing d' with
  | scalar h => exact .scalar h
  | emptyArray hws => obtain ⟨d', rfl⟩ := Nat.exists_eq_add_of_lt hd; exact .emptyArray hws
  | array hws _ ih =>
    obtain ⟨d', rfl⟩ := Nat.exists_eq_add_of_lt hd
    exact .array hws (ih (Nat.le_add_right _ _))
  | emptyObject hws => obtain ⟨d', rfl⟩ := Nat.exists_eq_add_of_lt hd; exact .emptyObject hws
  | object hws _ ih =>
    obtain ⟨d', rfl⟩ := Nat.exists_eq_add_of_lt hd
    exact .object hws (ih (Nat.le_add_right _ _))
  | lastItem _ hws ih => exact .lastItem (ih hd) hws
  | item _ hws hws' _ ih ihs => exact .item (ih hd) hws hws' (ihs hd)
  | lastMember hlabel hgap _ hws ih => exact .lastMember hlabel hgap (ih hd) hws
  | member hlabel hgap _ hws hws' _ ih ihs => exact .member hlabel hgap (ih hd) hws hws' (ihs hd)

/-- A character that begins a value, and so neither a blank nor the end of a container. -/
def Starts (c : Char) : Prop := isSpace c = false ∧ c ≠ ']' ∧ c ≠ '}'

instance (c : Char) : Decidable (Starts c) := inferInstanceAs (Decidable (_ ∧ _ ∧ _))

theorem IsLabel.head {name : String} {cs : List Char} (h : IsLabel name cs) :
    ∃ tail, cs = '"' :: tail := by
  obtain ⟨body, ws, -, -, -, rfl⟩ := h
  exact ⟨_, rfl⟩

theorem IsScalar.head {j : Json} {cs : List Char} (h : IsScalar j cs) :
    ∃ c tail, cs = c :: tail ∧ Starts c ∧ c ≠ '[' ∧ c ≠ '{' := by
  cases h with
  | null => exact ⟨_, _, rfl, by decide⟩
  | true => exact ⟨_, _, rfl, by decide⟩
  | false => exact ⟨_, _, rfl, by decide⟩
  | string h => exact ⟨_, _, rfl, by decide⟩
  | number h =>
    obtain ⟨c, tail, rfl, hc⟩ := h.head
    have hne := ne_of_numberHead hc
    refine ⟨c, tail, rfl, ⟨?_, hne _ (by decide), hne _ (by decide)⟩, hne _ (by decide), hne _ (by decide)⟩
    simp only [isSpace, Bool.or_eq_false_iff, beq_eq_false_iff_ne]
    exact ⟨⟨⟨hne _ (by decide), hne _ (by decide)⟩, hne _ (by decide)⟩, hne _ (by decide)⟩

/-- No spelling begins with a blank or the end of a container. -/
theorem Spells.head {d : Nat} {p : Piece} {cs : List Char} (h : Spells d p cs) :
    ∃ c tail, cs = c :: tail ∧ Starts c := by
  induction h with
  | scalar h =>
    obtain ⟨c, tail, rfl, hc, -⟩ := h.head
    exact ⟨c, tail, rfl, hc⟩
  | emptyArray | array => exact ⟨'[', _, rfl, by decide⟩
  | emptyObject | object => exact ⟨'{', _, rfl, by decide⟩
  | lastItem _ _ ih | item _ _ _ _ ih _ =>
    obtain ⟨c, tail, rfl, hc⟩ := ih
    exact ⟨c, _, rfl, hc⟩
  | lastMember hlabel | member hlabel =>
    obtain ⟨tail, rfl⟩ := hlabel.head
    exact ⟨'"', _, rfl, by decide⟩

/-! ## Every spelling is read -/

theorem readValue_blank {ws : List Char} (h : Blank ws) (fuel d : Nat) (cs : List Char) :
    readValue fuel d (ws ++ cs) = readValue fuel d cs :=
  readValue_congr (h.skipSpace_append cs) fuel d

theorem readItems_blank {ws : List Char} (h : Blank ws) (fuel d : Nat) (cs : List Char) :
    readItems fuel d (ws ++ cs) = readItems fuel d cs := by
  cases fuel with
  | zero => rfl
  | succ fuel => rw [readItems, readItems, readValue_blank h]

theorem readName_blank {ws : List Char} (h : Blank ws) (cs : List Char) :
    readName (ws ++ cs) = readName cs := by
  rw [readName, readName, h.skipSpace_append]

theorem readMembers_blank {ws : List Char} (h : Blank ws) (fuel d : Nat) (cs : List Char) :
    readMembers fuel d (ws ++ cs) = readMembers fuel d cs := by
  cases fuel with
  | zero => rfl
  | succ fuel => rw [readMembers, readMembers, readName_blank h]

theorem readValue_emptyArray {ws : List Char} (hws : Blank ws) (fuel d : Nat) (rest : List Char) :
    readValue (fuel + 1) (d + 1) ('[' :: (ws ++ ']' :: rest)) = some (.array [], rest) := by
  simp only [readValue, skipSpace_cons (by decide : isSpace '[' = false),
    hws.skipSpace_cons (by decide : isSpace ']' = false), Nat.add_one_ne_zero, if_false]

theorem readValue_emptyObject {ws : List Char} (hws : Blank ws) (fuel d : Nat) (rest : List Char) :
    readValue (fuel + 1) (d + 1) ('{' :: (ws ++ '}' :: rest)) = some (.object [], rest) := by
  simp only [readValue, skipSpace_cons (by decide : isSpace '{' = false),
    hws.skipSpace_cons (by decide : isSpace '}' = false), Nat.add_one_ne_zero, if_false]

theorem readValue_array {ws : List Char} (hws : Blank ws) {c : Char} (hc : Starts c) (fuel d : Nat)
    (cs : List Char) :
    readValue (fuel + 1) (d + 1) ('[' :: (ws ++ c :: cs)) =
      (readItems fuel d (c :: cs)).map fun (items, rest) => (.array items, rest) := by
  simp only [readValue, skipSpace_cons (by decide : isSpace '[' = false), hws.skipSpace_cons hc.1,
    Nat.add_one_ne_zero, if_false, Nat.add_sub_cancel]
  split
  · rename_i heq
    exact absurd (List.cons.inj heq).1 hc.2.1
  · rfl

theorem readValue_object {ws : List Char} (hws : Blank ws) {c : Char} (hc : Starts c) (fuel d : Nat)
    (cs : List Char) :
    readValue (fuel + 1) (d + 1) ('{' :: (ws ++ c :: cs)) =
      (readMembers fuel d (c :: cs)).map fun (members, rest) => (.object members, rest) := by
  simp only [readValue, skipSpace_cons (by decide : isSpace '{' = false), hws.skipSpace_cons hc.1,
    Nat.add_one_ne_zero, if_false, Nat.add_sub_cancel]
  split
  · rename_i heq
    exact absurd (List.cons.inj heq).1 hc.2.2
  · rfl

/-- The reader takes a piece of a document from the front of `cs` and leaves `rest`. -/
def Reads (fuel d : Nat) : Piece → (cs rest : List Char) → Prop
  | .value j, cs, rest => readValue fuel d cs = some (j, rest)
  | .items js, cs, rest => readItems fuel d cs = some (js, rest)
  | .members ms, cs, rest => readMembers fuel d cs = some (ms, rest)

/-- **Every spelling is read**, given fuel for two steps a character and a rest that could not continue it. -/
theorem reads_of_spells {d : Nat} {p : Piece} {cs : List Char} (h : Spells d p cs) {fuel : Nat}
    (hfuel : 2 * cs.length ≤ fuel) {rest : List Char} (hrest : Ends rest) :
    Reads fuel d p (cs ++ rest) rest := by
  induction h generalizing fuel rest with
  | scalar h =>
    obtain ⟨c, tail, rfl, hc, harray, hobject⟩ := h.head
    obtain ⟨fuel, rfl⟩ : ∃ f, fuel = f + 1 := Nat.exists_eq_add_one.2 (by simp at hfuel; omega)
    have hread := readScalar_of_isScalar h hrest
    rw [List.cons_append] at hread
    simp only [Reads, List.cons_append, readValue, skipSpace_cons hc.1]
    split
    · rename_i heq
      exact absurd (List.cons.inj heq).1 harray
    · rename_i heq
      exact absurd (List.cons.inj heq).1 hobject
    · exact hread
  | emptyArray hws =>
    obtain ⟨fuel, rfl⟩ : ∃ f, fuel = f + 1 := Nat.exists_eq_add_one.2 (by simp at hfuel; omega)
    simpa only [Reads, List.cons_append, List.append_assoc, List.nil_append] using
      readValue_emptyArray hws fuel _ rest
  | emptyObject hws =>
    obtain ⟨fuel, rfl⟩ : ∃ f, fuel = f + 1 := Nat.exists_eq_add_one.2 (by simp at hfuel; omega)
    simpa only [Reads, List.cons_append, List.append_assoc, List.nil_append] using
      readValue_emptyObject hws fuel _ rest
  | array hws h ih =>
    obtain ⟨fuel, rfl⟩ : ∃ f, fuel = f + 1 := Nat.exists_eq_add_one.2 (by simp at hfuel; omega)
    obtain ⟨c, tail, rfl, hc⟩ := h.head
    have hitems : readItems fuel _ (c :: tail ++ rest) = some (_, rest) :=
      ih (by simp at hfuel ⊢; omega) hrest
    rw [List.cons_append] at hitems
    simp only [Reads, List.cons_append, List.append_assoc, readValue_array hws hc, hitems, Option.map_some]
  | object hws h ih =>
    obtain ⟨fuel, rfl⟩ : ∃ f, fuel = f + 1 := Nat.exists_eq_add_one.2 (by simp at hfuel; omega)
    obtain ⟨c, tail, rfl, hc⟩ := h.head
    have hmembers : readMembers fuel _ (c :: tail ++ rest) = some (_, rest) :=
      ih (by simp at hfuel ⊢; omega) hrest
    rw [List.cons_append] at hmembers
    simp only [Reads, List.cons_append, List.append_assoc, readValue_object hws hc, hmembers, Option.map_some]
  | @lastItem d j cs ws h hws ih =>
    obtain ⟨fuel, rfl⟩ : ∃ f, fuel = f + 1 := Nat.exists_eq_add_one.2 (by simp at hfuel; omega)
    have hvalue : readValue fuel d (cs ++ (ws ++ ']' :: rest)) = some (j, ws ++ ']' :: rest) :=
      ih (by simp at hfuel; omega) (hws.ends (ends_cons (by decide) _))
    simp only [Reads, List.append_assoc, List.cons_append, List.nil_append, readItems, hvalue,
      hws.skipSpace_cons (by decide : isSpace ']' = false)]
  | @item d j js cs ws ws' cs' h hws hws' hs ih ihs =>
    obtain ⟨fuel, rfl⟩ : ∃ f, fuel = f + 1 := Nat.exists_eq_add_one.2 (by simp at hfuel; omega)
    have hvalue : readValue fuel d (cs ++ (ws ++ ',' :: (ws' ++ (cs' ++ rest)))) =
        some (j, ws ++ ',' :: (ws' ++ (cs' ++ rest))) :=
      ih (by simp at hfuel; omega) (hws.ends (ends_cons (by decide) _))
    have hitems : readItems fuel d (cs' ++ rest) = some (js, rest) := ihs (by simp at hfuel; omega) hrest
    simp only [Reads, List.append_assoc, List.cons_append, readItems, hvalue,
      hws.skipSpace_cons (by decide : isSpace ',' = false), readItems_blank hws', hitems, Option.map_some]
  | @lastMember d name j label gap cs ws hlabel hgap h hws ih =>
    obtain ⟨fuel, rfl⟩ : ∃ f, fuel = f + 1 := Nat.exists_eq_add_one.2 (by simp at hfuel; omega)
    have hvalue : readValue fuel d (cs ++ (ws ++ '}' :: rest)) = some (j, ws ++ '}' :: rest) :=
      ih (by simp at hfuel; omega) (hws.ends (ends_cons (by decide) _))
    simp only [Reads, List.append_assoc, List.cons_append, List.nil_append, readMembers,
      readName_of_isLabel hlabel, readValue_blank hgap, hvalue,
      hws.skipSpace_cons (by decide : isSpace '}' = false)]
  | @member d name j ms label gap cs ws ws' cs' hlabel hgap h hws hws' hs ih ihs =>
    obtain ⟨fuel, rfl⟩ : ∃ f, fuel = f + 1 := Nat.exists_eq_add_one.2 (by simp at hfuel; omega)
    have hvalue : readValue fuel d (cs ++ (ws ++ ',' :: (ws' ++ (cs' ++ rest)))) =
        some (j, ws ++ ',' :: (ws' ++ (cs' ++ rest))) :=
      ih (by simp at hfuel; omega) (hws.ends (ends_cons (by decide) _))
    have hmembers : readMembers fuel d (cs' ++ rest) = some (ms, rest) :=
      ihs (by simp at hfuel; omega) hrest
    simp only [Reads, List.append_assoc, List.cons_append, readMembers, readName_of_isLabel hlabel,
      readValue_blank hgap, hvalue, hws.skipSpace_cons (by decide : isSpace ',' = false),
      readMembers_blank hws', hmembers, Option.map_some]

/-! ## Only spellings are read -/

/-- What the reader takes from `cs` with `fuel` steps is, after blanks, a spelling. -/
def ReadsOnlySpellings (fuel : Nat) : Prop :=
  ∀ d p cs rest, Reads fuel d p cs rest → ∃ text, skipSpace cs = text ++ rest ∧ Spells d p text

theorem ReadsOnlySpellings.value {fuel : Nat} (ih : ReadsOnlySpellings fuel) {d : Nat} {j : Json}
    {cs rest : List Char} (h : readValue (fuel + 1) d cs = some (j, rest)) :
    ∃ text, skipSpace cs = text ++ rest ∧ Spells d (.value j) text := by
  rw [readValue] at h
  split at h
  · rename_i inner hopen
    obtain ⟨hd, h⟩ := Option.ite_none_left_eq_some.1 h
    obtain ⟨d, rfl⟩ := Nat.exists_eq_succ_of_ne_zero hd
    split at h
    · rename_i hclose
      cases h
      obtain ⟨ws, hws, rfl⟩ := eq_of_skipSpace hclose
      exact ⟨_, by rw [hopen]; simp, .emptyArray hws⟩
    · obtain ⟨⟨js, tail⟩, hitems, heq⟩ := Option.map_eq_some_iff.1 h
      cases heq
      obtain ⟨text, htext, hspells⟩ := ih d (.items js) _ _ hitems
      rw [skipSpace_skipSpace] at htext
      obtain ⟨ws, hws, rfl⟩ := eq_of_skipSpace htext
      exact ⟨_, by rw [hopen]; simp, .array hws hspells⟩
  · rename_i inner hopen
    obtain ⟨hd, h⟩ := Option.ite_none_left_eq_some.1 h
    obtain ⟨d, rfl⟩ := Nat.exists_eq_succ_of_ne_zero hd
    split at h
    · rename_i hclose
      cases h
      obtain ⟨ws, hws, rfl⟩ := eq_of_skipSpace hclose
      exact ⟨_, by rw [hopen]; simp, .emptyObject hws⟩
    · obtain ⟨⟨ms, tail⟩, hmembers, heq⟩ := Option.map_eq_some_iff.1 h
      cases heq
      obtain ⟨text, htext, hspells⟩ := ih d (.members ms) _ _ hmembers
      rw [skipSpace_skipSpace] at htext
      obtain ⟨ws, hws, rfl⟩ := eq_of_skipSpace htext
      exact ⟨_, by rw [hopen]; simp, .object hws hspells⟩
  · obtain ⟨text, htext, hscalar⟩ := isScalar_of_readScalar h
    exact ⟨text, htext, .scalar hscalar⟩

theorem ReadsOnlySpellings.items {fuel : Nat} (ih : ReadsOnlySpellings fuel) {d : Nat} {js : List Json}
    {cs rest : List Char} (h : readItems (fuel + 1) d cs = some (js, rest)) :
    ∃ text, skipSpace cs = text ++ rest ∧ Spells d (.items js) text := by
  rw [readItems] at h
  split at h
  · cases h
  · rename_i j after hvalue
    obtain ⟨text, htext, hspells⟩ := ih d (.value j) _ _ hvalue
    split at h
    · rename_i hclose
      cases h
      obtain ⟨ws, hws, rfl⟩ := eq_of_skipSpace hclose
      exact ⟨_, by rw [htext]; simp, .lastItem hspells hws⟩
    · rename_i hcomma
      obtain ⟨⟨js, tail⟩, hitems, heq⟩ := Option.map_eq_some_iff.1 h
      cases heq
      obtain ⟨ws, hws, rfl⟩ := eq_of_skipSpace hcomma
      obtain ⟨text', htext', hspells'⟩ := ih d (.items js) _ _ hitems
      obtain ⟨ws', hws', rfl⟩ := eq_of_skipSpace htext'
      exact ⟨_, by rw [htext]; simp, .item hspells hws hws' hspells'⟩
    · cases h

theorem ReadsOnlySpellings.members {fuel : Nat} (ih : ReadsOnlySpellings fuel) {d : Nat}
    {ms : List (String × Json)} {cs rest : List Char} (h : readMembers (fuel + 1) d cs = some (ms, rest)) :
    ∃ text, skipSpace cs = text ++ rest ∧ Spells d (.members ms) text := by
  rw [readMembers] at h
  split at h
  · cases h
  · rename_i name afterName hname
    obtain ⟨label, hlabelText, hlabel⟩ := isLabel_of_readName hname
    split at h
    · cases h
    · rename_i j after hvalue
      obtain ⟨text, htext, hspells⟩ := ih d (.value j) _ _ hvalue
      obtain ⟨gap, hgap, rfl⟩ := eq_of_skipSpace htext
      split at h
      · rename_i hclose
        cases h
        obtain ⟨ws, hws, rfl⟩ := eq_of_skipSpace hclose
        exact ⟨_, by rw [hlabelText]; simp, .lastMember hlabel hgap hspells hws⟩
      · rename_i hcomma
        obtain ⟨⟨ms, tail⟩, hmembers, heq⟩ := Option.map_eq_some_iff.1 h
        cases heq
        obtain ⟨ws, hws, rfl⟩ := eq_of_skipSpace hcomma
        obtain ⟨text', htext', hspells'⟩ := ih d (.members ms) _ _ hmembers
        obtain ⟨ws', hws', rfl⟩ := eq_of_skipSpace htext'
        exact ⟨_, by rw [hlabelText]; simp, .member hlabel hgap hspells hws hws' hspells'⟩
      · cases h

/-- **Only spellings are read.** -/
theorem readsOnlySpellings (fuel : Nat) : ReadsOnlySpellings fuel := by
  induction fuel with
  | zero =>
    rintro d (j | js | ms) cs rest h
    all_goals cases h
  | succ fuel ih =>
    rintro d (j | js | ms) cs rest h
    · exact ih.value h
    · exact ih.items h
    · exact ih.members h

/-! ## Whole texts -/

/-- The text spells the document, with nothing but blanks around. -/
def SpelledIn (d : Nat) (j : Json) (cs : List Char) : Prop :=
  ∃ ws text ws', Blank ws ∧ Blank ws' ∧ Spells d (.value j) text ∧ cs = ws ++ (text ++ ws')

/-- A document that a text spells is read from it, and only blanks are left. -/
theorem SpelledIn.readValue {d : Nat} {j : Json} {cs : List Char} (h : SpelledIn d j cs) {fuel : Nat}
    (hfuel : 2 * cs.length ≤ fuel) : ∃ rest, Blank rest ∧ readValue fuel d cs = some (j, rest) := by
  obtain ⟨ws, text, ws', hws, hws', hspells, rfl⟩ := h
  have hends : Ends ws' := by simpa using hws'.ends ends_nil
  have hread : Reads fuel d (.value j) (text ++ ws') ws' :=
    reads_of_spells hspells (by simp at hfuel; omega) hends
  exact ⟨ws', hws', by rw [readValue_blank hws]; exact hread⟩

theorem parseChars_eq_some_iff {cs : List Char} {j : Json} :
    parseChars cs = some j ↔ SpelledIn maxDepth j cs := by
  constructor
  · intro h
    unfold parseChars at h
    split at h
    · rename_i rest hread
      obtain ⟨hblank, heq⟩ := Option.ite_none_right_eq_some.1 h
      cases heq
      obtain ⟨text, htext, hspells⟩ := readsOnlySpellings _ maxDepth (.value j) _ _ hread
      obtain ⟨ws, hws, rfl⟩ := eq_of_skipSpace htext
      exact ⟨ws, text, rest, hws, skipSpace_eq_nil_iff.1 (List.isEmpty_iff.1 hblank), hspells, rfl⟩
    · cases h
  · intro h
    obtain ⟨rest, hblank, hread⟩ := h.readValue (Nat.le_add_right (2 * cs.length) 2)
    rw [parseChars, hread]
    simp [skipSpace_eq_nil_iff.2 hblank]

/-- **`parse` reads exactly the spellings** of documents that nest at most `maxDepth` deep. -/
theorem parse_eq_some_iff {s : String} {j : Json} : parse s = some j ↔ SpelledIn maxDepth j s.toList :=
  parseChars_eq_some_iff

theorem Spells.spelledIn {d : Nat} {j : Json} {cs : List Char} (h : Spells d (.value j) cs) :
    SpelledIn d j cs := ⟨[], cs, [], .nil, .nil, h, by simp⟩

theorem Spells.parse {d : Nat} {j : Json} {cs : List Char} (h : Spells d (.value j) cs) (hd : d ≤ maxDepth) :
    parse (String.ofList cs) = some j := by
  rw [parse_eq_some_iff, String.toList_ofList]
  exact (h.mono hd).spelledIn

theorem SpelledIn.mono {d d' : Nat} {j : Json} {cs : List Char} (h : SpelledIn d j cs) (hd : d ≤ d') :
    SpelledIn d' j cs := by
  obtain ⟨ws, text, ws', hws, hws', hspells, heq⟩ := h
  exact ⟨ws, text, ws', hws, hws', hspells.mono hd, heq⟩

/-- A text spells one document only. -/
theorem SpelledIn.unique {d d' : Nat} {j j' : Json} {cs : List Char} (h : SpelledIn d j cs)
    (h' : SpelledIn d' j' cs) : j = j' := by
  obtain ⟨_, -, hread⟩ := (h.mono (Nat.le_max_left d d')).readValue (Nat.le_refl _)
  obtain ⟨_, -, hread'⟩ := (h'.mono (Nat.le_max_right d d')).readValue (Nat.le_refl _)
  rw [hread, Option.some.injEq, Prod.mk.injEq] at hread'
  exact hread'.1

end Triage.Json
