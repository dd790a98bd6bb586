import Triage.Number.Binary

/-!
# Reading numbers

Decimal and hexadecimal floating-point text, whole numbers of 64 bits and truth values, each
accepting exactly one spelling discipline: no surrounding space, an optional sign, and an
underscore only between digits. A number beyond the range of doubles is refused, one too small to
represent is zero.
-/
namespace Triage.Number

/-! ## Whole numbers of 64 bits -/

/-- Two to the power of 63: numbers with a sign are below it, and not below its negative. -/
def signedLimit : Nat := 9223372036854775808

/-- Two to the power of 64: numbers without a sign are below it. -/
def unsignedLimit : Nat := 18446744073709551616

/-- The number fits into 64 bits with a sign. -/
def fitsSigned (n : Int) : Bool := -Int.ofNat signedLimit ≤ n && n < Int.ofNat signedLimit

/-! ## Digits -/

def digitValue? (c : Char) : Option Nat :=
  if '0' ≤ c ∧ c ≤ '9' then some (c.toNat - 48) else none

/-- The value of a digit in base sixteen. -/
def hexValue? (c : Char) : Option Nat :=
  if '0' ≤ c ∧ c ≤ '9' then some (c.toNat - 48)
  else if 'a' ≤ c ∧ c ≤ 'f' then some (c.toNat - 87)
  else if 'A' ≤ c ∧ c ≤ 'F' then some (c.toNat - 55)
  else none

/-- The number that a list of digit values spells. -/
def digitsToNat (base : Nat) (ds : List Nat) : Nat :=
  ds.foldl (fun n d => n * base + d) 0

/-- `±digits * 10 ^ exponent`, or nothing beyond the range of doubles. -/
def ofDecimal? (negative : Bool) (digits : Nat) (exponent : Int) : Option Float :=
  let size := Int.ofNat (Nat.toDigits 10 digits).length + exponent
  let magnitude? :=
    if digits = 0 ∨ size < -400 then some 0.0
    else if 400 < size then none
    else
      let x := Float.ofScientific digits (exponent < 0) exponent.natAbs
      if isFinite x then some x else none
  magnitude?.map fun x => if negative then -x else x

/-- `±mantissa * 2 ^ exponent`, or nothing beyond the range of doubles. -/
def ofBinary? (negative : Bool) (mantissa : Nat) (exponent : Int) : Option Float :=
  let size := Int.ofNat (Nat.log2 mantissa) + exponent
  if mantissa = 0 ∨ size < -1200 then some (if negative then -0.0 else 0.0)
  else if 1200 < size then none
  else if 0 ≤ exponent then ofDecimal? negative (mantissa * Nat.pow 2 exponent.natAbs) 0
  else ofDecimal? negative (mantissa * Nat.pow 5 exponent.natAbs) exponent

/-- An optional sign in front of a number. -/
def readSign : List Char → Bool × List Char
  | '+' :: cs => (false, cs)
  | '-' :: cs => (true, cs)
  | cs => (false, cs)

/-- Digits with at most one point: the digits' values, and how many of them follow the point. -/
structure Mantissa where
  digits : List Nat
  point : Bool
  after : Nat

/-- Reads digits, underscores and the first point. -/
def readMantissa (value? : Char → Option Nat) :
    List Char → Mantissa → Mantissa × List Char
  | [], m => (⟨m.digits.reverse, m.point, m.after⟩, [])
  | c :: cs, m =>
    if c = '_' then readMantissa value? cs m
    else if c = '.' ∧ !m.point then readMantissa value? cs { m with point := true }
    else
      match value? c with
      | some d => readMantissa value? cs ⟨d :: m.digits, m.point, if m.point then m.after + 1 else 0⟩
      | none => (⟨m.digits.reverse, m.point, m.after⟩, c :: cs)

/-- Underscores stand only between digits, or between the base mark and a digit. `prev` tells
whether the last character was a digit, an underscore or something else. -/
def underscoresSeparate (isDigit : Char → Bool) : (prev : Char) → List Char → Bool
  | prev, [] => prev != '_'
  | prev, c :: cs =>
    if isDigit c then underscoresSeparate isDigit '0' cs
    else if c = '_' then prev == '0' && underscoresSeparate isDigit '_' cs
    else prev != '_' && underscoresSeparate isDigit '!' cs

/-- The underscores of an unsigned number are well placed. -/
def underscoresOk : List Char → Bool
  | '0' :: c :: cs =>
    if c = 'x' ∨ c = 'X' then underscoresSeparate (fun d => (hexValue? d).isSome) '0' cs
    else if c ∈ ['b', 'B', 'o', 'O'] then underscoresSeparate (fun d => (digitValue? d).isSome) '0' cs
    else underscoresSeparate (fun d => (digitValue? d).isSome) '^' ('0' :: c :: cs)
  | cs => underscoresSeparate (fun d => (digitValue? d).isSome) '^' cs

/-- Digits and underscores of an exponent, beginning with a digit, to the end of the text. -/
def readExponentDigits (cs : List Char) : Option Nat :=
  match cs with
  | [] => none
  | c :: _ =>
    if (digitValue? c).isNone then none
    else if cs.all fun d => d == '_' || (digitValue? d).isSome then
      some (digitsToNat 10 (cs.filterMap digitValue?))
    else none

/-- The exponent that follows `mark`, which may be missing if `required` is false. -/
def readExponent (mark : Char) (required : Bool) : List Char → Option Int
  | [] => if required then none else some 0
  | c :: cs =>
    if c.toLower = mark then
      let (negative, cs) := readSign cs
      (readExponentDigits cs).map fun n => if negative then -Int.ofNat n else Int.ofNat n
    else none

/-- A floating-point number without sign. -/
def readUnsigned (negative : Bool) (cs : List Char) : Option Float :=
  let hex : Bool :=
    match cs with
    | '0' :: x :: _ :: _ => x = 'x' ∨ x = 'X'
    | _ => false
  if cs.any (· == '_') && !underscoresOk cs then none
  else if hex then
    let (m, rest) := readMantissa hexValue? (cs.drop 2) ⟨[], false, 0⟩
    if m.digits.isEmpty then none
    else
      (readExponent 'p' true rest).bind fun e =>
        ofBinary? negative (digitsToNat 16 m.digits) (e - 4 * Int.ofNat m.after)
  else
    let (m, rest) := readMantissa digitValue? cs ⟨[], false, 0⟩
    if m.digits.isEmpty then none
    else
      (readExponent 'e' false rest).bind fun e =>
        ofDecimal? negative (digitsToNat 10 m.digits) (e - Int.ofNat m.after)

/-- A floating-point number: decimal, hexadecimal, or a spelling of infinity or NaN. -/
def readFloat? (s : String) : Option Float :=
  let word := s.toList.map Char.toLower
  let infinity := fun w => w = "inf".toList ∨ w = "infinity".toList
  if word = "nan".toList then some (0.0 / 0.0)
  else
    let (negative, unsigned) := readSign s.toList
    if infinity (unsigned.map Char.toLower) then
      some (if negative then -1.0 / 0.0 else 1.0 / 0.0)
    else readUnsigned negative unsigned

/-- Why a whole number is refused. -/
inductive IntError where
  | malformed
  | outOfRange
  deriving Repr, DecidableEq

/-- The value of a digit in bases up to thirty-six. -/
def alphanumericValue? (c : Char) : Option Nat :=
  if c.isDigit then some (c.toNat - '0'.toNat)
  else if c.isAlpha then some (c.toLower.toNat - 'a'.toNat + 10)
  else none

/-- The digits of a base to the end of the text, after `n`. That the number is beyond 64 bits is noticed
before a later character that is no digit. -/
def readDigits (base : Nat) (underscores : Bool) : (n : Nat) → List Char → Except IntError Nat
  | n, [] => .ok n
  | n, c :: cs =>
    if underscores && c == '_' then readDigits base underscores n cs
    else
      match (alphanumericValue? c).filter (· < base) with
      | none => .error .malformed
      | some d =>
        if unsignedLimit ≤ n * base + d then .error .outOfRange
        else readDigits base underscores (n * base + d) cs

/-- The number with a sign, if it fits into 64 bits. -/
def toInt64 (negative : Bool) (n : Nat) : Except IntError Int :=
  if negative then if n ≤ signedLimit then .ok (-Int.ofNat n) else .error .outOfRange
  else if n < signedLimit then .ok (Int.ofNat n) else .error .outOfRange

/-- A decimal whole number of 64 bits with optional sign. -/
def readInt64 (s : String) : Except IntError Int := do
  let (negative, cs) := readSign s.toList
  if cs.isEmpty then .error .malformed
  else toInt64 negative (← readDigits 10 false 0 cs)

/-- The base that a number without sign is written in, and its digits. -/
def splitBase : List Char → Nat × List Char
  | '0' :: c :: d :: cs =>
    if c.toLower = 'b' then (2, d :: cs)
    else if c.toLower = 'o' then (8, d :: cs)
    else if c.toLower = 'x' then (16, d :: cs)
    else (8, c :: d :: cs)
  | '0' :: cs => (8, cs)
  | cs => (10, cs)

/-- A whole number of 64 bits with optional sign, in the base that it shows: `0b`, `0o` or `0`, `0x`, or
ten. Underscores may separate digits. -/
def readAnyBase (s : String) : Except IntError Int := do
  let (negative, cs) := readSign s.toList
  if cs.isEmpty then .error .malformed
  else
    let (base, digits) := splitBase cs
    let n ← readDigits base true 0 digits
    if underscoresOk cs then toInt64 negative n else .error .malformed

/-- A truth value: `1 t T TRUE true True` or `0 f F FALSE false False`. -/
def readBool? (s : String) : Option Bool :=
  if s ∈ ["1", "t", "T", "TRUE", "true", "True"] then some true
  else if s ∈ ["0", "f", "F", "FALSE", "false", "False"] then some false
  else none

end Triage.Number
