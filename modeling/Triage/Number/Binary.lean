/-!
# Doubles as exact binary numbers

A finite double is a whole number times a power of two. Everything that has to be exact (rounding
to whole numbers, decimal text) is computed on that pair, never on approximations.
-/
namespace Triage.Number

/-- What a double stands for. The finite ones are `±mantissa * 2 ^ exponent`. -/
inductive Parts where
  | nan
  | infinite (negative : Bool)
  | finite (negative : Bool) (mantissa : Nat) (exponent : Int)
  deriving Repr, DecidableEq

/-- The sign, mantissa and exponent that the bits of `x` encode. -/
def parts (x : Float) : Parts :=
  let bits := x.toBits.toNat
  let negative := bits / Nat.pow 2 63 == 1
  let exponent := bits / Nat.pow 2 52 % Nat.pow 2 11
  let fraction := bits % Nat.pow 2 52
  if exponent = 2047 then
    if fraction = 0 then .infinite negative else .nan
  else if exponent = 0 then .finite negative fraction (-1074)
  else .finite negative (Nat.pow 2 52 + fraction) (Int.ofNat exponent - 1075)

/-- `x` is neither infinite nor NaN. -/
def isFinite (x : Float) : Bool :=
  match parts x with
  | .finite .. => true
  | _ => false

/-- Where a value halfway between two whole numbers goes. -/
inductive Tie where
  | away
  | even
  deriving Repr, DecidableEq

/-- The whole number nearest to `num / den`. -/
def roundDiv (tie : Tie) (num den : Nat) : Nat :=
  let q := num / den
  let twice := 2 * (num % den)
  if twice < den then q
  else if den < twice then q + 1
  else
    match tie with
    | .away => q + 1
    | .even => q + q % 2

/-- `x` with its fraction resolved by `whole`, which is given numerator and denominator of the
magnitude. A double without a fraction stays as it is, and the sign is kept. -/
def toWhole (whole : Nat → Nat → Nat) (x : Float) : Float :=
  match parts x with
  | .finite negative m e =>
    if 0 ≤ e then x
    else
      let n := Float.ofNat (whole m (Nat.pow 2 e.natAbs))
      if negative then -n else n
  | _ => x

/-- The nearest whole number, halves away from zero. -/
def round (x : Float) : Float := toWhole (roundDiv .away) x

/-- `x` rounded to two decimals, halves away from zero. -/
def roundCents (x : Float) : Float := round (x * 100) / 100

end Triage.Number
