import Triage.Number.Binary

/-!
# The shortest decimal of a double

The fewest digits that read back as the same double, and of those the decimal nearest to it. The
search is exact: for one, two, … digits it tries the two neighbours of the value on that decimal
grid against the interval of reals that round to the double.
-/
namespace Triage.Number

/-- The number `digits * 10 ^ exponent`; `digits` does not end in zero unless it is zero. -/
structure Decimal where
  digits : Nat
  exponent : Int
  deriving Repr, DecidableEq

/-- How many decimal digits `n` has. -/
def digitCount (n : Nat) : Nat := (Nat.toDigits 10 n).length

/-- The exponent of the leading decimal digit of the positive quotient `num / den`. -/
def magnitude (num den : Nat) : Int :=
  if den ≤ num then Int.ofNat (digitCount (num / den)) - 1
  else -Int.ofNat (digitCount ((den - 1) / num))

/-- `digits * 10 ^ exponent` without trailing zeros; `fuel` bounds their number. -/
def stripZeros : (fuel digits : Nat) → Int → Decimal
  | 0, d, e => ⟨d, e⟩
  | fuel + 1, d, e => if d ≠ 0 ∧ d % 10 = 0 then stripZeros fuel (d / 10) (e + 1) else ⟨d, e⟩

/-- The reals that round to one double, in units of a quarter of its last place: the open ends, the
value between them, and whether the ends belong to it. -/
structure Interval where
  low : Nat
  value : Nat
  high : Nat
  closed : Bool

/-- The interval of the double `m * 2 ^ e`. Below a power of two the doubles are twice as dense. -/
def interval (m : Nat) (e : Int) : Interval :=
  let dense := m = Nat.pow 2 52 ∧ -1074 < e
  ⟨if dense then 4 * m - 1 else 4 * m - 2, 4 * m, 4 * m + 2, m % 2 = 0⟩

/-- `num / den` lies in the interval. -/
def Interval.holds (i : Interval) (num den : Nat) : Bool :=
  if i.closed then i.low * den ≤ num && num ≤ i.high * den
  else i.low * den < num && num < i.high * den

/-- The decimal with the digit count `n` that lies in the interval, if there is one. `up / down` is
the length of the interval's unit and `lead` the exponent of the value's leading digit. -/
def onGrid (i : Interval) (up down : Nat) (lead : Int) (n : Nat) : Option (Nat × Int) :=
  let e := lead + 1 - Int.ofNat n
  -- one grid step, measured in units of the interval
  let num := (if 0 ≤ e then Nat.pow 10 e.natAbs else 1) * down
  let den := (if 0 ≤ e then 1 else Nat.pow 10 e.natAbs) * up
  let below := i.value * den / num
  let above := below + 1
  let belowIn := i.holds (below * num) den
  let aboveIn := i.holds (above * num) den
  let toBelow := i.value * den - below * num
  let toAbove := above * num - i.value * den
  if belowIn && (!aboveIn || toBelow < toAbove || (toBelow == toAbove && below % 2 == 0)) then
    some (below, e)
  else if aboveIn then some (above, e)
  else none

/-- The first of the digit counts `n, n + 1, …` that has a hit; seventeen digits always do. -/
def firstGrid (i : Interval) (up down : Nat) (lead : Int) : (fuel n : Nat) → Nat × Int
  | 0, _ => (0, 0)
  | fuel + 1, n => (onGrid i up down lead n).getD (firstGrid i up down lead fuel (n + 1))

/-- The shortest decimal of the double `m * 2 ^ e`. -/
def shortest (m : Nat) (e : Int) : Decimal :=
  if m = 0 then ⟨0, 0⟩
  else
    let i := interval m e
    let unit := e - 2
    let up := if 0 ≤ unit then Nat.pow 2 unit.natAbs else 1
    let down := if 0 ≤ unit then 1 else Nat.pow 2 unit.natAbs
    let (d, exponent) := firstGrid i up down (magnitude (i.value * up) down) 17 1
    stripZeros 17 d exponent

end Triage.Number
