import Triage.Number.Shortest

/-!
# Written forms of doubles

Three forms share the shortest digits: numbers in JSON, numbers in messages and in the metrics
text, which switch to an exponent at other sizes, and amounts with two decimals, which are rounded
from the exact value.
-/
namespace Triage.Number

/-- How a shortest decimal is laid out. -/
structure Layout where
  /-- Exponents of the leading digit from which on (below which) an exponent is written. -/
  least : Int
  beyond : Int
  /-- The least number of digits of a written exponent. -/
  exponentDigits : Nat

/-- Numbers in JSON text: positional from `0.000001` up to twenty-one digits. -/
def Layout.json : Layout := ⟨-6, 21, 1⟩

/-- Numbers in messages and metrics: positional from `0.0001` up to six digits, and an exponent has
two digits at least. -/
def Layout.general : Layout := ⟨-4, 6, 2⟩

/-- The decimal digits of `n`. -/
def digitChars (n : Nat) : List Char := Nat.toDigits 10 n

/-- `n` with zeros in front up to `width` digits. -/
def zeroPadded (width n : Nat) : List Char :=
  let ds := digitChars n
  List.replicate (width - ds.length) '0' ++ ds

def positional (d : Decimal) : List Char :=
  let ds := digitChars d.digits
  if 0 ≤ d.exponent then ds ++ List.replicate d.exponent.natAbs '0'
  else
    let places := d.exponent.natAbs
    if places < ds.length then
      ds.take (ds.length - places) ++ '.' :: ds.drop (ds.length - places)
    else '0' :: '.' :: (List.replicate (places - ds.length) '0' ++ ds)

/-- A decimal with one digit before the point and an exponent, where `lead` is the exponent of the
leading digit. -/
def scientific (exponentDigits : Nat) (d : Decimal) (lead : Int) : List Char :=
  let mantissa :=
    match digitChars d.digits with
    | [] => []
    | [c] => [c]
    | c :: cs => c :: '.' :: cs
  mantissa ++ 'e' :: (if lead < 0 then '-' else '+') :: zeroPadded exponentDigits lead.natAbs

/-- The shortest decimal of a finite double in this layout. -/
def Layout.finite (l : Layout) (negative : Bool) (m : Nat) (e : Int) : List Char :=
  let d := shortest m e
  let lead := Int.ofNat (digitCount d.digits) - 1 + d.exponent
  let body :=
    if m = 0 then ['0']
    else if lead < l.least || l.beyond ≤ lead then scientific l.exponentDigits d lead
    else positional d
  if negative then '-' :: body else body

/-- A double in this layout, with `NaN`, `+Inf` and `-Inf` for those that have no decimal. -/
def Layout.write (l : Layout) (x : Float) : String :=
  match parts x with
  | .nan => "NaN"
  | .infinite negative => if negative then "-Inf" else "+Inf"
  | .finite negative m e => String.ofList (l.finite negative m e)

/-- A double with two decimals, rounded from its exact value with halves to even. -/
def twoPlaces (x : Float) : String :=
  match parts x with
  | .nan => "NaN"
  | .infinite negative => if negative then "-Inf" else "+Inf"
  | .finite negative m e =>
    let num := 100 * m * (if 0 ≤ e then Nat.pow 2 e.natAbs else 1)
    let den := if 0 ≤ e then 1 else Nat.pow 2 e.natAbs
    let cents := roundDiv .even num den
    let body := digitChars (cents / 100) ++ '.' :: zeroPadded 2 (cents % 100)
    String.ofList (if negative then '-' :: body else body)

end Triage.Number
