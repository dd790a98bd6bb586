import Triage.Number.Binary
import Triage.Number.Layout
import Triage.Number.Reader
import Triage.Text.Quoted

/-!
# Durations

A duration is a number of nanoseconds of 64 bits. Its text gives hours, minutes and seconds, or one
smaller unit for less than a second. It is read as a sequence of decimal numbers, each with a unit.
-/
namespace Triage.Time

open Number (signedLimit)

structure Duration where
  nanos : Int
  deriving Repr, DecidableEq, Inhabited

namespace Duration

def maxNanos : Int := Int.ofNat signedLimit - 1

/-- The shortest duration, that is, the longest negative one. -/
def minNanos : Int := -Int.ofNat signedLimit

def ofSeconds (n : Int) : Duration := ⟨n * 1000000000⟩
def ofMinutes (n : Int) : Duration := ofSeconds (n * 60)
def ofHours (n : Int) : Duration := ofMinutes (n * 60)

/-! ## Writing -/

/-- A number of units with as many decimals as it needs, where `unit` is a power of ten. -/
def decimals (nanos unit : Nat) : String :=
  let places := (Number.digitChars unit).length - 1
  let fraction := (Number.zeroPadded places (nanos % unit)).reverse.dropWhile (· == '0') |>.reverse
  let fraction := if places = 0 || fraction.isEmpty then [] else '.' :: fraction
  toString (nanos / unit) ++ String.ofList fraction

def magnitudeText (n : Nat) : String :=
  if n = 0 then "0s"
  else if n < 1000 then decimals n 1 ++ "ns"
  else if n < 1000000 then decimals n 1000 ++ "µs"
  else if n < 1000000000 then decimals n 1000000 ++ "ms"
  else
    let seconds := decimals (n % 60000000000) 1000000000 ++ "s"
    let minutes := n / 60000000000
    if minutes = 0 then seconds
    else if minutes < 60 then toString minutes ++ "m" ++ seconds
    else toString (minutes / 60) ++ "h" ++ toString (minutes % 60) ++ "m" ++ seconds

def text (d : Duration) : String :=
  if d.nanos < 0 then "-" ++ magnitudeText d.nanos.natAbs else magnitudeText d.nanos.natAbs

/-! ## Reading -/

inductive ParseError where
  | invalid
  | missingUnit
  | unknownUnit (unit : String)
  deriving Repr, DecidableEq

/-- A character of a quoted duration; what is not printable ASCII is written byte by byte. -/
def quoteChar (c : Char) : List Char :=
  if c.toNat < 0x20 ∨ 0x80 ≤ c.toNat then
    (String.utf8EncodeChar c).flatMap fun b => '\\' :: 'x' :: Text.hexChars 2 b.toNat
  else if c = '"' ∨ c = '\\' then ['\\', c]
  else [c]

/-- A text between quotes as messages about durations show it. -/
def quote (s : String) : String :=
  String.ofList ('"' :: s.toList.flatMap quoteChar ++ ['"'])

/-- The wording for a refused duration. -/
def ParseError.message (text : String) : ParseError → String
  | invalid => "time: invalid duration " ++ quote text
  | missingUnit => "time: missing unit in duration " ++ quote text
  | unknownUnit unit => "time: unknown unit " ++ quote unit ++ " in duration " ++ quote text

def unitNanos? (unit : String) : Option Nat :=
  if unit = "ns" then some 1
  else if unit = "us" ∨ unit = "µs" ∨ unit = "μs" then some 1000
  else if unit = "ms" then some 1000000
  else if unit = "s" then some 1000000000
  else if unit = "m" then some 60000000000
  else if unit = "h" then some 3600000000000
  else none

/-- Digits before the point, as long as the number stays in range. -/
def wholePart (ds : List Char) : Option Nat :=
  (ds.filterMap Number.digitValue?).foldlM (fun n d =>
    if signedLimit / 10 < n then none
    else
      let n := n * 10 + d
      if signedLimit < n then none else some n) 0

/-- Digits after the point and the power of ten they are divided by; digits beyond the range are
passed over. -/
def fractionPart (ds : List Char) : Nat × Float :=
  let (n, scale, _) := (ds.filterMap Number.digitValue?).foldl (fun (n, scale, full) d =>
    if full || (signedLimit - 1) / 10 < n then (n, scale, true)
    else
      let m := n * 10 + d
      if signedLimit < m then (n, scale, true) else (m, scale * 10, false)) (0, (1.0 : Float), false)
  (n, scale)

/-- The whole part of a double that is not negative. -/
def truncate (x : Float) : Nat :=
  match Number.parts x with
  | .finite _ m e => if 0 ≤ e then m * Nat.pow 2 e.natAbs else m / Nat.pow 2 e.natAbs
  | _ => 0

/-- One number with its unit, in nanoseconds, and the rest of the text. -/
def readTerm (cs : List Char) : Except ParseError (Nat × List Char) := do
  let isDigit := fun c => (Number.digitValue? c).isSome
  let (whole, cs) := cs.span isDigit
  let (fraction, point, cs) :=
    match cs with
    | '.' :: cs => let (ds, rest) := cs.span isDigit; (ds, true, rest)
    | cs => ([], false, cs)
  if whole.isEmpty && fraction.isEmpty then throw .invalid
  let some v := wholePart whole | throw .invalid
  let (f, scale) := fractionPart fraction
  let (unit, cs) := cs.span fun c => !(c == '.' || isDigit c)
  if unit.isEmpty then throw .missingUnit
  let some nanos := unitNanos? (String.ofList unit) | throw (.unknownUnit (String.ofList unit))
  if signedLimit / nanos < v then throw .invalid
  let total := v * nanos + if point && 0 < f then truncate (Float.ofNat f * (Float.ofNat nanos / scale)) else 0
  if signedLimit < total then throw .invalid
  return (total, cs)

/-- The sum of the terms of a text. Each term is at least two characters long. -/
def readTerms : (fuel : Nat) → (sum : Nat) → List Char → Except ParseError Nat
  | _, sum, [] => .ok sum
  | 0, _, _ => .error .invalid
  | fuel + 1, sum, cs => do
    let (n, cs) ← readTerm cs
    if signedLimit < sum + n then throw .invalid
    readTerms fuel (sum + n) cs

def parse (s : String) : Except ParseError Duration :=
  let (negative, cs) := Number.readSign s.toList
  if cs = ['0'] then .ok ⟨0⟩
  else if cs.isEmpty then .error .invalid
  else do
    let n ← readTerms cs.length 0 cs
    if negative then return ⟨-Int.ofNat n⟩
    else if signedLimit ≤ n then throw .invalid
    else return ⟨Int.ofNat n⟩

end Duration

end Triage.Time
