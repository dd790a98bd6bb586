import Triage.Number.Layout
import Triage.Number.Reader
import Triage.Time.Calendar
import Triage.Time.Duration

/-!
# Instants and their text

An instant is a number of nanoseconds from the first of January 1970 in universal time. A stamp is
an instant together with the offset of the clock that showed it. Stamps are written and read in the
internet format: `2024-06-01T12:00:00Z`, with as many digits of a fraction as needed and an offset
where it is not zero.
-/
namespace Triage.Time

/-- A point in time, in nanoseconds. -/
structure Instant where
  nanos : Int
  deriving Repr, DecidableEq, Inhabited

/-- The first instant of the year one, which stands for no time at all. -/
def Instant.zero : Instant := ⟨-62135596800 * 1000000000⟩

namespace Instant

def add (t : Instant) (d : Duration) : Instant := ⟨t.nanos + d.nanos⟩

/-- The time from `u` to `t`, limited to the range of durations. -/
def since (t u : Instant) : Duration :=
  ⟨max Duration.minNanos (min Duration.maxNanos (t.nanos - u.nanos))⟩

/-- Whole seconds from the first of January 1970. -/
def unixSeconds (t : Instant) : Int := t.nanos / 1000000000

end Instant

/-- An instant as shown by a clock that is `offset` seconds ahead of universal time. -/
structure Stamp where
  instant : Instant
  offset : Int := 0
  deriving Repr, DecidableEq, Inhabited

/-- The instant of a date and a time of day, both shown by a clock with the given offset. -/
def Instant.ofClock (date : Date) (seconds nanos : Int) (offset : Int) : Instant :=
  ⟨(date.toDays * 86400 + seconds - offset) * 1000000000 + nanos⟩

/-! ## Writing -/

/-- A year with four digits at least. -/
def yearText (year : Int) : String :=
  (if year < 0 then "-" else "") ++ String.ofList (Number.zeroPadded 4 year.natAbs)

/-- `n` with two digits. -/
def twoDigits (n : Int) : String := String.ofList (Number.zeroPadded 2 n.natAbs)

/-- The date as `2024-06-01`. -/
def Date.text (d : Date) : String :=
  yearText d.year ++ "-" ++ twoDigits d.month ++ "-" ++ twoDigits d.day

namespace Stamp

/-- Seconds shown by the clock, from the first of January 1970. -/
def clockSeconds (s : Stamp) : Int := s.instant.unixSeconds + s.offset

def date (s : Stamp) : Date := Date.ofDays (s.clockSeconds / 86400)

/-- The offset as `Z` or `+02:00`. -/
def offsetText (offset : Int) : String :=
  if offset = 0 then "Z"
  else
    let minutes := offset.natAbs / 60
    (if offset < 0 then "-" else "+") ++ twoDigits (minutes / 60) ++ ":" ++ twoDigits (minutes % 60)

/-- Date and time of day down to the second. -/
def secondsText (s : Stamp) : String :=
  let t := s.clockSeconds % 86400
  s.date.text ++ "T" ++ twoDigits (t / 3600) ++ ":" ++ twoDigits (t / 60 % 60) ++ ":" ++ twoDigits (t % 60)

/-- The fraction of the second, as many digits as needed. -/
def fractionText (s : Stamp) : String :=
  let nanos := (s.instant.nanos % 1000000000).toNat
  let digits := (Number.zeroPadded 9 nanos).reverse.dropWhile (· == '0') |>.reverse
  if digits.isEmpty then "" else String.ofList ('.' :: digits)

/-- The written form of a stamp. -/
def text (s : Stamp) : String := s.secondsText ++ s.fractionText ++ offsetText s.offset

/-- What keeps a stamp from having a written form that can be read back, if anything: the year has to have
four digits, and the offset has to be less than a day. -/
def unwritable? (s : Stamp) : Option String :=
  if s.date.year < 0 ∨ 9999 < s.date.year then some "year outside of range [0,9999]"
  else if 86400 ≤ s.offset.natAbs then some "timezone hour outside of range [0,23]"
  else none

/-- The written form of a stamp without the fraction of the second. -/
def wholeText (s : Stamp) : String := s.secondsText ++ offsetText s.offset

end Stamp

/-- The written form of an instant in universal time. -/
def Instant.text (t : Instant) : String := Stamp.text ⟨t, 0⟩

/-! ## Reading -/

/-- A number of exactly `width` digits. -/
def readFixed : (width : Nat) → List Char → Option (Nat × List Char)
  | 0, cs => some (0, cs)
  | width + 1, cs =>
    match cs with
    | [] => none
    | c :: cs => do
      let d ← Number.digitValue? c
      let (n, rest) ← readFixed width cs
      return (d * Nat.pow 10 width + n, rest)

/-- A number of one or two digits. -/
def readShort (cs : List Char) : Option (Nat × List Char) :=
  match readFixed 2 cs with
  | some r => some r
  | none => readFixed 1 cs

/-- The text after one expected character. -/
def readMark (mark : Char) : List Char → Option (List Char)
  | [] => none
  | c :: cs => if c = mark then some cs else none

/-- The nanoseconds of a fraction after a point or a comma, if there is one. -/
def readFraction : List Char → Nat × List Char
  | [] => (0, [])
  | c :: cs =>
    let (ds, rest) := cs.span fun d => (Number.digitValue? d).isSome
    if (c = '.' ∨ c = ',') ∧ !ds.isEmpty then
      let ds := (ds.filterMap Number.digitValue?).take 9
      (Number.digitsToNat 10 ds * Nat.pow 10 (9 - ds.length), rest)
    else (0, c :: cs)

/-- An offset: `Z`, or hours and minutes with a sign. -/
def readOffset : List Char → Option (Int × List Char)
  | 'Z' :: cs => some (0, cs)
  | c :: cs => do
    let sign : Int ← if c = '+' then some 1 else if c = '-' then some (-1) else none
    let (hours, cs) ← readFixed 2 cs
    let cs ← readMark ':' cs
    let (minutes, cs) ← readFixed 2 cs
    if 24 < hours ∨ 60 < minutes then none
    else return (sign * (Int.ofNat hours * 3600 + Int.ofNat minutes * 60), cs)
  | [] => none

/-- The stamp that a text of the internet format spells. -/
def Stamp.parse? (s : String) : Option Stamp := do
  let (year, cs) ← readFixed 4 s.toList
  let cs ← readMark '-' cs
  let (month, cs) ← readFixed 2 cs
  let cs ← readMark '-' cs
  let (day, cs) ← readFixed 2 cs
  let cs ← readMark 'T' cs
  let (hour, cs) ← readShort cs
  let cs ← readMark ':' cs
  let (minute, cs) ← readFixed 2 cs
  let cs ← readMark ':' cs
  let (second, cs) ← readFixed 2 cs
  let (nanos, cs) := readFraction cs
  let (offset, cs) ← readOffset cs
  let date : Date := ⟨year, month, day⟩
  if !cs.isEmpty || !date.isValid || 23 < hour || 59 < minute || 59 < second then none
  else
    let seconds := Int.ofNat (hour * 3600 + minute * 60 + second)
    return ⟨Instant.ofClock date seconds nanos offset, offset⟩

end Triage.Time
