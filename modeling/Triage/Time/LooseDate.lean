import Triage.Text.Case
import Triage.Time.Instant

/-!
# Dates in many forms

Feeds write dates in whatever form they like. A form is a list of slots (a year of four digits, a
month by name, a separator, …); a text is read by the first form that it fills completely. Where
day and month are both numbers with the year last, the month comes first. A time without an offset
is universal time.

Dates can be written in more forms than these, and a text in another form is taken for no date, so
that it stays as it is. Left out are, among others, a time of day with `AM` or `PM`, also after a
month by name (`May 8, 2009 5:57:51 PM`); a time of day after a date with slashes or points
(`3/31/2014 22:05`), or after a `T` without seconds (`2006-01-02T15:04`); a month by name between
hyphens or slashes (`8-Mar-2018`), or with only a year (`May 2009`); a day with an ending
(`May 8th, 2009`); and counts of micro- or nanoseconds.
-/
namespace Triage.Time

/-- What a form expects at one place. -/
inductive Slot where
  | mark (c : Char)
  | year
  /-- Two digits, from 69 on in the twentieth century. -/
  | shortYear
  /-- One or two digits. -/
  | month
  /-- Two digits. -/
  | month2
  | day
  | day2
  | monthWord
  | weekdayWord
  | hour
  | minute
  | second
  | fraction
  /-- `Z` or `+01:00`. -/
  | offset
  /-- `+0100`. -/
  | plainOffset
  /-- A zone by name, which adds nothing. -/
  | zoneWord
  /-- A space or two. -/
  | gap
  /-- Ten digits. -/
  | unixSeconds
  /-- Thirteen digits. -/
  | unixMillis

structure Reading where
  year : Nat := 1
  month : Nat := 1
  day : Nat := 1
  hour : Nat := 0
  minute : Nat := 0
  second : Nat := 0
  nanos : Nat := 0
  offset : Int := 0
  unixMillis : Option Nat := none

def monthNames : List String :=
  ["january", "february", "march", "april", "may", "june", "july", "august", "september", "october",
    "november", "december"]

def weekdayNames : List String :=
  ["monday", "tuesday", "wednesday", "thursday", "friday", "saturday", "sunday"]

/-- The place of a word among the names, which may be shortened to three letters. -/
def namePlace? (names : List String) (word : List Char) : Option Nat :=
  let w := String.ofList (word.map Char.toLower)
  names.findIdx? fun name => w == name || w == String.ofList (name.toList.take 3)

/-- The letters that begin a text. -/
def readWord (cs : List Char) : Option (List Char × List Char) :=
  let (word, rest) := cs.span Char.isAlpha
  if word.isEmpty then none else some (word, rest)

def Slot.fill (r : Reading) (cs : List Char) : Slot → Option (Reading × List Char)
  | mark c => (readMark c cs).map fun rest => (r, rest)
  | year => (readFixed 4 cs).map fun (n, rest) => ({ r with year := n }, rest)
  | shortYear =>
    (readFixed 2 cs).map fun (n, rest) => ({ r with year := if 69 ≤ n then 1900 + n else 2000 + n }, rest)
  | month => (readShort cs).map fun (n, rest) => ({ r with month := n }, rest)
  | month2 => (readFixed 2 cs).map fun (n, rest) => ({ r with month := n }, rest)
  | day => (readShort cs).map fun (n, rest) => ({ r with day := n }, rest)
  | day2 => (readFixed 2 cs).map fun (n, rest) => ({ r with day := n }, rest)
  | monthWord => do
    let (word, rest) ← readWord cs
    let place ← namePlace? monthNames word
    return ({ r with month := place + 1 }, rest)
  | weekdayWord => do
    let (word, rest) ← readWord cs
    let _ ← namePlace? weekdayNames word
    return (r, rest)
  | hour => (readShort cs).map fun (n, rest) => ({ r with hour := n }, rest)
  | minute => (readFixed 2 cs).map fun (n, rest) => ({ r with minute := n }, rest)
  | second => (readFixed 2 cs).map fun (n, rest) => ({ r with second := n }, rest)
  | fraction => let (n, rest) := readFraction cs; some ({ r with nanos := n }, rest)
  | offset => (readOffset cs).map fun (n, rest) => ({ r with offset := n }, rest)
  | plainOffset =>
    match cs with
    | c :: cs => do
      let sign : Int ← if c = '+' then some 1 else if c = '-' then some (-1) else none
      let (hours, cs) ← readFixed 2 cs
      let (minutes, cs) ← readFixed 2 cs
      return ({ r with offset := sign * (Int.ofNat hours * 3600 + Int.ofNat minutes * 60) }, cs)
    | [] => none
  | zoneWord => (readWord cs).map fun (_, rest) => (r, rest)
  | gap => (readMark ' ' cs).map fun rest => (r, (readMark ' ' rest).getD rest)
  | unixSeconds => (readFixed 10 cs).map fun (n, rest) => ({ r with unixMillis := some (n * 1000) }, rest)
  | unixMillis => (readFixed 13 cs).map fun (n, rest) => ({ r with unixMillis := some n }, rest)

/-- Fills all slots and leaves nothing over. -/
def fillAll : List Slot → Reading → List Char → Option Reading
  | [], r, cs => if cs.isEmpty then some r else none
  | slot :: slots, r, cs => (slot.fill r cs).bind fun (r, rest) => fillAll slots r rest

def clockSlots : List Slot := [.hour, .mark ':', .minute, .mark ':', .second]

def isoSlots : List Slot := [.year, .mark '-', .month, .mark '-', .day]

def dateForms : List (List Slot) := [
  isoSlots,
  [.year, .mark '/', .month, .mark '/', .day],
  [.year, .mark '.', .month, .mark '.', .day],
  [.year, .month2, .day2],
  [.year],
  [.year, .mark '-', .month],
  [.month, .mark '/', .day, .mark '/', .year],
  [.month, .mark '/', .day, .mark '/', .shortYear],
  [.month, .mark '.', .day, .mark '.', .year],
  [.unixSeconds],
  [.unixMillis]]

/-- A date with the year first, then other slots, a time of day, and what may follow it. -/
def isoClock (between after : List Slot) : List Slot := isoSlots ++ between ++ clockSlots ++ after

/-- The forms with a time of day after a date with the year first. -/
def isoForms : List (List Slot) := [
  isoClock [.mark 'T'] [.fraction, .offset],
  isoClock [.mark 'T'] [.fraction],
  isoSlots.append [.gap, .hour, .mark ':', .minute],
  isoClock [.gap] [.fraction],
  isoClock [.gap] [.fraction, .gap, .plainOffset],
  isoClock [.gap] [.fraction, .gap, .plainOffset, .gap, .zoneWord]]

def aroundClock (before after : List Slot) : List Slot := before ++ clockSlots ++ after

def wordForms : List (List Slot) := [
  [.monthWord, .gap, .day, .mark ',', .gap, .year],
  [.monthWord, .gap, .day, .gap, .year],
  [.day, .gap, .monthWord, .gap, .year],
  aroundClock [.weekdayWord, .mark ',', .gap, .day, .gap, .monthWord, .gap, .year, .gap] [.gap, .zoneWord],
  aroundClock [.weekdayWord, .gap, .monthWord, .gap, .day, .gap] [.gap, .year]]

def looseForms : List (List Slot) := dateForms ++ isoForms ++ wordForms

/-- The stamp of a reading, if the date and the time of day exist. -/
def Reading.stamp? (r : Reading) : Option Stamp :=
  match r.unixMillis with
  | some n => some ⟨⟨Int.ofNat n * 1000000⟩, 0⟩
  | none =>
    let date : Date := ⟨r.year, r.month, r.day⟩
    if !date.isValid || 23 < r.hour || 59 < r.minute || 59 < r.second then none
    else
      let seconds := Int.ofNat (r.hour * 3600 + r.minute * 60 + r.second)
      some ⟨Instant.ofClock date seconds r.nanos r.offset, r.offset⟩

/-- The stamp that a text in one of the forms spells; none for a text in any other form. -/
def readLoose? (s : String) : Option Stamp :=
  (looseForms.findSome? fun form => fillAll form {} s.toList).bind Reading.stamp?

end Triage.Time
