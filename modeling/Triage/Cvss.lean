import Triage.Number.Binary
import Triage.Text.Case
import Triage.Text.Pieces

/-!
# CVSS vectors and their base scores

A vector lists metrics as `name:value` parts between slashes. Versions 3.0 and 3.1 begin with the
version and take the metrics in any order, each at most once; version 2 begins with its first
metric and has a fixed order. Only the base score is computed. The arithmetic is that of doubles,
each operation rounded on its own, in the order in which the formulas are written.
-/
namespace Triage.Cvss

/-- The parts of a vector, each a metric name and its value. -/
abbrev Metrics := List (String × String)

/-- A part of a vector, split at its first colon. -/
def part? (cs : List Char) : Option (String × String) :=
  (Text.cutFirst ':' cs).map fun (name, value) => (String.ofList name, String.ofList value)

def Metrics.value (ms : Metrics) (name : String) : String := (ms.lookup name).getD ""

/-! ## Versions 3.0 and 3.1 -/

/-- The metrics that every vector of version 3 has, with their values. -/
def base3 : List (String × List String) :=
  [("AV", ["N", "A", "L", "P"]), ("AC", ["L", "H"]), ("PR", ["N", "L", "H"]), ("UI", ["N", "R"]),
    ("S", ["U", "C"]), ("C", ["H", "L", "N"]), ("I", ["H", "L", "N"]), ("A", ["H", "L", "N"])]

/-- The metrics that a vector of version 3 may have besides. -/
def optional3 : List (String × List String) :=
  [("E", ["X", "H", "F", "P", "U"]), ("RL", ["X", "U", "W", "T", "O"]), ("RC", ["X", "C", "R", "U"]),
    ("CR", ["X", "H", "M", "L"]), ("IR", ["X", "H", "M", "L"]), ("AR", ["X", "H", "M", "L"]),
    ("MAV", ["X", "N", "A", "L", "P"]), ("MAC", ["X", "L", "H"]), ("MPR", ["X", "N", "L", "H"]),
    ("MUI", ["X", "N", "R"]), ("MS", ["X", "U", "C"]), ("MC", ["X", "H", "L", "N"]),
    ("MI", ["X", "H", "L", "N"]), ("MA", ["X", "H", "L", "N"])]

/-- No name stands twice in the list. -/
def namesDistinct : Metrics → Bool
  | [] => true
  | (name, _) :: rest => rest.all (·.1 != name) && namesDistinct rest

/-- The metrics after the version: known ones with known values, none twice, no base metric missing. -/
def parse3 (body : List Char) : Option Metrics := do
  let ms ← (Text.splitChars '/' body).mapM part?
  let known := ms.all fun (name, value) => ((base3 ++ optional3).lookup name).any (·.contains value)
  let complete := base3.all fun (name, _) => (ms.lookup name).isSome
  if known && namesDistinct ms && complete then some ms else none

def impactWeight3 (value : String) : Float :=
  if value = "H" then 0.56 else if value = "L" then 0.22 else 0

def vectorWeight3 (value : String) : Float :=
  if value = "N" then 0.85 else if value = "A" then 0.62 else if value = "L" then 0.55 else 0.2

/-- The weight of the required privileges, which count less when the scope changes. -/
def privilegeWeight3 (changed : Bool) (value : String) : Float :=
  if value = "N" then 0.85
  else if value = "L" then if changed then 0.68 else 0.62
  else if changed then 0.5 else 0.27

/-- The fifteenth power in version 3.1. -/
def power31 (f : Float) : Float :=
  let f2 := f * f
  let f4 := f2 * f2
  let f12 := f4 * f4 * f4
  f * f12 * f * f

/-- The fifteenth power in version 3.0. -/
def power30 (f : Float) : Float :=
  let f2 := f * f
  let f3 := f2 * f
  let f5 := f2 * f3
  f5 * f5 * f5

/-- The whole number nearest to a non-negative double, halves to even. -/
def nearestNat (x : Float) : Nat :=
  match Number.parts x with
  | .finite _ m e =>
    if 0 ≤ e then m * Nat.pow 2 e.natAbs else Number.roundDiv .even m (Nat.pow 2 e.natAbs)
  | _ => 0

/-- The least number with one decimal that is not below `x`, up to an error of the last digits. -/
def roundUp (x : Float) : Float :=
  let b := nearestNat (x * 100000)
  if b % 10000 = 0 then Float.ofNat b / 100000 else Float.ofNat (b / 10000 + 1) / 10

/-- The base score of the metrics, where `power` is the fifteenth power. -/
def score3 (power : Float → Float) (ms : Metrics) : Float :=
  let changed := ms.value "S" == "C"
  let iss := 1 - (1 - impactWeight3 (ms.value "C")) * (1 - impactWeight3 (ms.value "I")) *
    (1 - impactWeight3 (ms.value "A"))
  let impact := if changed then 7.52 * (iss - 0.029) - 3.25 * power (iss - 0.02) else 6.42 * iss
  let ac := if ms.value "AC" = "L" then 0.77 else 0.44
  let ui := if ms.value "UI" = "N" then 0.85 else 0.62
  let exploitability :=
    8.22 * vectorWeight3 (ms.value "AV") * ac * privilegeWeight3 changed (ms.value "PR") * ui
  if impact ≤ 0 then 0
  else
    let total := if changed then 1.08 * (impact + exploitability) else impact + exploitability
    roundUp (if total < 10 then total else 10)

/-! ## Version 2 -/

/-- The metrics of version 2 that every vector has, in their order. -/
def base2 : List (String × List String) :=
  [("AV", ["L", "A", "N"]), ("AC", ["L", "M", "H"]), ("Au", ["M", "S", "N"]), ("C", ["N", "P", "C"]),
    ("I", ["N", "P", "C"]), ("A", ["N", "P", "C"])]

/-- The temporal metrics of version 2, in their order. -/
def temporal2 : List (String × List String) :=
  [("E", ["ND", "U", "POC", "F", "H"]), ("RL", ["ND", "OF", "TF", "W", "U"]), ("RC", ["ND", "UC", "UR", "C"])]

/-- The environmental metrics of version 2, in their order. -/
def environmental2 : List (String × List String) :=
  [("CDP", ["ND", "N", "L", "LM", "MH", "H"]), ("TD", ["ND", "N", "L", "M", "H"]), ("CR", ["ND", "L", "M", "H"]),
    ("IR", ["ND", "L", "M", "H"]), ("AR", ["ND", "L", "M", "H"])]

/-- The parts are exactly the metrics of the groups, in order and with known values. -/
def followsOrder : List (String × List String) → Metrics → Bool
  | [], [] => true
  | (name, values) :: order, (n, v) :: ms => n == name && values.contains v && followsOrder order ms
  | _, _ => false

/-- The metrics of a vector of version 2: the base metrics, then the temporal ones or none of them,
then the environmental ones or none of them. -/
def parse2 (cs : List Char) : Option Metrics := do
  let ms ← (Text.splitChars '/' cs).mapM part?
  let orders := [base2, base2 ++ temporal2, base2 ++ environmental2, base2 ++ temporal2 ++ environmental2]
  if orders.any (followsOrder · ms) then some ms else none

def impactWeight2 (value : String) : Float :=
  if value = "N" then 0 else if value = "P" then 0.275 else 0.66

/-- The base score of the metrics of version 2. -/
def score2 (ms : Metrics) : Float :=
  let impact := 10.41 * (1 - (1 - impactWeight2 (ms.value "C")) * (1 - impactWeight2 (ms.value "I")) *
    (1 - impactWeight2 (ms.value "A")))
  let av := if ms.value "AV" = "L" then 0.395 else if ms.value "AV" = "A" then 0.646 else 1
  let ac := if ms.value "AC" = "L" then 0.71 else if ms.value "AC" = "M" then 0.61 else 0.35
  let au := if ms.value "Au" = "M" then 0.45 else if ms.value "Au" = "S" then 0.56 else 0.704
  let exploitability := 20 * av * ac * au
  let f := if impact == 0 then 0 else 1.176
  Number.round ((0.6 * impact + 0.4 * exploitability - 1.5) * f * 10) / 10

/-! ## Any version -/

/-- The base score of a vector without surrounding space and final slash. -/
def scoreChars? (cs : List Char) : Option Float :=
  if (Text.stripLead "CVSS:3.1".toList cs).isSome then
    (Text.stripLead "CVSS:3.1/".toList cs).bind fun body => (parse3 body).map (score3 power31)
  else if (Text.stripLead "CVSS:3.0".toList cs).isSome then
    (Text.stripLead "CVSS:3.0/".toList cs).bind fun body => (parse3 body).map (score3 power30)
  else if (Text.stripLead "AV:".toList cs).isSome then (parse2 cs).map score2
  else none

/-- The base score of a vector, if it is one. One final slash is passed over. -/
def score? (vector : String) : Option Float :=
  let cs := Text.trimChars vector.toList
  scoreChars? ((Text.stripTail ['/'] cs).getD cs)

end Triage.Cvss
