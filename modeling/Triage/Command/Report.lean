import Triage.Finding.Document
import Triage.Intel.Forecasts
import Triage.Json.Printer
import Triage.Scoring

/-!
# Reports

Findings are reported as an indented JSON array or as a table with a line for each finding, coloured
by tier, and a line with the counts of the tiers at the end.
-/
namespace Triage.Report

inductive Format where
  | table
  | json
  deriving Repr, DecidableEq

def Format.ofName (name : String) : Except Failure Format :=
  if name = "table" ∨ name = "terminal" then .ok .table
  else if name = "json" then .ok .json
  else .error (.plain ("unsupported format " ++ Text.quoted name ++ ", must be one of: table, json"))

/-! ## JSON -/

/-- The findings as an indented array and a final newline. -/
def json (fs : List Finding) : Except Failure String :=
  match Finding.listToJson? fs with
  | some j => .ok (j.indented ++ "\n")
  | none => .error .notEncodable

/-! ## Table -/

/-- A text between the control sequences that begin and end a colour. -/
structure Colour where
  begin : String
  finish : String

def Colour.bold : Colour := ⟨"\x1b[1m", "\x1b[22m"⟩

def Colour.ofTier (tier : String) : Colour :=
  match Priority.ofName? tier with
  | some .immediate => ⟨"\x1b[31;1m", "\x1b[0;22m"⟩
  | some .critical => ⟨"\x1b[31m", "\x1b[0m"⟩
  | some .high => ⟨"\x1b[33m", "\x1b[0m"⟩
  | some .medium => ⟨"\x1b[36m", "\x1b[0m"⟩
  | _ => ⟨"\x1b[37m", "\x1b[0m"⟩

def paint (colours : Bool) (c : Colour) (s : String) : String :=
  if colours then c.begin ++ s ++ c.finish else s

def identifier (f : Finding) : String :=
  if f.cve ≠ "" then f.cve
  else if f.id ≠ "" then f.id
  else
    match f.vulnerabilityId with
    | some id => if id = "" then "-" else id
    | none => "-"

def package (f : Finding) : String :=
  if f.package = "" then "-"
  else if f.version = "" then f.package
  else f.package ++ "@" ++ f.version

/-- The cell for known exploitation. -/
def exploited (f : Finding) : String :=
  match f.exploited with
  | none => "?"
  | some s => if s.unknown then "?" else if s.inCatalog then "yes" else "no"

def forecast (f : Finding) : String :=
  match f.forecast with
  | none => "-"
  | some s => if s.error ≠ "" then "-" else Likelihood.percentage s.probability

def exploit (f : Finding) : String :=
  match f.exploit with
  | none => "-"
  | some r => if r.maturity = "" then "-" else if r.weaponized then "weaponized" else r.maturity

def fix (f : Finding) : String :=
  match f.remediation with
  | none => "-"
  | some r => if r.fixedVersion = "" then "-" else r.fixedVersion

/-- `s` if it has at most `width` bytes, else as many bytes as leave room for three dots. A byte of a
character that is cut is shown as a replacement character. -/
def shorten (width : Nat) (s : String) : String :=
  if s.utf8ByteSize ≤ width then s
  else
    let (taken, cut) := Text.takeBytes (width - 3) s.toList
    String.ofList (taken ++ List.replicate cut '�') ++ "..."

def heading : String :=
  Text.join "  "
    [Text.padRight 12 "PRIORITY", Text.padLeft 6 "RISK", Text.padRight 16 "CVE",
      Text.padRight 28 "PACKAGE", Text.padRight 3 "KEV", Text.padLeft 7 "EPSS",
      Text.padRight 10 "EXPLOIT", "FIX"]

def line (colours : Bool) (f : Finding) : String :=
  Text.join "  "
    [paint colours (.ofTier f.priority) (Text.padRight 12 f.priority),
      Text.padLeft 6 (Number.twoPlaces f.riskScore), Text.padRight 16 (identifier f),
      Text.padRight 28 (shorten 28 (package f)), Text.padRight 3 (exploited f),
      Text.padLeft 7 (forecast f), Text.padRight 10 (exploit f), fix f] ++ "\n"

/-- The counts of the tiers, and how many findings miss some of their enrichment. -/
def closing (colours : Bool) (fs : List Finding) : String :=
  let counts := (prioritySummary fs).map fun (p, n) =>
    paint colours (.ofTier p.name) (p.name ++ "=" ++ toString n)
  let incomplete := fs.countP (!·.enrichmentErrors.isEmpty)
  toString fs.length ++ " findings: " ++ Text.join " " counts ++ "\n" ++
    if incomplete = 0 then ""
    else toString incomplete ++ " findings have incomplete enrichment, see --format json for details\n"

def table (colours : Bool) (fs : List Finding) : String :=
  if fs.isEmpty then "No findings to report.\n"
  else
    paint colours .bold heading ++ "\n" ++ String.join (fs.map (line colours)) ++ "\n" ++
      closing colours fs

def render (format : Format) (colours : Bool) (fs : List Finding) : Except Failure String :=
  match format with
  | .table => .ok (table colours fs)
  | .json => json fs

end Triage.Report
