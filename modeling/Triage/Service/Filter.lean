import Triage.Host.Url
import Triage.Priority
import Triage.Service.Overview
import Triage.Text.Case

/-!
# Selecting findings

The query of an address is read as pairs of names and values. A pair with a malformed escape or a
semicolon is dropped. Values are bytes, since escapes can spell bytes that are no text.

A request for findings asks for tiers, a vulnerability and a part of the source, and sets a limit.
Without a limit, or with a limit of zero, all findings that match are returned.
-/
namespace Triage.Query

/-- A name with its value. -/
abbrev Pair := List UInt8 × List UInt8

def pair? (part : List Char) : Option Pair :=
  if part.isEmpty || part.contains ';' then none
  else
    let (name, value) := (Text.cutFirst '=' part).getD (part, [])
    match Url.decode .query name, Url.decode .query value with
    | .ok name, .ok value => some (name, value)
    | _, _ => none

def parse (query : String) : List Pair := (Text.splitChars '&' query.toList).filterMap pair?

/-- The first value for a name; empty if there is none. -/
def value (pairs : List Pair) (name : String) : List UInt8 :=
  (pairs.lookup (Text.bytes name.toList)).getD []

def text (pairs : List Pair) (name : String) : String := Text.ofBytes (value pairs name)

end Triage.Query

namespace Triage

/-- The highest limit that is accepted. -/
def maxLimit : Nat := 10000

/-- How many bytes a filter may have. -/
def maxFilterLength : Nat := 200

/-- What a request for findings asks for. -/
structure Filter where
  /-- The tiers; none means all of them. -/
  priorities : Option (List Priority) := none
  /-- The vulnerability; empty means all of them. -/
  cve : String := ""
  /-- A part of the source, in bytes. -/
  source : List UInt8 := []
  limit : Nat := 0
  deriving Repr, DecidableEq

namespace Filter

/-- What can be wrong with a query. -/
inductive Problem where
  | priority
  | limit
  | limitTooLarge
  | tooLong
  deriving Repr, DecidableEq

def Problem.message : Problem → String
  | priority =>
    "Invalid priority filter. Must be one of: P0-IMMEDIATE, P1-CRITICAL, P2-HIGH, P3-MEDIUM, P4-LOW"
  | limit => "Invalid limit parameter. Must be a positive integer"
  | limitTooLarge => "Limit parameter too large. Maximum allowed is 10000"
  | tooLong => "Filter too long. Maximum allowed is 200 characters"

/-- The tiers of a list with commas; none for a blank text. -/
def parsePriorities (s : String) : Except Problem (Option (List Priority)) :=
  let s := Text.trim s
  if s = "" then .ok none
  else
    match (Text.split ',' s).mapM Priority.parse? with
    | some ps => .ok (some ps)
    | none => .error .priority

/-- A limit; zero for a blank text. -/
def parseLimit (s : String) : Except Problem Nat :=
  let s := Text.trim s
  if s = "" then .ok 0
  else
    match Number.readInt64 s with
    | .error _ => .error .limit
    | .ok n =>
      if n < 0 then .error .limit
      else if maxLimit < n.toNat then .error .limitTooLarge
      else .ok n.toNat

def isBlankPiece : Text.Piece → Bool
  | .char c => Text.isBlank c
  | .stray _ => false

def pieceBytes : Text.Piece → List UInt8
  | .char c => Text.bytes [c]
  | .stray b => [b]

def trimBytes (bs : List UInt8) : List UInt8 :=
  let ps := (Text.pieces bs).dropWhile isBlankPiece
  (ps.reverse.dropWhile isBlankPiece).reverse.flatMap pieceBytes

def parse (pairs : List Query.Pair) : Except Problem Filter := do
  let cve := Text.upper (Text.trim (Query.text pairs "cve"))
  let source := trimBytes (Query.value pairs "source")
  let priorities ← parsePriorities (Query.text pairs "priority")
  let limit ← parseLimit (Query.text pairs "limit")
  if maxFilterLength < cve.utf8ByteSize || maxFilterLength < source.length then throw .tooLong
  else return { priorities, cve, source, limit }

def allowsPriority (q : Filter) (f : Finding) : Bool :=
  match q.priorities with
  | none => true
  | some ps => ps.any (·.name == f.priority)

def accepts (q : Filter) (f : Finding) : Bool :=
  q.allowsPriority f && (q.cve == "" || f.cve == q.cve) &&
    Text.hasPart q.source (Text.bytes f.source.toList)

/-- The findings that are asked for, without regard to the limit. -/
def select (q : Filter) (fs : List Finding) : List Finding := fs.filter q.accepts

def page (q : Filter) (fs : List Finding) : List Finding :=
  if q.limit = 0 then q.select fs else (q.select fs).take q.limit

/-- The document that answers a query. -/
def answer? (q : Filter) (fs : List Finding) (lastUpdated : String) : Option Json := do
  let findings ← (q.page fs).mapM Finding.toJson?
  return .object <|
    [ Json.member "findings" (.array findings), Json.member "total" (Json.ofInt fs.length),
      Json.member "matched" (Json.ofInt (q.select fs).length),
      Json.member "summary" (prioritySummaryJson (prioritySummary fs)) ] ++
    Json.textUnlessEmpty "last_updated" lastUpdated

end Filter

end Triage
