import Triage.Number.Reader
import Triage.Text.Pieces

/-!
# Versions

Version numbers of packages: numeric segments, then a pre-release part after a hyphen or a letter, and
build metadata after a plus sign. `Version.compare` orders them by their segments, where missing ones
are zero; of two versions with the same segments the one without a pre-release part is greater.
Pre-release parts are compared between their dots, numbers below words.
-/
namespace Triage

/-- A version, with three segments at least. -/
structure Version where
  segments : List Nat
  prerelease : List Char := []
  metadata : List Char := []
  deriving Repr, DecidableEq

namespace Version

/-! ## Reading -/

def isWordChar (c : Char) : Bool := c.isAlpha || c == '-' || c == '~'

def isPartChar (c : Char) : Bool := isWordChar c || c.isDigit

/-- Parts between dots, none of them empty. -/
def isDotted (cs : List Char) : Bool :=
  (Text.splitChars '.' cs).all fun part => !part.isEmpty && part.all isPartChar

/-- The segments at the front of a text; `n` is what has been read of the first one. -/
def readSegments : (n : Nat) → List Char → List Nat × List Char
  | n, [] => ([n], [])
  | n, '.' :: c :: rest =>
    match Number.digitValue? c with
    | some d =>
      let (segments, rest) := readSegments d rest
      (n :: segments, rest)
    | none => ([n], '.' :: c :: rest)
  | n, c :: rest =>
    match Number.digitValue? c with
    | some d => readSegments (n * 10 + d) rest
    | none => ([n], c :: rest)

/-- The pre-release part in what stands between the segments and the metadata. The hyphen before it is
not part of it, unless nothing else would be left at the front. -/
def readPrerelease : List Char → Option (List Char)
  | [] => some []
  | '-' :: rest =>
    let part := if rest.head?.any isPartChar then rest else '-' :: rest
    if isDotted part then some part else none
  | c :: rest => if isWordChar c && isDotted (c :: rest) then some (c :: rest) else none

/-- Segments filled up with zeros to three. -/
def padSegments (segments : List Nat) : List Nat :=
  segments ++ List.replicate (3 - segments.length) 0

/-- The version that follows the optional letter at the front. -/
def parseNumber : List Char → Option Version
  | [] => none
  | c :: rest => do
    let (segments, rest) := readSegments (← Number.digitValue? c) rest
    let (middle, metadata) :=
      match Text.cutFirst '+' rest with
      | some (middle, metadata) => (middle, some metadata)
      | none => (rest, none)
    let prerelease ← readPrerelease middle
    if segments.any (Number.signedLimit ≤ ·) || metadata.any (!isDotted ·) then none
    else return { segments := padSegments segments, prerelease, metadata := metadata.getD [] }

def parse? (s : String) : Option Version :=
  match s.toList with
  | 'v' :: cs => parseNumber cs
  | cs => parseNumber cs

/-! ## Order -/

def partNumber? (part : List Char) : Option Int := (Number.readInt64 (String.ofList part)).toOption

/-- The number that stands for a part: its own, the nearest one there is if that is too large, and
zero for a word. -/
def partValue (part : List Char) : Int :=
  match Number.readInt64 (String.ofList part) with
  | .ok n => n
  | .error .malformed => 0
  | .error .outOfRange => if part.head? = some '-' then -Int.ofNat Number.signedLimit else Int.ofNat Number.signedLimit - 1

/-- The order of two parts of pre-releases. A part that is missing comes before a number and after a
word, and a number comes before a word. -/
def comparePart (a b : List Char) : Ordering :=
  if a = b then .eq
  else if a = [] then if (partNumber? b).isSome then .lt else .gt
  else if b = [] then if (partNumber? a).isSome then .gt else .lt
  else
    match partNumber? a, partNumber? b with
    | some _, none => .lt
    | none, some _ => .gt
    | some m, some n => if n < m then .gt else .lt
    | none, none => if b < a then .gt else if partValue b < partValue a then .gt else .lt

/-- The order of two lists of parts, by the first place where they differ. -/
def compareParts : List (List Char) → List (List Char) → Ordering
  | [], [] => .eq
  | a :: as, [] => (comparePart a []).then (compareParts as [])
  | [], b :: bs => (comparePart [] b).then (compareParts [] bs)
  | a :: as, b :: bs => (comparePart a b).then (compareParts as bs)

/-- The order of two pre-release parts; without one comes last. -/
def comparePrerelease (a b : List Char) : Ordering :=
  if a = b then .eq
  else if a = [] then .gt
  else if b = [] then .lt
  else compareParts (Text.splitChars '.' a) (Text.splitChars '.' b)

/-- The order of two lists of segments, where missing segments are zero. -/
def compareSegments : List Nat → List Nat → Ordering
  | [], bs => if bs.all (· == 0) then .eq else .lt
  | as, [] => if as.all (· == 0) then .eq else .gt
  | a :: as, b :: bs => if a = b then compareSegments as bs else Ord.compare a b

/-- The order of two versions. -/
def compare (v w : Version) : Ordering :=
  if v = w then .eq
  else if v.segments = w.segments then comparePrerelease v.prerelease w.prerelease
  else compareSegments v.segments w.segments

end Version

end Triage
