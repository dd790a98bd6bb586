import Triage.Json.Basic

/-!
# Reading JSON

A document is one value with nothing but blanks around it. Containers nest at most ten thousand
deep. The reader is total: it is given as much fuel as the text has characters, and each call it
makes has consumed at least one of them.
-/
namespace Triage.Json

/-- The blanks of the format. -/
def isSpace (c : Char) : Bool :=
  c == ' ' || c == '\t' || c == '\n' || c == '\r'

/-- The text without leading blanks. -/
def skipSpace (cs : List Char) : List Char := cs.dropWhile isSpace

/-- The body of a string whose opening quote has been read, and what follows the closing one. -/
def readBody : List Char → Option (List Char × List Char)
  | [] => none
  | '"' :: cs => some ([], cs)
  | '\\' :: 'u' :: a :: b :: c :: d :: cs =>
    if (hexNumber? a b c d).isNone then none
    else (readBody cs).map fun (body, rest) => ('\\' :: 'u' :: a :: b :: c :: d :: body, rest)
  | '\\' :: c :: cs =>
    if c ∈ ['"', '\\', '/', 'b', 'f', 'n', 'r', 't'] then
      (readBody cs).map fun (body, rest) => ('\\' :: c :: body, rest)
    else none
  | c :: cs =>
    if c.toNat < 0x20 ∨ c = '\\' then none
    else (readBody cs).map fun (body, rest) => (c :: body, rest)

theorem readBody_unit {a b c d : Char} (hex : (hexNumber? a b c d).isSome) (cs : List Char) :
    readBody ('\\' :: 'u' :: a :: b :: c :: d :: cs) =
      (readBody cs).map fun (body, rest) => ('\\' :: 'u' :: a :: b :: c :: d :: body, rest) := by
  rw [readBody, if_neg (by simpa [Option.isNone_iff_eq_none, Option.isSome_iff_ne_none] using hex)]

theorem letter_ne_u {c : Char} (hc : c ∈ ['"', '\\', '/', 'b', 'f', 'n', 'r', 't']) : c ≠ 'u' := by
  rintro rfl
  revert hc
  decide

theorem readBody_letter {c : Char} (hc : c ∈ ['"', '\\', '/', 'b', 'f', 'n', 'r', 't']) (cs : List Char) :
    readBody ('\\' :: c :: cs) = (readBody cs).map fun (body, rest) => ('\\' :: c :: body, rest) := by
  rw [readBody, if_pos hc]
  intro _ _ _ _ _ h
  exact absurd h (letter_ne_u hc)

theorem readBody_plain {c : Char} (control : 0x20 ≤ c.toNat) (quote : c ≠ '"') (slash : c ≠ '\\')
    (cs : List Char) :
    readBody (c :: cs) = (readBody cs).map fun (body, rest) => (c :: body, rest) := by
  rw [readBody, if_neg (by simp only [slash, or_false]; omega)]
  · exact quote
  · intro _ _ _ _ _ h
    exact absurd h slash
  · intro _ _ h
    exact absurd h slash

def readDigits (cs : List Char) : Option (List Char × List Char) :=
  let (ds, rest) := cs.span fun c => (Number.digitValue? c).isSome
  if ds.isEmpty then none else some (ds, rest)

/-- The whole part of a number: zero, or digits that do not begin with zero. -/
def readWhole : List Char → Option (List Char × List Char)
  | '0' :: cs => some (['0'], cs)
  | cs => readDigits cs

def readFraction : List Char → Option (List Char × List Char)
  | '.' :: cs => (readDigits cs).map fun (ds, rest) => ('.' :: ds, rest)
  | cs => some ([], cs)

def readExponentSign : List Char → List Char × List Char
  | '+' :: cs => (['+'], cs)
  | '-' :: cs => (['-'], cs)
  | cs => ([], cs)

def readPower : List Char → Option (List Char × List Char)
  | [] => some ([], [])
  | c :: cs =>
    if c = 'e' ∨ c = 'E' then
      let (sign, cs) := readExponentSign cs
      (readDigits cs).map fun (ds, rest) => (c :: sign ++ ds, rest)
    else some ([], c :: cs)

/-- A number without its sign. -/
def readMagnitude (cs : List Char) : Option (List Char × List Char) := do
  let (whole, cs) ← readWhole cs
  let (fraction, cs) ← readFraction cs
  let (power, cs) ← readPower cs
  return (whole ++ fraction ++ power, cs)

def readNumber : List Char → Option (List Char × List Char)
  | '-' :: cs => (readMagnitude cs).map fun (literal, rest) => ('-' :: literal, rest)
  | cs => readMagnitude cs

/-- A value that is not a container. -/
def readScalar : List Char → Option (Json × List Char)
  | 'n' :: 'u' :: 'l' :: 'l' :: cs => some (.null, cs)
  | 't' :: 'r' :: 'u' :: 'e' :: cs => some (.bool true, cs)
  | 'f' :: 'a' :: 'l' :: 's' :: 'e' :: cs => some (.bool false, cs)
  | '"' :: cs => (readBody cs).map fun (body, rest) => (.string (String.ofList body), rest)
  | cs => (readNumber cs).map fun (literal, rest) => (.number (String.ofList literal), rest)

/-- A member name with its colon. -/
def readName (cs : List Char) : Option (String × List Char) :=
  match skipSpace cs with
  | '"' :: cs =>
    (readBody cs).bind fun (body, rest) =>
      match skipSpace rest with
      | ':' :: rest => some (String.ofList body, rest)
      | _ => none
  | _ => none

mutual

/-- A value after blanks. `depth` is how much deeper containers may nest. -/
def readValue : (fuel depth : Nat) → List Char → Option (Json × List Char)
  | 0, _, _ => none
  | fuel + 1, depth, cs =>
    match skipSpace cs with
    | '[' :: cs =>
      if depth = 0 then none
      else
        match skipSpace cs with
        | ']' :: cs => some (.array [], cs)
        | cs => (readItems fuel (depth - 1) cs).map fun (items, rest) => (.array items, rest)
    | '{' :: cs =>
      if depth = 0 then none
      else
        match skipSpace cs with
        | '}' :: cs => some (.object [], cs)
        | cs => (readMembers fuel (depth - 1) cs).map fun (members, rest) => (.object members, rest)
    | cs => readScalar cs

/-- The items of an array up to and with its closing bracket. -/
def readItems : (fuel depth : Nat) → List Char → Option (List Json × List Char)
  | 0, _, _ => none
  | fuel + 1, depth, cs =>
    match readValue fuel depth cs with
    | none => none
    | some (item, cs) =>
      match skipSpace cs with
      | ']' :: cs => some ([item], cs)
      | ',' :: cs => (readItems fuel depth cs).map fun (items, rest) => (item :: items, rest)
      | _ => none

/-- The members of an object up to and with its closing brace. -/
def readMembers : (fuel depth : Nat) → List Char → Option (List (String × Json) × List Char)
  | 0, _, _ => none
  | fuel + 1, depth, cs =>
    match readName cs with
    | none => none
    | some (name, cs) =>
      match readValue fuel depth cs with
      | none => none
      | some (value, cs) =>
        match skipSpace cs with
        | '}' :: cs => some ([(name, value)], cs)
        | ',' :: cs =>
          (readMembers fuel depth cs).map fun (members, rest) => ((name, value) :: members, rest)
        | _ => none

end

/-- Blanks in front of a value do not matter. -/
theorem readValue_congr {cs cs' : List Char} (h : skipSpace cs = skipSpace cs') (fuel depth : Nat) :
    readValue fuel depth cs = readValue fuel depth cs' := by
  cases fuel with
  | zero => rfl
  | succ fuel => rw [readValue, readValue, h]

/-- How deep containers may nest. -/
def maxDepth : Nat := 10000

/-- The document that a text holds. -/
def parseChars (cs : List Char) : Option Json :=
  match readValue (2 * cs.length + 2) maxDepth cs with
  | some (j, rest) => if (skipSpace rest).isEmpty then some j else none
  | none => none

def parse (s : String) : Option Json := parseChars s.toList

/-- The document at the front of a text, and what follows it. -/
def readFirst? (s : String) : Option (Json × List Char) :=
  readValue (2 * s.length + 2) maxDepth s.toList

/-- `s` is a JSON document. -/
def isValid (s : String) : Bool := (parse s).isSome

/-! ## Members with their text

An object can also be read one level deep only, with the text of each value as it stands. -/

/-- The text of the member value that begins `cs` after blanks, and the rest. The object around it takes
one level of nesting. -/
def rawValue (cs : List Char) : Option (List Char × List Char) :=
  let cs := skipSpace cs
  (readValue (2 * cs.length + 2) (maxDepth - 1) cs).map fun (_, rest) =>
    (cs.take (cs.length - rest.length), rest)

/-- Names and value texts up to and with the closing brace. -/
def rawMembersFrom : (fuel : Nat) → List Char → Option (List (String × String) × List Char)
  | 0, _ => none
  | fuel + 1, cs => do
    let (name, cs) ← readName cs
    let (raw, cs) ← rawValue cs
    match skipSpace cs with
    | '}' :: cs => some ([(unescape name, String.ofList raw)], cs)
    | ',' :: cs =>
      (rawMembersFrom fuel cs).map fun (members, rest) =>
        ((unescape name, String.ofList raw) :: members, rest)
    | _ => none

/-- The members of the object that a text holds, each with the text of its value. -/
def rawMembers (s : String) : Option (List (String × String)) :=
  match skipSpace s.toList with
  | '{' :: cs =>
    match skipSpace cs with
    | '}' :: rest => if (skipSpace rest).isEmpty then some [] else none
    | cs =>
      (rawMembersFrom (cs.length + 1) cs).bind fun (members, rest) =>
        if (skipSpace rest).isEmpty then some members else none
  | _ => none

end Triage.Json
