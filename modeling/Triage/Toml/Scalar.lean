import Triage.Number.Reader
import Triage.Text.Pieces
import Triage.Time.Instant

/-!
# Scalars of configuration files

Texts in their four forms of quotes, numbers, truth values and times, as they are written in a
configuration file.
-/
namespace Triage.Toml

/-- A control character that may not stand in a text or a comment. -/
def isControl (c : Char) : Bool := (c.toNat < 0x20 && c != '\t') || c.toNat == 0x7f

/-- A blank inside a line. -/
def isSpace (c : Char) : Bool := c == ' ' || c == '\t'

/-! ## Texts -/

/-- What has been read of an escape: nothing, the backslash, some hexadecimal digits, or a backslash
that breaks the line, before and after the break. -/
inductive Escape where
  | none
  | slash
  | hex (left value : Nat)
  | lineEnd
  | lineStart
  deriving Repr, DecidableEq

/-- The character that a letter after a backslash stands for. -/
def simpleEscape? (c : Char) : Option Char :=
  match c with
  | 'b' => some '\x08'
  | 't' => some '\t'
  | 'n' => some '\n'
  | 'f' => some '\x0c'
  | 'r' => some '\r'
  | '"' => some '"'
  | '\\' => some '\\'
  | _ => .none

/-- The state after a character that follows a backslash and is no simple escape. -/
def longEscape? (multiline : Bool) (c : Char) : Option Escape :=
  if c = 'u' then some (.hex 4 0)
  else if c = 'U' then some (.hex 8 0)
  else if multiline && c = '\n' then some .lineStart
  else if multiline && isSpace c then some .lineEnd
  else .none

def charOfNat? (n : Nat) : Option Char := if h : n.isValidChar then some (Char.ofNatAux n h) else .none

/-- The state and the character after a hexadecimal digit. -/
def hexStep? (left value : Nat) (c : Char) : Option (Escape × List Char) := do
  let value := value * 16 + (← Number.hexValue? c)
  if left ≤ 1 then return (.none, [← charOfNat? value]) else return (.hex (left - 1) value, [])

/-- The rest of a text in double quotes on one line. -/
def readBasic : Escape → List Char → Option (List Char × List Char)
  | _, [] => .none
  | .none, c :: rest =>
    if c = '"' then some ([], rest)
    else if c = '\\' then readBasic .slash rest
    else if isControl c then .none
    else (readBasic .none rest).map fun (cs, rest) => (c :: cs, rest)
  | .slash, c :: rest =>
    match simpleEscape? c with
    | some d => (readBasic .none rest).map fun (cs, rest) => (d :: cs, rest)
    | .none => (longEscape? false c).bind fun state => readBasic state rest
  | .hex left value, c :: rest =>
    match hexStep? left value c with
    | .none => .none
    | some (state, ds) => (readBasic state rest).map fun (cs, rest) => (ds ++ cs, rest)
  | .lineEnd, _ | .lineStart, _ => .none

/-- The rest of a text in single quotes on one line. -/
def readLiteral : List Char → Option (List Char × List Char)
  | [] => none
  | c :: rest =>
    if c = '\'' then some ([], rest)
    else if isControl c then none
    else (readLiteral rest).map fun (cs, rest) => (c :: cs, rest)

/-- The end of a text over several lines: three quotes, with one or two before them that belong to the
text. -/
def closing? (quote : Char) (cs : List Char) : Option (List Char × List Char) :=
  let run := (cs.takeWhile (· == quote)).length
  if run < 3 then none
  else
    let own := min (run - 3) 2
    some (List.replicate own quote, cs.drop (own + 3))

/-- The rest of a text in double quotes over several lines. -/
def readLongBasic : Escape → List Char → Option (List Char × List Char)
  | _, [] => .none
  | .none, c :: rest =>
    match closing? '"' (c :: rest) with
    | some found => some found
    | .none =>
      if c = '\\' then readLongBasic .slash rest
      else if isControl c && c != '\n' then .none
      else (readLongBasic .none rest).map fun (cs, rest) => (c :: cs, rest)
  | .slash, c :: rest =>
    match simpleEscape? c with
    | some d => (readLongBasic .none rest).map fun (cs, rest) => (d :: cs, rest)
    | .none => (longEscape? true c).bind fun state => readLongBasic state rest
  | .hex left value, c :: rest =>
    match hexStep? left value c with
    | .none => .none
    | some (state, ds) => (readLongBasic state rest).map fun (cs, rest) => (ds ++ cs, rest)
  | .lineEnd, c :: rest =>
    if isSpace c then readLongBasic .lineEnd rest
    else if c = '\n' then readLongBasic .lineStart rest
    else .none
  | .lineStart, c :: rest =>
    match closing? '"' (c :: rest) with
    | some found => some found
    | .none =>
      if isSpace c || c = '\n' then readLongBasic .lineStart rest
      else if c = '\\' then readLongBasic .slash rest
      else if isControl c then .none
      else (readLongBasic .none rest).map fun (cs, rest) => (c :: cs, rest)

/-- The rest of a text in single quotes over several lines. -/
def readLongLiteral : List Char → Option (List Char × List Char)
  | [] => none
  | c :: rest =>
    match closing? '\'' (c :: rest) with
    | some found => some found
    | none =>
      if isControl c && c != '\n' then none
      else (readLongLiteral rest).map fun (cs, rest) => (c :: cs, rest)

/-- A line break at the front of a text over several lines does not belong to it. -/
def dropBreak : List Char → List Char
  | '\n' :: cs => cs
  | cs => cs

/-- A text in quotes at the front. -/
def readText? : List Char → Option (List Char × List Char)
  | '"' :: '"' :: '"' :: cs => readLongBasic .none (dropBreak cs)
  | '"' :: cs => readBasic .none cs
  | '\'' :: '\'' :: '\'' :: cs => readLongLiteral (dropBreak cs)
  | '\'' :: cs => readLiteral cs
  | _ => none

/-! ## Numbers -/

/-- Digits with single underscores between them, without the underscores. -/
def digits? (isDigit : Char → Bool) (cs : List Char) : Option (List Char) :=
  let groups := Text.splitChars '_' cs
  if groups.all fun g => !g.isEmpty && g.all isDigit then some groups.flatten else none

/-- Decimal digits that do not begin with a zero, unless that is all. -/
def wholeDigits? (cs : List Char) : Option (List Char) :=
  (digits? Char.isDigit cs).filter fun ds => ds.length = 1 || ds.head? != some '0'

def basedInt? (base : Nat) (cs : List Char) : Option Nat :=
  let value (c : Char) : Option Nat := (Number.hexValue? c).filter (· < base)
  (digits? (fun c => (value c).isSome) cs).map fun ds => Number.digitsToNat base (ds.filterMap value)

def readInt? : List Char → Option Int
  | '0' :: 'x' :: cs => (basedInt? 16 cs).map Int.ofNat
  | '0' :: 'o' :: cs => (basedInt? 8 cs).map Int.ofNat
  | '0' :: 'b' :: cs => (basedInt? 2 cs).map Int.ofNat
  | cs =>
    let (negative, cs) := Number.readSign cs
    (wholeDigits? cs).map fun ds =>
      let n := Int.ofNat (Number.digitsToNat 10 (ds.filterMap Number.digitValue?))
      if negative then -n else n

/-- The exponent of a number, with its mark. -/
def readPower? : List Char → Option (List Char)
  | [] => some []
  | _ :: cs =>
    let (negative, ds) := Number.readSign cs
    (digits? Char.isDigit ds).map fun ds => 'e' :: (if negative then ['-'] else []) ++ ds

/-- The digits of a number before and after its point. -/
def readMantissa? (cs : List Char) : Option (List Char) :=
  match Text.cutFirst '.' cs with
  | none => wholeDigits? cs
  | some (whole, fraction) => do
    let whole ← wholeDigits? whole
    let fraction ← digits? Char.isDigit fraction
    return whole ++ '.' :: fraction

/-- A number with a point or an exponent, or one that is not finite. -/
def readFloat? (cs : List Char) : Option Float := do
  let (negative, body) := Number.readSign cs
  let sign := if negative then ['-'] else []
  if body = ['i', 'n', 'f'] || body = ['n', 'a', 'n'] then
    Number.readFloat? (String.ofList (sign ++ body))
  else
    let (mantissa, power) := body.span fun c => c != 'e' && c != 'E'
    let mantissa ← readMantissa? mantissa
    let power ← readPower? power
    Number.readFloat? (String.ofList (sign ++ mantissa ++ power))

/-! ## Times -/

def readClock? (cs : List Char) : Option (List Char) := do
  let (hour, cs) ← Time.readFixed 2 cs
  let cs ← Time.readMark ':' cs
  let (minute, cs) ← Time.readFixed 2 cs
  let cs ← Time.readMark ':' cs
  let (second, cs) ← Time.readFixed 2 cs
  if 23 < hour || 59 < minute || 59 < second then none
  else
    match cs with
    | '.' :: c :: rest => if c.isDigit then some (rest.dropWhile Char.isDigit) else none
    | ['.'] => none
    | _ => some cs

def readDate? (cs : List Char) : Option (List Char) := do
  let (year, cs) ← Time.readFixed 4 cs
  let cs ← Time.readMark '-' cs
  let (month, cs) ← Time.readFixed 2 cs
  let cs ← Time.readMark '-' cs
  let (day, cs) ← Time.readFixed 2 cs
  let date : Time.Date := ⟨year, month, day⟩
  if date.isValid then some cs else none

/-- A date, a time of the day, or both with or without an offset. -/
def isMoment (cs : List Char) : Bool :=
  match readDate? cs with
  | none => readClock? cs == some []
  | some [] => true
  | some (c :: rest) =>
    (c == 'T' || c == 't' || c == ' ') &&
      match readClock? rest with
      | none => false
      | some [] => true
      | some ['z'] => true
      | some offset => (Time.readOffset offset).any fun (_, rest) => rest.isEmpty

end Triage.Toml
