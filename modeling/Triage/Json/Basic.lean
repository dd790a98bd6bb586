import Triage.Number.Reader
import Triage.Text.Quoted

/-!
# JSON documents as written

A document keeps its numbers as they are spelled and the bodies of its strings with their escapes,
so that a document that is only passed on is not changed. Members stand in their order of
appearance, repeated ones included.

Writing escapes the quote, the backslash and control characters, and also `<`, `>`, `&` and the two
line separators of Unicode, so that the text is safe inside markup. Reading undoes every escape; an
escaped half of a surrogate pair without its partner becomes the replacement character.
-/
namespace Triage

/-- A JSON document. Strings and member names are the text between the quotes, escapes and all. -/
inductive Json where
  | null
  | bool (value : Bool)
  | number (literal : String)
  | string (body : String)
  | array (items : List Json)
  | object (members : List (String × Json))
  deriving Repr, Inhabited, BEq

namespace Json

/-! ## Escapes -/

/-- Four hexadecimal digits after `\u`. -/
def unicodeEscape (n : Nat) : List Char :=
  '\\' :: 'u' :: Text.hexChars 4 n

/-- Characters that markup or scripts would misread. -/
def unsafeInMarkup (c : Char) : Bool :=
  c == '<' || c == '>' || c == '&' || c.toNat == 0x2028 || c.toNat == 0x2029

/-- One character of a written string. -/
def escapeChar (c : Char) : List Char :=
  if c = '"' then ['\\', '"']
  else if c = '\\' then ['\\', '\\']
  else if c = '\n' then ['\\', 'n']
  else if c = '\r' then ['\\', 'r']
  else if c = '\t' then ['\\', 't']
  else if c.toNat = 8 then ['\\', 'b']
  else if c.toNat = 12 then ['\\', 'f']
  else if c.toNat < 0x20 || unsafeInMarkup c then unicodeEscape c.toNat
  else [c]

/-- A text as the body of a written string. -/
def escape (s : String) : String :=
  String.ofList (s.toList.flatMap escapeChar)

/-- A written body with the characters escaped that markup would misread. -/
def escapeMarkup (body : String) : String :=
  String.ofList (body.toList.flatMap fun c => if unsafeInMarkup c then unicodeEscape c.toNat else [c])

/-- The number that four hexadecimal digits spell. -/
def hexNumber? (a b c d : Char) : Option Nat := do
  let a ← Number.hexValue? a
  let b ← Number.hexValue? b
  let c ← Number.hexValue? c
  let d ← Number.hexValue? d
  return ((a * 16 + b) * 16 + c) * 16 + d

/-- The character of a code unit that is not part of a pair. -/
def unitChar (n : Nat) : Char :=
  if 0xD800 ≤ n ∧ n < 0xE000 then '�' else Char.ofNat n

/-- The character of a surrogate pair, if the two units are one. -/
def pairChar? (high low : Nat) : Option Char :=
  if 0xD800 ≤ high ∧ high < 0xDC00 ∧ 0xDC00 ≤ low ∧ low < 0xE000 then
    some (Char.ofNat ((high - 0xD800) * 0x400 + (low - 0xDC00) + 0x10000))
  else none

def letterEscape (c : Char) : Char :=
  if c = 'n' then '\n'
  else if c = 'r' then '\r'
  else if c = 't' then '\t'
  else if c = 'b' then Char.ofNat 8
  else if c = 'f' then Char.ofNat 12
  else c

/-- The second unit of a pair that begins the rest of the body. -/
def nextUnit? : List Char → Option Nat
  | '\\' :: 'u' :: a :: b :: c :: d :: _ => hexNumber? a b c d
  | _ => none

/-- The text of a written body. -/
def unescapeChars : List Char → List Char
  | '\\' :: 'u' :: a :: b :: c :: d :: rest =>
    match hexNumber? a b c d with
    | none => '\\' :: 'u' :: unescapeChars (a :: b :: c :: d :: rest)
    | some unit =>
      match (nextUnit? rest).bind (pairChar? unit) with
      | some paired => paired :: unescapeChars (rest.drop 6)
      | none => unitChar unit :: unescapeChars rest
  | '\\' :: c :: rest => letterEscape c :: unescapeChars rest
  | c :: rest => c :: unescapeChars rest
  | [] => []
termination_by cs => cs.length
decreasing_by
  all_goals simp_wf
  all_goals omega

def unescape (body : String) : String :=
  String.ofList (unescapeChars body.toList)

end Json

end Triage
