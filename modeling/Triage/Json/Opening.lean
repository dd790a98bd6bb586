import Triage.Json.Reader

/-!
# Texts that break off

A text without a document in it may still open one, so that more text would complete it. A scanner
that takes one character at a time tells such a text from one that nothing can mend.
-/
namespace Triage.Json

/-- The containers of the format. -/
inductive Container where
  | array
  | object
  deriving Repr, DecidableEq, Inhabited

/-- What the scanner is waiting for. In a string, `isName` says that a member's name is being read. -/
inductive Awaiting where
  | value
  | valueOrEnd
  | name
  | nameOrEnd
  | colon
  | separator
  | character (isName : Bool)
  | escaped (isName : Bool)
  | hexDigit (more : Nat) (isName : Bool)
  | magnitude
  | afterZero
  | wholeDigit
  | firstDecimal
  | decimal
  | powerSign
  | firstPower
  | powerDigit
  | letters (rest : List Char)
  deriving Repr, DecidableEq, Inhabited

/-- A scanner in the middle of a text, with the containers that are open, the inner ones first. -/
structure Scanner where
  awaiting : Awaiting := .value
  within : List Container := []
  deriving Repr, DecidableEq, Inhabited

namespace Scanner

/-- Goes on within the same containers. -/
def await (s : Scanner) (a : Awaiting) : Scanner := { s with awaiting := a }

/-- Opens a container, if it may nest that deep. -/
def enter (s : Scanner) (c : Container) (a : Awaiting) : Option Scanner :=
  if s.within.length < maxDepth then some ⟨a, c :: s.within⟩ else none

/-- Closes the inner container. -/
def leave (s : Scanner) : Scanner := ⟨.separator, s.within.tail⟩

def beginValue (s : Scanner) : Char → Option Scanner
  | '[' => s.enter .array .valueOrEnd
  | '{' => s.enter .object .nameOrEnd
  | '"' => some (s.await (.character false))
  | '-' => some (s.await .magnitude)
  | '0' => some (s.await .afterZero)
  | 'n' => some (s.await (.letters ['u', 'l', 'l']))
  | 't' => some (s.await (.letters ['r', 'u', 'e']))
  | 'f' => some (s.await (.letters ['a', 'l', 's', 'e']))
  | c =>
    if isSpace c then some s
    else if (Number.digitValue? c).isSome then some (s.await .wholeDigit)
    else none

/-- Takes the first character of a member's name. -/
def beginName (s : Scanner) : Char → Option Scanner
  | '"' => some (s.await (.character true))
  | c => if isSpace c then some s else none

def endValue (s : Scanner) (c : Char) : Option Scanner :=
  if isSpace c then some (s.await .separator)
  else
    match s.within, c with
    | .array :: _, ',' => some (s.await .value)
    | .array :: _, ']' => some s.leave
    | .object :: _, ',' => some (s.await .name)
    | .object :: _, '}' => some s.leave
    | _, _ => none

def stepString (s : Scanner) (isName : Bool) : Char → Option Scanner
  | '"' => some (s.await (if isName then .colon else .separator))
  | '\\' => some (s.await (.escaped isName))
  | c => if c.toNat < 0x20 then none else some s

/-- Takes the character after a backslash. -/
def stepEscape (s : Scanner) (isName : Bool) (c : Char) : Option Scanner :=
  if c = 'u' then some (s.await (.hexDigit 3 isName))
  else if c ∈ ['"', '\\', '/', 'b', 'f', 'n', 'r', 't'] then some (s.await (.character isName))
  else none

/-- Takes one of the four digits of an escape; `more` of them come after it. -/
def stepHex (s : Scanner) (more : Nat) (isName : Bool) (c : Char) : Option Scanner :=
  if (Number.hexValue? c).isNone then none
  else
    match more with
    | 0 => some (s.await (.character isName))
    | more + 1 => some (s.await (.hexDigit more isName))

/-- Takes a digit, after which digits are awaited as `a` says, or what `otherwise` takes. -/
def stepDigit (s : Scanner) (a : Awaiting) (otherwise : Char → Option Scanner) (c : Char) :
    Option Scanner :=
  if (Number.digitValue? c).isSome then some (s.await a) else otherwise c

/-- Takes a character after the decimals of a number. -/
def endDecimals (s : Scanner) (c : Char) : Option Scanner :=
  if c = 'e' ∨ c = 'E' then some (s.await .powerSign) else s.endValue c

/-- Takes a character after the whole part of a number. -/
def endWhole (s : Scanner) (c : Char) : Option Scanner :=
  if c = '.' then some (s.await .firstDecimal) else s.endDecimals c

/-- Takes one character; nothing if no document goes on like that. -/
def step (s : Scanner) (c : Char) : Option Scanner :=
  match s.awaiting with
  | .value => s.beginValue c
  | .valueOrEnd => if c = ']' then some s.leave else s.beginValue c
  | .name => s.beginName c
  | .nameOrEnd => if c = '}' then some s.leave else s.beginName c
  | .colon => if c = ':' then some (s.await .value) else if isSpace c then some s else none
  | .separator => s.endValue c
  | .character isName => s.stepString isName c
  | .escaped isName => s.stepEscape isName c
  | .hexDigit more isName => s.stepHex more isName c
  | .magnitude =>
    if c = '0' then some (s.await .afterZero) else s.stepDigit .wholeDigit (fun _ => none) c
  | .afterZero => s.endWhole c
  | .wholeDigit => s.stepDigit .wholeDigit s.endWhole c
  | .firstDecimal => s.stepDigit .decimal (fun _ => none) c
  | .decimal => s.stepDigit .decimal s.endDecimals c
  | .powerSign =>
    if c = '+' ∨ c = '-' then some (s.await .firstPower)
    else s.stepDigit .powerDigit (fun _ => none) c
  | .firstPower => s.stepDigit .powerDigit (fun _ => none) c
  | .powerDigit => s.stepDigit .powerDigit s.endValue c
  | .letters [] => s.endValue c
  | .letters (l :: ls) =>
    if c ≠ l then none else some (s.await (if ls.isEmpty then .separator else .letters ls))

end Scanner

/-- The text opens a document: it breaks off before anything is wrong with it. -/
def isOpening (s : String) : Bool :=
  (s.toList.foldlM Scanner.step {}).isSome

end Triage.Json
