import Triage.Text.Pieces

/-!
# Comma-separated values

A record is a line of fields with commas between them. A field in quotes may hold commas, line breaks,
and quotes, which are then written twice; elsewhere a quote is not allowed.
-/
namespace Triage.Text.Csv

/-- A place in a text: the line, and the byte in it, both counted from one. -/
structure Position where
  line : Nat
  column : Nat
  deriving Repr, DecidableEq

def Position.after (p : Position) (c : Char) : Position := ⟨p.line, p.column + c.utf8Size⟩

/-- Why a record is refused. -/
inductive Fault where
  /-- There are only empty lines. -/
  | missing
  /-- A quote in a field without quotes. -/
  | bareQuote (start : Nat) (place : Position)
  /-- A quote that neither ends its field nor is doubled, or a field that does not end. -/
  | strayQuote (start : Nat) (place : Position)
  deriving Repr, DecidableEq

/-- Where a record is wrong. -/
def whereabouts (start : Nat) (p : Position) : String :=
  let place := s!"parse error on line {p.line}, column {p.column}"
  if start = p.line then place else s!"record on line {start}; " ++ place

/-- The wording of a refusal. -/
def Fault.message : Fault → String
  | missing => "EOF"
  | bareQuote start p => whereabouts start p ++ ": bare \" in non-quoted field"
  | strayQuote start p => whereabouts start p ++ ": extraneous or missing \" in quoted-field"

/-- Line ends of two characters become simple ones, and a return at the very end is dropped. -/
def unify : List Char → List Char
  | '\r' :: '\n' :: cs => '\n' :: unify cs
  | ['\r'] => []
  | c :: cs => c :: unify cs
  | [] => []

/-- What is being read: a field without quotes, which is `fresh` at its beginning, a field in quotes, or
what follows the quote that may end it. -/
inductive Mode where
  | plain (fresh : Bool)
  | quoted
  | closing
  deriving Repr, DecidableEq

/-- The place after a line break in quotes. The last line break of a text begins no line. -/
def Position.afterBreak (p : Position) (rest : List Char) : Position :=
  if rest.isEmpty then p.after '\n' else ⟨p.line + 1, 1⟩

/-- The fields of a record that began on line `start`. `field` holds what is known of the current field,
its last character first. -/
def scan (start : Nat) : Mode → (field : List Char) → Position → List Char → Except Fault (List String)
  | .quoted, _, p, [] => .error (.strayQuote start p)
  | _, field, _, [] => .ok [String.ofList field.reverse]
  | .plain fresh, field, p, c :: cs =>
    if c = '"' then
      if fresh then scan start .quoted [] (p.after c) cs else .error (.bareQuote start p)
    else if c = ',' then
      (scan start (.plain true) [] (p.after c) cs).map (String.ofList field.reverse :: ·)
    else if c = '\n' then .ok [String.ofList field.reverse]
    else scan start (.plain false) (c :: field) (p.after c) cs
  | .quoted, field, p, c :: cs =>
    if c = '"' then scan start .closing field (p.after c) cs
    else if c = '\n' then scan start .quoted (c :: field) (p.afterBreak cs) cs
    else scan start .quoted (c :: field) (p.after c) cs
  | .closing, field, p, c :: cs =>
    if c = '"' then scan start .quoted (c :: field) (p.after c) cs
    else if c = ',' then
      (scan start (.plain true) [] (p.after c) cs).map (String.ofList field.reverse :: ·)
    else if c = '\n' then .ok [String.ofList field.reverse]
    else .error (.strayQuote start ⟨p.line, p.column - 1⟩)

def firstRecord (s : String) : Except Fault (List String) :=
  let cs := unify s.toList
  let start := (cs.takeWhile (· == '\n')).length + 1
  match cs.dropWhile (· == '\n') with
  | [] => .error .missing
  | cs => scan start (.plain true) [] ⟨start, 1⟩ cs

end Triage.Text.Csv
