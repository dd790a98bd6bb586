import Triage.Toml.Scalar

/-!
# Reading configuration files

A configuration file is a list of statements: headers that open a table or add one to a list of tables,
and keys with their values.
-/
namespace Triage.Toml

/-- A value. Times are known by their text only. -/
inductive Value where
  | text (s : String)
  | int (n : Int)
  | float (x : Float)
  | bool (b : Bool)
  | moment (s : String)
  | array (items : List Value)
  | table (pairs : List (List String × Value))

inductive Statement where
  | header (key : List String)
  | item (key : List String)
  | assign (key : List String) (value : Value)

/-! ## Space and comments -/

/-- What follows blanks. -/
def skipSpace (cs : List Char) : List Char := cs.dropWhile isSpace

def skipComment? : List Char → Option (List Char)
  | [] => some []
  | '\n' :: cs => some ('\n' :: cs)
  | c :: cs => if isControl c then none else skipComment? cs

/-- What follows blanks, line breaks and comments. -/
def skipLines? : (fuel : Nat) → List Char → Option (List Char)
  | 0, _ => none
  | fuel + 1, cs =>
    match skipSpace cs with
    | '\n' :: cs => skipLines? fuel cs
    | '#' :: cs => (skipComment? cs).bind (skipLines? fuel)
    | cs => some cs

/-- What follows the end of a line. -/
def endLine? (cs : List Char) : Option (List Char) :=
  match skipSpace cs with
  | [] => some []
  | '\n' :: cs => some cs
  | '#' :: cs => skipComment? cs
  | _ => none

/-! ## Keys -/

/-- A character of a key without quotes. -/
def isBareChar (c : Char) : Bool := c.isAlphanum || c == '_' || c == '-'

def readKeyPart? : List Char → Option (String × List Char)
  | '"' :: cs => (readBasic .none cs).map fun (part, rest) => (String.ofList part, rest)
  | '\'' :: cs => (readLiteral cs).map fun (part, rest) => (String.ofList part, rest)
  | cs =>
    let part := cs.takeWhile isBareChar
    if part.isEmpty then none else some (String.ofList part, cs.drop part.length)

def readKey? : (fuel : Nat) → List Char → Option (List String × List Char)
  | 0, _ => none
  | fuel + 1, cs => do
    let (part, cs) ← readKeyPart? (skipSpace cs)
    match skipSpace cs with
    | '.' :: cs => (readKey? fuel cs).map fun (parts, rest) => (part :: parts, rest)
    | cs => some ([part], cs)

/-! ## Values -/

/-- A character of a value without quotes. -/
def isWordChar (c : Char) : Bool := c.isAlphanum || "+-_.:".toList.contains c

/-- A value without quotes: a truth value, a number or a time. -/
def wordValue? (word : List Char) : Option Value :=
  if word = "true".toList then some (.bool true)
  else if word = "false".toList then some (.bool false)
  else
    match readInt? word with
    | some n => if Number.fitsSigned n then some (.int n) else none
    | none =>
      match readFloat? word with
      | some x => some (.float x)
      | none => if isMoment word then some (.moment (String.ofList word)) else none

/-- The characters of a value without quotes. A date may be followed by a space and a time. -/
def splitWord (cs : List Char) : List Char × List Char :=
  let (word, rest) := cs.span isWordChar
  match rest with
  | ' ' :: c :: _ =>
    if readDate? word = some [] && c.isDigit then
      let (clock, rest) := rest.tail.span isWordChar
      (word ++ ' ' :: clock, rest)
    else (word, rest)
  | _ => (word, rest)

mutual

def readValue? : (fuel : Nat) → List Char → Option (Value × List Char)
  | 0, _ => none
  | fuel + 1, cs =>
    match cs with
    | '[' :: cs => (readItems? fuel cs).map fun (items, rest) => (.array items, rest)
    | '{' :: cs =>
      match skipSpace cs with
      | '}' :: cs => some (.table [], cs)
      | cs => (readPairs? fuel cs).map fun (pairs, rest) => (.table pairs, rest)
    | cs =>
      if cs.head? = some '"' || cs.head? = some '\'' then
        (readText? cs).map fun (s, rest) => (.text (String.ofList s), rest)
      else
        let (word, rest) := splitWord cs
        (wordValue? word).map fun v => (v, rest)

/-- The items of an array up to and with its closing bracket. -/
def readItems? : (fuel : Nat) → List Char → Option (List Value × List Char)
  | 0, _ => none
  | fuel + 1, cs => do
    match ← skipLines? (cs.length + 1) cs with
    | ']' :: cs => some ([], cs)
    | cs =>
      let (item, cs) ← readValue? fuel cs
      match ← skipLines? (cs.length + 1) cs with
      | ']' :: cs => some ([item], cs)
      | ',' :: cs => (readItems? fuel cs).map fun (items, rest) => (item :: items, rest)
      | _ => none

/-- The pairs of a table on one line up to and with its closing brace. -/
def readPairs? : (fuel : Nat) → List Char → Option (List (List String × Value) × List Char)
  | 0, _ => none
  | fuel + 1, cs => do
    let (key, cs) ← readKey? (cs.length + 1) cs
    match cs with
    | '=' :: cs =>
      let (value, cs) ← readValue? fuel (skipSpace cs)
      match skipSpace cs with
      | '}' :: cs => some ([(key, value)], cs)
      | ',' :: cs => (readPairs? fuel cs).map fun (pairs, rest) => ((key, value) :: pairs, rest)
      | _ => none
    | _ => none

end

/-! ## Statements -/

def readStatement? (cs : List Char) : Option (Statement × List Char) := do
  let fuel := cs.length + 1
  match cs with
  | '[' :: '[' :: cs =>
    let (key, cs) ← readKey? fuel cs
    match cs with
    | ']' :: ']' :: cs => return (.item key, ← endLine? cs)
    | _ => none
  | '[' :: cs =>
    let (key, cs) ← readKey? fuel cs
    match cs with
    | ']' :: cs => return (.header key, ← endLine? cs)
    | _ => none
  | cs =>
    let (key, cs) ← readKey? fuel cs
    match cs with
    | '=' :: cs =>
      let (value, cs) ← readValue? fuel (skipSpace cs)
      return (.assign key value, ← endLine? cs)
    | _ => none

def readStatements? : (fuel : Nat) → List Char → Option (List Statement)
  | 0, _ => none
  | fuel + 1, cs => do
    match ← skipLines? (cs.length + 1) cs with
    | [] => some []
    | cs =>
      let (statement, cs) ← readStatement? cs
      return statement :: (← readStatements? fuel cs)

/-- Line breaks of two characters as one. -/
def plainBreaks : List Char → List Char
  | '\r' :: '\n' :: cs => '\n' :: plainBreaks cs
  | c :: cs => c :: plainBreaks cs
  | [] => []

/-- The statements of a text. A byte order mark at the front is passed over. -/
def statements? (s : String) : Option (List Statement) :=
  let cs := plainBreaks s.toList
  let cs := if cs.head? = some '﻿' then cs.tail else cs
  readStatements? (cs.length + 1) cs

end Triage.Toml
