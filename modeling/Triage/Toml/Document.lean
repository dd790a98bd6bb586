import Triage.Listing
import Triage.Toml.Reader

/-!
# Configuration documents

The tables that the statements of a file build, and the keys that occur in it in their order. A table
that is only mentioned on the way to another one is implicit; it may still be opened by a header, once.
A key may have one value only.
-/
namespace Triage.Toml

/-- What a key holds. Of a list of tables only the last one can still grow. -/
inductive Node where
  | value (v : Value)
  | table (implicit : Bool) (entries : List (String × Node))
  | tables (last : List (String × Node))

/-- The keys of a table with what they hold. -/
abbrev Entries := List (String × Node)

/-- Goes down a path to change the entries at its end. Tables that are missing become implicit. -/
def descend (path : List String) (change : Entries → Option Entries) (entries : Entries) : Option Entries :=
  match path with
  | [] => change entries
  | key :: path => do
    let node ← match entries.lookup key with
      | none => (descend path change []).map (.table true)
      | some (.table implicit inner) => (descend path change inner).map (.table implicit)
      | some (.tables last) => (descend path change last).map .tables
      | some (.value _) => none
    return Keyed.insert key node entries

def openTable (key : String) (entries : Entries) : Option Entries :=
  match entries.lookup key with
  | none => some (Keyed.insert key (.table false []) entries)
  | some (.table true inner) => some (Keyed.insert key (.table false inner) entries)
  | _ => none

/-- Adds a table to a list of tables. -/
def openItem (key : String) (entries : Entries) : Option Entries :=
  match entries.lookup key with
  | none | some (.tables _) => some (Keyed.insert key (.tables []) entries)
  | _ => none

/-- Gives a key its value. -/
def define (key : String) (node : Node) (entries : Entries) : Option Entries :=
  match entries.lookup key, node with
  | none, _ => some (Keyed.insert key node entries)
  | some (.table true inner), .value _ => some (Keyed.insert key (.table false inner) entries)
  | _, _ => none

/-- Goes down a path and then does something with its last key. -/
def atKey (path : List String) (act : String → Entries → Option Entries) (entries : Entries) :
    Option Entries :=
  match path.getLast? with
  | none => none
  | some key => descend path.dropLast (act key) entries

mutual

/-- A value as what a key holds: a table on one line becomes a table. -/
def Value.toNode : Value → Option Node
  | .table pairs => (pairsToEntries [] pairs).map (.table false)
  | .array items => if itemsValid items then some (.value (.array [])) else none
  | .text s => some (.value (.text s))
  | .int n => some (.value (.int n))
  | .float x => some (.value (.float x))
  | .bool b => some (.value (.bool b))
  | .moment s => some (.value (.moment s))

/-- The entries of a table on one line. -/
def pairsToEntries (entries : Entries) : List (List String × Value) → Option Entries
  | [] => some entries
  | (key, value) :: rest =>
    match value.toNode with
    | none => none
    | some node =>
      match atKey key (define · node) entries with
      | none => none
      | some entries => pairsToEntries entries rest

/-- The items of an array hold no table that contradicts itself. -/
def itemsValid : List Value → Bool
  | [] => true
  | item :: rest => item.toNode.isSome && itemsValid rest

end

mutual

/-- The keys inside a value, in their order; `path` leads to the value. -/
def Value.keys (path : List String) : Value → List (List String)
  | .array items => itemKeys path items
  | .table pairs => pairKeys path pairs
  | _ => []

/-- The keys inside the items of an array. -/
def itemKeys (path : List String) : List Value → List (List String)
  | [] => []
  | item :: rest => item.keys path ++ itemKeys path rest

/-- The keys of a table on one line. -/
def pairKeys (path : List String) : List (List String × Value) → List (List String)
  | [] => []
  | (key, value) :: rest => (path ++ key) :: value.keys (path ++ key) ++ pairKeys path rest

end

/-- A document while it is read. -/
structure Document where
  entries : Entries := []
  /-- The table that the last header opened. -/
  context : List String := []
  /-- All keys in their order. -/
  keys : List (List String) := []

def Document.add (d : Document) : Statement → Option Document
  | .header key => do
    return { entries := ← atKey key openTable d.entries, context := key, keys := d.keys ++ [key] }
  | .item key => do
    return { entries := ← atKey key openItem d.entries, context := key, keys := d.keys ++ [key] }
  | .assign key value => do
    let path := d.context ++ key
    let node ← value.toNode
    return { d with
      entries := ← atKey path (define · node) d.entries
      keys := d.keys ++ path :: value.keys path }

def parse? (s : String) : Option Document := (statements? s).bind (·.foldlM Document.add {})

/-! ## Keys as text -/

def quoteKeyChar (c : Char) : String :=
  match c with
  | '"' => "\\\""
  | '\\' => "\\\\"
  | '\x08' => "\\b"
  | '\t' => "\\t"
  | '\n' => "\\n"
  | '\x0c' => "\\f"
  | '\r' => "\\r"
  | c =>
    if isControl c then "\\u00" ++ String.ofList [hexDigit (c.toNat / 16), hexDigit (c.toNat % 16)]
    else String.singleton c
where
  hexDigit (n : Nat) : Char := if n < 10 then Char.ofNat (48 + n) else Char.ofNat (87 + n)

/-- A part of a key, in quotes unless it can be written without. -/
def keyPartText (part : String) : String :=
  if part ≠ "" && part.toList.all isBareChar then part
  else "\"" ++ Text.join "" (part.toList.map quoteKeyChar) ++ "\""

def keyText (key : List String) : String := Text.join "." (key.map keyPartText)

end Triage.Toml
