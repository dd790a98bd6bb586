import Triage.Failure
import Triage.Json.Reader
import Triage.Listing
import Triage.Text.Case

/-!
# Reading documents into records

A document is read over a value that is already there: members that are absent leave their field
alone, a repeated member refines what the first one set, and `null` leaves a scalar as it is but
empties what can be absent. A member belongs to the field of its name, or else to the field whose
name differs in case only; other members are passed over. A value of the wrong kind fails the
whole document. That a text is JSON at all is settled before anything is read from it.
-/
namespace Triage.Json

/-- Reads a document over a present value, or finds a value of the wrong kind. -/
abbrev Decoder (α : Type) := α → Json → Option α

namespace Decoder

def text : Decoder String
  | old, .null => some old
  | _, .string body => some (unescape body)
  | _, _ => none

def bool : Decoder Bool
  | old, .null => some old
  | _, .bool b => some b
  | _, _ => none

/-- A double; a number beyond their range is of the wrong kind. -/
def float : Decoder Float
  | old, .null => some old
  | _, .number literal => Number.readFloat? literal
  | _, _ => none

/-- A whole number of 64 bits; one with a point or an exponent is of the wrong kind. -/
def int : Decoder Int
  | old, .null => some old
  | _, .number literal => (Number.readInt64 literal).toOption
  | _, _ => none

/-- A value that may be absent. -/
def optional {α : Type} (zero : α) (d : Decoder α) : Decoder (Option α)
  | _, .null => some none
  | old, j => (d (old.getD zero) j).map some

/-- The items of an array, each read over the item that stood at its place before. -/
def items {α : Type} (zero : α) (d : Decoder α) : List α → List Json → Option (List α)
  | _, [] => some []
  | old, j :: js => do
    let item ← d (old.head?.getD zero) j
    let rest ← items zero d old.tail js
    return item :: rest

/-- A list that may be absent. -/
def list {α : Type} (zero : α) (d : Decoder α) : Decoder (Option (List α))
  | _, .null => some none
  | old, .array js => (items zero d (old.getD []) js).map some
  | _, _ => none

/-- A list for which absence and emptiness are the same. -/
def plainList {α : Type} (zero : α) (d : Decoder α) : Decoder (List α) :=
  fun old j => (list zero d (some old) j).map (·.getD [])

/-- A map from keys to values that may be absent, kept in the order of the keys. -/
def map {α : Type} (zero : α) (d : Decoder α) : Decoder (Option (List (String × α)))
  | _, .null => some none
  | old, .object members =>
    (members.foldlM (fun entries (name, j) =>
      (d zero j).map fun v => Keyed.insert (unescape name) v entries) (old.getD [])).map some
  | _, _ => none

/-- A map for which absence and emptiness are the same. -/
def plainMap {α : Type} (zero : α) (d : Decoder α) : Decoder (List (String × α)) :=
  fun old j => (map zero d (some old) j).map (·.getD [])

/-- A field of a record: its name and how a document is read into it. -/
structure FieldRule (α : Type) where
  name : String
  read : Decoder α

/-- A field that `get` and `set` reach. -/
def field {α β : Type} (name : String) (get : α → β) (set : α → β → α) (d : Decoder β) : FieldRule α :=
  ⟨name, fun record j => (d (get record) j).map (set record)⟩

/-- The field that a member belongs to. -/
def fieldNamed? {α : Type} (fields : List (FieldRule α)) (name : String) : Option (FieldRule α) :=
  match fields.find? (·.name == name) with
  | some f => some f
  | none => fields.find? fun f => Text.equalFold f.name name

/-- Reads the members of an object in their order. -/
def members {α : Type} (fields : List (FieldRule α)) : α → List (String × Json) → Option α
  | record, [] => some record
  | record, (name, j) :: rest =>
    match fieldNamed? fields (unescape name) with
    | none => members fields record rest
    | some f => (f.read record j).bind fun record => members fields record rest

def object {α : Type} (fields : List (FieldRule α)) : Decoder α
  | record, .null => some record
  | record, .object ms => members fields record ms
  | _, _ => none

end Decoder

/-! ## Whole texts -/

/-- Reads a whole text over a value: it has to be JSON, and of the right kind. -/
def decodeText {α : Type} (d : Decoder α) (zero : α) (s : String) : Except Failure α :=
  match parse s with
  | none => .error .notJson
  | some j =>
    match d zero j with
    | none => .error .wrongKind
    | some v => .ok v

/-! ## Building documents -/

def ofText (s : String) : Json := .string (escape s)

def member (name : String) (value : Json) : String × Json := (escape name, value)

def textUnlessEmpty (name s : String) : List (String × Json) :=
  if s = "" then [] else [member name (ofText s)]

/-- A member that is left out when it is false. -/
def flagIfSet (name : String) (b : Bool) : List (String × Json) :=
  if b then [member name (.bool b)] else []

end Triage.Json
