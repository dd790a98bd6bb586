import Triage.Failure
import Triage.Json.Decode

/-!
# Answers to queries

The answer to a query has the members that were asked for and no others, so an unknown member is a
failure, as is a value of the wrong kind. Names are spelled as in the query, or differ from it in case
where the query leaves the spelling open.
-/
namespace Triage.Json

/-- Reads an answer over a present value. -/
abbrev Strict (α : Type) := α → Json → Except Failure α

namespace Strict

/-- The failure for members that were not asked for. -/
def unexpected (name : String) : Failure :=
  .plain ("struct field for " ++ Text.quoted name ++ " doesn't exist in any of 1 places to unmarshal")

/-- The failure for items where no list was asked for. -/
def unexpectedItems : Failure := .plain "slice doesn't exist in any of 1 places to unmarshal"

/-- What a container is where it was not asked for: harmless as long as it is empty. -/
def container {α : Type} (old : α) : Json → Except Failure α
  | .object ((name, _) :: _) => .error (unexpected (unescape name))
  | .array (_ :: _) => .error unexpectedItems
  | .object [] | .array [] => .ok old
  | _ => .error .wrongKind

def text : Strict String
  | old, .null => .ok old
  | _, .string body => .ok (unescape body)
  | old, j => container old j

/-- A member of an answer. -/
structure FieldRule (α : Type) where
  accepts : String → Bool
  read : Strict α

/-- A member with a name that is spelled in one way. -/
def exactly {α β : Type} (name : String) (get : α → β) (set : α → β → α) (d : Strict β) : FieldRule α :=
  ⟨(· == name), fun r j => (d (get r) j).map (set r)⟩

/-- A member with a name that may differ in case. -/
def loosely {α β : Type} (name : String) (get : α → β) (set : α → β → α) (d : Strict β) : FieldRule α :=
  ⟨Text.equalFold name, fun r j => (d (get r) j).map (set r)⟩

/-- Reads the members of an object in their order. -/
def members {α : Type} (fields : List (FieldRule α)) : α → List (String × Json) → Except Failure α
  | r, [] => .ok r
  | r, (name, j) :: rest =>
    match fields.find? (·.accepts (unescape name)) with
    | none => .error (unexpected (unescape name))
    | some f => (f.read r j).bind fun r => members fields r rest

def object {α : Type} (fields : List (FieldRule α)) : Strict α
  | r, .null => .ok r
  | r, .object ms => members fields r ms
  | r, j => container r j

def optional {α : Type} (zero : α) (fields : List (FieldRule α)) : Strict (Option α)
  | _, .null => .ok none
  | old, .object ms => (members fields (old.getD zero) ms).map some
  | old, j => container old j

/-- A list; what was there before is dropped. -/
def list {α : Type} (zero : α) (d : Strict α) : Strict (List α)
  | _, .null => .ok []
  | _, .array js => js.mapM (d zero)
  | old, j => container old j

end Strict

end Triage.Json
