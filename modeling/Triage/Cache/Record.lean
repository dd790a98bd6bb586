import Triage.Host.Disk
import Triage.Json.Decode
import Triage.Json.Printer

/-!
# Cache files

A cache file is a JSON object with a record for each key: the payload and the time when it was
fetched. In files of older tools a member is the bare payload; its age is then that of the file, as
it is for a record without a time. A file that cannot be read as such an object holds nothing.
-/
namespace Triage.Cache

open Time (Stamp)

/-- A cached payload, which is the text of a JSON document, and when it was fetched. -/
structure Record where
  payload : String
  fetchedAt : Stamp
  deriving Repr, DecidableEq

/-- The records of one file, in the order of their keys. -/
abbrev Records := List (String × Record)

/-! ## Reading -/

/-- What has been read of a record. -/
structure Draft where
  payload : Option String := none
  fetchedAt : Option Stamp := none

/-- A member belongs to the field with this name. -/
def isField (field name : String) : Bool := name == field || Text.equalFold field name

/-- The time that the text of a member spells, absent for `null`. -/
def readTime (raw : String) : Option (Option Stamp) :=
  match Json.parse raw with
  | some .null => some none
  | some (.string body) => (Stamp.parse? body).map some
  | _ => none

def Draft.readMembers : Draft → List (String × String) → Option Draft
  | draft, [] => some draft
  | draft, (name, raw) :: rest =>
    if isField "payload" name then readMembers { draft with payload := some raw } rest
    else if isField "fetched_at" name then
      (readTime raw).bind fun t => readMembers { draft with fetchedAt := t } rest
    else readMembers draft rest

/-- The record that the text of a member spells, in a file that was written at `modified`. -/
def Record.ofRaw (modified : Stamp) (raw : String) : Record :=
  match (Json.rawMembers raw).bind (Draft.readMembers {}) with
  | some ⟨some payload, fetchedAt⟩ => ⟨payload, fetchedAt.getD modified⟩
  | _ => ⟨raw, modified⟩

def Records.ofFile (file : File) : Records :=
  match Json.rawMembers file.data with
  | none => []
  | some members =>
    Keyed.ofList (members.map fun (key, raw) => (key, Record.ofRaw ⟨file.modified, 0⟩ raw))

/-! ## Writing -/

def Record.toJson (r : Record) : Json :=
  .object [Json.member "payload" ((Json.parse r.payload).getD .null),
    Json.member "fetched_at" (Json.ofText r.fetchedAt.text)]

def Records.toJson (rs : Records) : Json :=
  .object (rs.map fun (key, r) => Json.member key r.toJson)

def unwritableTime (problem : String) : Failure :=
  .plain ("json: error calling MarshalJSON for type *time.Time: Time.MarshalJSON: " ++ problem)

/-- The text of the file that holds the records. There is none if one of the times cannot be written, or
if payloads nest so deep that the file could not be read again. -/
def Records.toText (rs : Records) : Except Failure String :=
  match rs.findSome? fun (_, r) => r.fetchedAt.unwritable? with
  | some problem => .error (unwritableTime problem)
  | none =>
    let text := Json.indented rs.toJson
    if Json.isValid text then .ok text else .error .notJson

end Triage.Cache
