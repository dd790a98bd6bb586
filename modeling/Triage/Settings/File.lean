import Triage.Settings.Basic
import Triage.Toml.Document

/-!
# Settings from a file

A configuration file changes the settings that it mentions. A key belongs to the field of its name, or
else to the field whose name differs in case only; a key that belongs to no field is a mistake, and so
is a value of the wrong kind.
-/
namespace Triage.Settings

open Time (Duration)

/-- A field: its name, how a value changes it, and which keys below it are known. -/
structure FieldRule (α : Type) where
  name : String
  read : α → Toml.Node → Option α
  knows : List String → Bool

def fieldNamed? {α : Type} (fields : List (FieldRule α)) (key : String) : Option (FieldRule α) :=
  match fields.find? (·.name == key) with
  | some f => some f
  | none => fields.find? fun f => Text.equalFold f.name key

def knownPath {α : Type} (fields : List (FieldRule α)) : List String → Bool
  | [] => true
  | key :: path => (fieldNamed? fields key).any (·.knows path)

def scalar {α β : Type} (name : String) (set : α → β → α) (read : Toml.Value → Option β) : FieldRule α where
  name := name
  read r
    | .value v => (read v).map (set r)
    | _ => none
  knows := List.isEmpty

def readText : Toml.Value → Option String
  | .text s => some s
  | _ => none

def readWhole : Toml.Value → Option Int
  | .int n => some n
  | _ => none

def readFlag : Toml.Value → Option Bool
  | .bool b => some b
  | _ => none

/-- A duration: a text, or a number of nanoseconds. -/
def readDuration : Toml.Value → Option Duration
  | .text s => (Duration.parse s).toOption
  | .int n => some ⟨n⟩
  | _ => none

/-- Reads the keys of a table into a record, in the order of the keys. Keys that belong to no field are passed
over here. Of two spellings of one key, such as `WORKERS` and `workers`, the last one in that order counts; no
order is prescribed for them, and a reader of the same file may just as well take the other one. -/
def readEntries {α : Type} (fields : List (FieldRule α)) (r : α) (entries : Toml.Entries) : Option α :=
  entries.foldlM (fun r (key, node) =>
    match fieldNamed? fields key with
    | none => some r
    | some f => f.read r node) r

def record {α β : Type} (name : String) (get : α → β) (set : α → β → α) (fields : List (FieldRule β)) :
    FieldRule α where
  name := name
  read r
    | .table _ entries => (readEntries fields (get r) entries).map (set r)
    | _ => none
  knows := knownPath fields

def cacheFields : List (FieldRule CacheSettings) :=
  [ scalar "dir" (fun s v => { s with directory := v }) readText,
    scalar "ttl" (fun s v => { s with lifetime := v }) readDuration,
    scalar "disabled" (fun s v => { s with disabled := v }) readFlag ]

def sourceFields : List (FieldRule SourceSettings) :=
  [ scalar "enabled" (fun s v => { s with enabled := v }) readFlag,
    scalar "url" (fun s v => { s with url := v }) readText,
    scalar "timeout" (fun s v => { s with timeout := v }) readDuration,
    scalar "api_key" (fun s v => { s with key := v }) readText ]

def sourcesFields : List (FieldRule SourcesSettings) :=
  SourceId.all.map fun id => record id.name (·.get id) (·.set id ·) sourceFields

def findingsFields : List (FieldRule FindingsSettings) :=
  [ scalar "mode" (fun s v => { s with mode := v }) readText,
    scalar "file" (fun s v => { s with file := v }) readText,
    scalar "image_list_file" (fun s v => { s with imageList := v }) readText,
    scalar "ecr_account_id" (fun s v => { s with account := v }) readText,
    scalar "ecr_region" (fun s v => { s with region := v }) readText,
    scalar "namespace" (fun s v => { s with ns := v }) readText ]

def serverFields : List (FieldRule ServerSettings) :=
  [ scalar "port" (fun s v => { s with port := v }) readWhole,
    scalar "refresh_interval" (fun s v => { s with interval := v }) readDuration ]

def fields : List (FieldRule Settings) :=
  [ scalar "log_level" (fun s v => { s with logLevel := v }) readText,
    scalar "workers" (fun s v => { s with workers := v }) readWhole,
    record "cache" (·.cache) (fun s v => { s with cache := v }) cacheFields,
    record "sources" (·.sources) (fun s v => { s with sources := v }) sourcesFields,
    record "findings" (·.findings) (fun s v => { s with findings := v }) findingsFields,
    record "server" (·.server) (fun s v => { s with server := v }) serverFields ]

/-- The settings of a text, over the ones that hold already, and the keys that mean nothing. -/
def ofText? (s : Settings) (text : String) : Option (Settings × List (List String)) := do
  let document ← Toml.parse? text
  let settings ← readEntries fields s document.entries
  return (settings, document.keys.filter (!knownPath fields ·))

/-- The settings of a file over the defaults. Without a path they are the defaults. -/
def load (disk : Disk) (faults : Faults) (path : String) : Except Failure Settings :=
  if path = "" then .ok {}
  else
    match disk.read faults path with
    | .error e => .error (.context s!"failed to read config file '{path}'" e)
    | .ok text =>
      match ofText? {} text with
      | none => .error (.context s!"failed to parse config file '{path}'" (.plain "<toml>"))
      | some (settings, []) => .ok settings
      | some (_, unknown) =>
        .error (.plain (s!"unknown keys in config file '{path}': " ++
          Text.join ", " (unknown.map Toml.keyText)))

end Triage.Settings
