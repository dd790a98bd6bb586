import Triage.Failure
import Triage.Host.Path
import Triage.Listing
import Triage.Time.Instant

/-!
# The disk

Files by their paths. An operation on the disk can fail; which ones do is part of the circumstances
(`Faults`) that each operation is given. A failed operation leaves the disk as it was.
-/
namespace Triage

open Time (Instant)

/-- A file: its text, and when it was last written. -/
structure File where
  data : String
  modified : Instant
  deriving Repr, DecidableEq

/-- The operations that currently fail. -/
structure Faults where
  stat : Bool := false
  read : Bool := false
  write : Bool := false
  mkdir : Bool := false
  rename : Bool := false
  remove : Bool := false
  deriving Repr, DecidableEq, Inhabited

/-- The files of a disk, in the order of their paths. -/
structure Disk where
  files : List (String × File) := []
  deriving Repr, DecidableEq, Inhabited

namespace Disk

/-- The place of a file. The current directory and the one above it are the root. -/
def place (path : String) : String :=
  let p := Path.clean path
  if p = "." ∨ p = ".." then "/" else p

def get? (d : Disk) (path : String) : Option File := d.files.lookup (place path)

def put (d : Disk) (path : String) (file : File) : Disk := ⟨Keyed.insert (place path) file d.files⟩

def erase (d : Disk) (path : String) : Disk := ⟨d.files.filter (·.1 != place path)⟩

def paths (d : Disk) : List String := d.files.map (·.1)

/-- The failure that a fault of the disk causes. -/
def injected (name : String) : Failure := .plain ("injected " ++ name ++ " failure")

def missing (path : String) : Failure := .plain ("open " ++ place path ++ ": file does not exist")

def holds (d : Disk) (f : Faults) (path : String) : Except Failure Bool :=
  if f.stat then .error (injected "stat") else .ok (d.get? path).isSome

def stat (d : Disk) (f : Faults) (path : String) : Except Failure Instant :=
  if f.stat then .error (injected "stat")
  else
    match d.get? path with
    | some file => .ok file.modified
    | none => .error (missing path)

def read (d : Disk) (f : Faults) (path : String) : Except Failure String :=
  if f.read then .error (injected "open")
  else
    match d.get? path with
    | some file => .ok file.data
    | none => .error (missing path)

def write (d : Disk) (f : Faults) (path data : String) (now : Instant) : Except Failure Disk :=
  if f.write then .error (injected "write") else .ok (d.put path ⟨data, now⟩)

/-- Gives a file another path, in place of a file that was there. -/
def rename (d : Disk) (f : Faults) (source target : String) : Except Failure Disk :=
  if f.rename then .error (injected "rename")
  else
    match d.get? source with
    | some file => .ok ((d.erase source).put target file)
    | none => .error (missing source)

/-- Makes a directory. Directories exist as soon as there are files in them, so nothing changes. -/
def makeDirectory (d : Disk) (f : Faults) : Except Failure Disk :=
  if f.mkdir then .error (injected "mkdir") else .ok d

/-- Removes a file, or a directory with all that is in it. -/
def removeAll (d : Disk) (f : Faults) (path : String) : Except Failure Disk :=
  if f.remove then .error (injected "remove")
  else
    let root := place path
    .ok ⟨d.files.filter fun (p, _) => !(p == root || Text.startsWith (root ++ "/") p)⟩

end Disk

end Triage
