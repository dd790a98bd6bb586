import Triage.Text.Pieces

/-!
# Paths

Paths with slashes, in their shortest form: without empty parts, without `.`, and with `..` only at
the front of a relative path.
-/
namespace Triage.Path

/-- Adds a part to the parts so far, the last of them first. -/
def push (rooted : Bool) (parts : List (List Char)) (part : List Char) : List (List Char) :=
  if part = [] ∨ part = ['.'] then parts
  else if part = ['.', '.'] then
    match parts with
    | [] => if rooted then [] else [part]
    | last :: rest => if last = ['.', '.'] then part :: parts else rest
  else part :: parts

def joinParts : List (List Char) → List Char
  | [] => []
  | [part] => part
  | part :: parts => part ++ '/' :: joinParts parts

/-- The shortest form of a path; the empty path is `.`. -/
def clean (path : String) : String :=
  let cs := path.toList
  let rooted := cs.head? = some '/'
  let parts := ((Text.splitChars '/' cs).foldl (push rooted) []).reverse
  let body := joinParts parts
  if rooted then String.ofList ('/' :: body)
  else if body.isEmpty then "."
  else String.ofList body

/-- The parts joined to one path in its shortest form; empty parts are passed over. -/
def join (parts : List String) : String :=
  let parts := parts.filter (· != "")
  if parts.isEmpty then "" else clean (Text.join "/" parts)

end Triage.Path
