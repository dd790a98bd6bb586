/-!
# Finding and splitting

Searching and cutting of texts as lists of characters: before and after a separator, all the parts
between separators, occurrence of one text in another, and the cut of a text to a number of bytes.
-/
namespace Triage.Text

/-- What stands before and after the first `sep`, if there is one. -/
def cutFirst (sep : Char) : List Char → Option (List Char × List Char)
  | [] => none
  | c :: rest =>
    if c = sep then some ([], rest)
    else (cutFirst sep rest).map fun (before, after) => (c :: before, after)

/-- What stands before and after the last `sep`, if there is one. -/
def cutLast (sep : Char) (cs : List Char) : Option (List Char × List Char) :=
  (cutFirst sep cs.reverse).map fun (after, before) => (before.reverse, after.reverse)

/-- The parts between the separators; there is always at least one. -/
def splitChars (sep : Char) : List Char → List (List Char)
  | [] => [[]]
  | c :: rest =>
    if c = sep then [] :: splitChars sep rest
    else
      match splitChars sep rest with
      | [] => [[c]]
      | part :: parts => (c :: part) :: parts

/-- The parts of `s` between the separators; there is always at least one. -/
def split (sep : Char) (s : String) : List String :=
  (splitChars sep s.toList).map String.ofList

/-- `rest` if `cs` is `lead` followed by `rest`. -/
def stripLead {α : Type} [DecidableEq α] : (lead cs : List α) → Option (List α)
  | [], cs => some cs
  | _ :: _, [] => none
  | l :: lead, c :: cs => if l = c then stripLead lead cs else none

/-- `rest` if `cs` is `rest` followed by `tail`. -/
def stripTail {α : Type} [DecidableEq α] (tail cs : List α) : Option (List α) :=
  (stripLead tail.reverse cs.reverse).map List.reverse

/-- `s` begins with `lead`. -/
def startsWith (lead s : String) : Bool :=
  (stripLead lead.toList s.toList).isSome

/-- `part` occurs in `cs`. -/
def hasPart {α : Type} [DecidableEq α] (part : List α) : List α → Bool
  | [] => part.isEmpty
  | c :: cs => (stripLead part (c :: cs)).isSome || hasPart part cs

/-- `part` occurs in `s`. -/
def contains (part s : String) : Bool :=
  hasPart part.toList s.toList

/-- `texts` written one after the other with `sep` between them. -/
def join (sep : String) (texts : List String) : String :=
  String.intercalate sep texts

/-- The characters that fit into `budget` bytes, and how many bytes of the next character fit
besides; that number is zero when the cut falls between two characters. -/
def takeBytes : (budget : Nat) → List Char → List Char × Nat
  | _, [] => ([], 0)
  | budget, c :: cs =>
    if c.utf8Size ≤ budget then
      let (taken, cut) := takeBytes (budget - c.utf8Size) cs
      (c :: taken, cut)
    else ([], budget)

/-- `s` written `width` characters wide at least, filled with spaces after it. -/
def padRight (width : Nat) (s : String) : String :=
  s ++ String.ofList (List.replicate (width - s.length) ' ')

/-- `s` written `width` characters wide at least, filled with spaces before it. -/
def padLeft (width : Nat) (s : String) : String :=
  String.ofList (List.replicate (width - s.length) ' ') ++ s

end Triage.Text
