import Triage.Json.Basic

/-!
# Writing JSON

The compact form has no blanks. The indented form has one item a line, two spaces for each level,
a space after the colon of a member, and empty containers closed on the spot. Both forms escape the
characters that markup would misread, also in bodies that are passed on.
-/
namespace Triage.Json

def quotedBody (body : String) : List Char :=
  '"' :: (escapeMarkup body).toList ++ ['"']

/-- A value that is not a container. -/
def scalarChars : Json → List Char
  | .null => "null".toList
  | .bool b => (if b then "true" else "false").toList
  | .number literal => literal.toList
  | .string body => quotedBody body
  | _ => []

mutual

def compactChars : Json → List Char
  | .array [] => ['[', ']']
  | .array (j :: js) => '[' :: (compactChars j ++ compactItems js)
  | .object [] => ['{', '}']
  | .object ((k, j) :: ms) => '{' :: (quotedBody k ++ ':' :: (compactChars j ++ compactMembers ms))
  | j => scalarChars j

/-- The items after the first, and the closing bracket. -/
def compactItems : List Json → List Char
  | [] => [']']
  | j :: js => ',' :: (compactChars j ++ compactItems js)

/-- The members after the first, and the closing brace. -/
def compactMembers : List (String × Json) → List Char
  | [] => ['}']
  | (k, j) :: ms => ',' :: (quotedBody k ++ ':' :: (compactChars j ++ compactMembers ms))

end

/-- A new line with the indentation of `level`. -/
def newline (level : Nat) : List Char :=
  '\n' :: List.replicate (2 * level) ' '

mutual

/-- A document with one item a line, its inner lines indented below `level`. -/
def indentedChars (level : Nat) : Json → List Char
  | .array [] => ['[', ']']
  | .array (j :: js) =>
    '[' :: (newline (level + 1) ++ indentedChars (level + 1) j ++ indentedItems level js)
  | .object [] => ['{', '}']
  | .object ((k, j) :: ms) =>
    '{' :: (newline (level + 1) ++ quotedBody k ++ ':' :: ' ' :: indentedChars (level + 1) j ++
      indentedMembers level ms)
  | j => scalarChars j

/-- The items after the first, and the closing bracket on a line of its own. -/
def indentedItems (level : Nat) : List Json → List Char
  | [] => newline level ++ [']']
  | j :: js =>
    ',' :: (newline (level + 1) ++ indentedChars (level + 1) j ++ indentedItems level js)

/-- The members after the first, and the closing brace on a line of its own. -/
def indentedMembers (level : Nat) : List (String × Json) → List Char
  | [] => newline level ++ ['}']
  | (k, j) :: ms =>
    ',' :: (newline (level + 1) ++ quotedBody k ++ ':' :: ' ' :: indentedChars (level + 1) j ++
      indentedMembers level ms)

end

def compact (j : Json) : String := String.ofList (compactChars j)

def indented (j : Json) : String := String.ofList (indentedChars 0 j)

end Triage.Json
