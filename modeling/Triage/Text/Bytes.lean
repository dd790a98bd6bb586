import Triage.Text.Quoted

/-!
# Texts as bytes

The bytes of a text in UTF-8, and the text that bytes spell. A byte that begins no well-formed
character is a piece of its own (`Piece.stray`); where a text is needed it is read as U+FFFD.
-/
namespace Triage.Text

def bytes (cs : List Char) : List UInt8 := cs.flatMap String.utf8EncodeChar

/-- A character, or a byte that belongs to none. -/
inductive Piece where
  | char (c : Char)
  | stray (b : UInt8)
  deriving Repr, DecidableEq

/-- The value of a byte that continues a character. -/
def continuation? (b : UInt8) : Option Nat :=
  if 0x80 ≤ b ∧ b < 0xc0 then some (b.toNat - 0x80) else none

/-- The values of the bytes that have to follow, appended to `value` six bits each. -/
def continued? : (count value : Nat) → List UInt8 → Option Nat
  | 0, value, _ => some value
  | _ + 1, _, [] => none
  | count + 1, value, b :: rest => do
    continued? count (value * 64 + (← continuation? b)) rest

/-- The character at the front of some bytes and the number of bytes it takes after the first. The
shortest form is the only one, and surrogates are no characters. -/
def leadingChar? (b : UInt8) (rest : List UInt8) : Option (Char × Nat) :=
  let n := b.toNat
  let wide (count value least : Nat) : Option (Char × Nat) := do
    let v ← continued? count value rest
    if v < least then none
    else if h : v.isValidChar then some (Char.ofNatAux v h, count)
    else none
  if n < 0x80 then some (Char.ofNat n, 0)
  else if n < 0xc0 then none
  else if n < 0xe0 then wide 1 (n - 0xc0) 0x80
  else if n < 0xf0 then wide 2 (n - 0xe0) 0x800
  else if n < 0xf8 then wide 3 (n - 0xf0) 0x10000
  else none

/-- The pieces of some bytes; `skip` bytes at the front belong to the piece before. -/
def piecesFrom : (skip : Nat) → List UInt8 → List Piece
  | _, [] => []
  | skip + 1, _ :: rest => piecesFrom skip rest
  | 0, b :: rest =>
    match leadingChar? b rest with
    | some (c, more) => .char c :: piecesFrom more rest
    | none => .stray b :: piecesFrom 0 rest

/-- The characters of some bytes, and the bytes between them that belong to none. -/
def pieces (bs : List UInt8) : List Piece := piecesFrom 0 bs

def ofBytes (bs : List UInt8) : String :=
  String.ofList ((pieces bs).map fun
    | .char c => c
    | .stray _ => '�')

def quotePiece : Piece → List Char
  | .char c => quoteChar c
  | .stray b => '\\' :: 'x' :: hexChars 2 b.toNat

/-- Bytes between double quotes; a stray byte is written with its two hexadecimal digits. -/
def quotedBytes (bs : List UInt8) : String :=
  String.ofList ('"' :: (pieces bs).flatMap quotePiece ++ ['"'])

end Triage.Text
