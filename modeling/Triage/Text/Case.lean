import Triage.Text.CasePairs

/-!
# Case and white space

Every character is mapped to upper or lower case on its own, so a text keeps its length. Comparison
without regard to case identifies all letters that share a case pair; the dotless `ı` and the dotted
`İ` are equal to no other letter. White space is that of Unicode; the zero-width space and the byte
order mark are none.
-/
namespace Triage.Text

/-! ## Case -/

/-- The image of `c` under the first run that covers it, or `c` itself. -/
def shiftBy (runs : List CaseRun) (c : Char) : Char :=
  match runs.find? (·.covers c.toNat) with
  | some r => Char.ofNat (Int.ofNat c.toNat + r.shift).toNat
  | none => c

def upperChar (c : Char) : Char :=
  if c.toNat < 0x80 then c.toUpper else shiftBy upperRuns c

def lowerChar (c : Char) : Char :=
  if c.toNat < 0x80 then c.toLower else shiftBy lowerRuns c

/-- One representative of the letters that differ from `c` in case only. -/
def foldChar (c : Char) : Char :=
  if c == 'ı' || c == 'İ' then c else lowerChar (upperChar c)

/-- `s` in upper case. -/
def upper (s : String) : String := String.ofList (s.toList.map upperChar)

/-- `s` in lower case. -/
def lower (s : String) : String := String.ofList (s.toList.map lowerChar)

/-- The two texts differ in case only. -/
def equalFold (s t : String) : Bool :=
  s.toList.map foldChar == t.toList.map foldChar

/-! ## White space -/

/-- Space, tab and the line separators, the no-break space and the typographic spaces. -/
def isBlank (c : Char) : Bool :=
  let n := c.toNat
  (9 ≤ n && n ≤ 13) || n == 0x20 || n == 0x85 || n == 0xA0 || n == 0x1680 ||
    (0x2000 ≤ n && n ≤ 0x200A) || n == 0x2028 || n == 0x2029 || n == 0x202F || n == 0x205F ||
    n == 0x3000

/-- `cs` without the trailing characters that satisfy `p`. -/
def dropEnd (p : Char → Bool) (cs : List Char) : List Char :=
  (cs.reverse.dropWhile p).reverse

/-- `cs` without surrounding white space. -/
def trimChars (cs : List Char) : List Char :=
  dropEnd isBlank (cs.dropWhile isBlank)

/-- `s` without surrounding white space. -/
def trim (s : String) : String :=
  String.ofList (trimChars s.toList)

theorem toList_trim (s : String) : (trim s).toList = trimChars s.toList := by
  simp [trim]

end Triage.Text
