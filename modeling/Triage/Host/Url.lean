import Triage.Failure
import Triage.Number.Reader
import Triage.Text.Bytes
import Triage.Text.Case
import Triage.Text.Pieces

/-!
# Addresses

Uniform resource locators: their parts, how a text is taken apart, and the text a request is sent
to. Escapes are decoded to bytes, and each part has its own set of bytes that stand for themselves.
A part that already is well-formed is kept as it was written.
-/
namespace Triage

/-- An address in its parts. The path, the query and the fragment are as they were written, the user
and the host are decoded. -/
structure Url where
  scheme : String := ""
  /-- What follows the scheme, for an address without slashes. -/
  rootless : String := ""
  user : Option (List UInt8 × Option (List UInt8)) := none
  host : List UInt8 := []
  /-- The path follows the scheme directly, with no slashes for a host. -/
  hostless : Bool := false
  path : String := ""
  /-- There is a question mark with nothing after it. -/
  bareQuery : Bool := false
  query : String := ""
  fragment : String := ""
  deriving Repr, DecidableEq, Inhabited

namespace Url

/-- The parts of an address that differ in which bytes they escape. -/
inductive Part where
  | path | userinfo | host | zone | query | fragment
  deriving Repr, DecidableEq

/-- An ASCII letter or digit. -/
def isAlphanumeric (c : Char) : Bool := c.isAlphanum

/-- A character stands for itself in a part. -/
def Part.passes (p : Part) (c : Char) : Bool :=
  isAlphanumeric c || "-_.~".toList.contains c ||
    match p with
    | .path => "$&+,/:;=@".toList.contains c
    | .userinfo => "$&+,;=".toList.contains c
    | .host | .zone => "!$&'()*+,;=:[]<>\"".toList.contains c
    | .query => false
    | .fragment => "$&+,/:;=?@!()*".toList.contains c

/-- The byte that a pair of hexadecimal digits stands for. -/
def hexByte? (hi lo : Char) : Option UInt8 := do
  return UInt8.ofNat ((← Number.hexValue? hi) * 16 + (← Number.hexValue? lo))

/-- The beginning of `cs`, three bytes at most. -/
def malformed (cs : List Char) : Failure :=
  .plain ("invalid URL escape " ++ Text.quotedBytes ((Text.bytes (cs.take 3)).take 3))

/-- An escape that the host of an address may not have: of ASCII only the percent sign is escaped,
and in a zone also what could not be written otherwise. -/
def Part.refuses (p : Part) (hi : Char) (b : UInt8) : Bool :=
  match p with
  | .host => b != 0x25 && ((Number.hexValue? hi).getD 0) < 8
  | .zone => b != 0x25 && b != 0x20 && !(b < 0x80 && Part.host.passes (Char.ofNat b.toNat))
  | _ => false

/-- The bytes that a part of an address stands for. -/
def decode (p : Part) : List Char → Except Failure (List UInt8)
  | [] => .ok []
  | '%' :: hi :: lo :: rest =>
    match hexByte? hi lo with
    | none => .error (malformed ('%' :: hi :: lo :: rest))
    | some b =>
      if p.refuses hi b then .error (malformed ['%', hi, lo])
      else (decode p rest).map (b :: ·)
  | c :: rest =>
    if c = '%' then .error (malformed (c :: rest))
    else if (p == .host || p == .zone) && c.toNat < 0x80 && !p.passes c then
      .error (.plain ("invalid character " ++ Text.quoted (String.singleton c) ++ " in host name"))
    else if p == .query && c == '+' then (decode p rest).map (0x20 :: ·)
    else (decode p rest).map (Text.bytes [c] ++ ·)

/-- An upper-case hexadecimal digit. -/
def escapeDigit (n : Nat) : Char := (Text.hexDigit n).toUpper

/-- Bytes written in a part of an address. -/
def encode (p : Part) (bs : List UInt8) : List Char :=
  bs.flatMap fun b =>
    let c := Char.ofNat b.toNat
    if b < 0x80 && p.passes c then [c]
    else ['%', escapeDigit (b.toNat / 16), escapeDigit (b.toNat % 16)]

/-- A text needs no further escapes in a part. -/
def isEncoded (p : Part) (cs : List Char) : Bool :=
  cs.all fun c => "!$&'()*+,;=:@[]%".toList.contains c || p.passes c

/-- A part as it is sent: as it was written if that is well-formed, and else escaped anew. -/
def normal (p : Part) (s : String) : List Char :=
  if isEncoded p s.toList then s.toList
  else
    match decode p s.toList with
    | .ok bs => encode p bs
    | .error _ => s.toList

/-! ## Taking apart -/

/-- The scheme and what follows its colon; none if the text does not begin with one. -/
def splitScheme : (seen : List Char) → List Char → Except Failure (Option (List Char × List Char))
  | _, [] => .ok none
  | seen, c :: rest =>
    if c.isAlpha then splitScheme (c :: seen) rest
    else if c.isDigit || "+-.".toList.contains c then
      if seen.isEmpty then .ok none else splitScheme (c :: seen) rest
    else if c = ':' then
      if seen.isEmpty then .error (.plain "missing protocol scheme")
      else .ok (some (seen.reverse, rest))
    else .ok none

/-- A colon with digits only after it, or nothing. -/
def isPort : List Char → Bool
  | [] => true
  | c :: digits => c == ':' && digits.all Char.isDigit

def badPort (cs : List Char) : Failure :=
  .plain ("invalid port " ++ Text.quoted (String.ofList cs) ++ " after host")

/-- What stands before the first occurrence of a part, and from it on. -/
def splitAtPart (part : List Char) : List Char → Option (List Char × List Char)
  | [] => none
  | c :: rest =>
    if (Text.stripLead part (c :: rest)).isSome then some ([], c :: rest)
    else (splitAtPart part rest).map fun (before, from') => (c :: before, from')

def parseHost (cs : List Char) : Except Failure (List UInt8) :=
  if cs.head? = some '[' then
    match Text.cutLast ']' cs with
    | none => .error (.plain "missing ']' in host")
    | some (inside, port) =>
      if !isPort port then .error (badPort port)
      else
        match splitAtPart ['%', '2', '5'] inside with
        | none => decode .host cs
        | some (address, zone) => do
          return (← decode .host address) ++ (← decode .zone zone) ++ (← decode .host (']' :: port))
  else
    match Text.cutLast ':' cs with
    | some (_, port) => if isPort (':' :: port) then decode .host cs else .error (badPort (':' :: port))
    | none => decode .host cs

def isUserChar (c : Char) : Bool :=
  isAlphanumeric c || "-._:~!$&'()*+,;=%@".toList.contains c

def parseUser (cs : List Char) : Except Failure (List UInt8 × Option (List UInt8)) :=
  if !cs.all isUserChar then .error (.plain "net/url: invalid userinfo")
  else
    match Text.cutFirst ':' cs with
    | none => (decode .userinfo cs).map (·, none)
    | some (name, password) => do
      return (← decode .userinfo name, some (← decode .userinfo password))

/-- Reads `user@host:port` into an address. -/
def parseAuthority (u : Url) (cs : List Char) : Except Failure Url :=
  match Text.cutLast '@' cs with
  | none => do return { u with host := ← parseHost cs }
  | some (user, host) => do
    let host ← parseHost host
    return { u with host, user := some (← parseUser user) }

/-- Reads a path into an address. -/
def parsePath (u : Url) (cs : List Char) : Except Failure Url := do
  let _ ← decode .path cs
  return { u with path := String.ofList cs }

/-- Reads what follows the scheme and precedes the query. -/
def parseHierarchy (u : Url) (cs : List Char) : Except Failure Url :=
  match Text.stripLead ['/', '/'] cs with
  | some rest =>
    if u.scheme = "" && rest.head? = some '/' then parsePath u cs
    else do
      let authority := rest.takeWhile (· != '/')
      parsePath (← parseAuthority u authority) (rest.drop authority.length)
  | none =>
    if cs.head? = some '/' then parsePath { u with hostless := u.scheme != "" } cs
    else if u.scheme != "" then .ok { u with rootless := String.ofList cs }
    else if (cs.takeWhile (· != '/')).contains ':' then
      .error (.plain "first path segment in URL cannot contain colon")
    else parsePath u cs

/-- Takes an address without its fragment apart. -/
def parseBody (cs : List Char) : Except Failure Url :=
  if cs.any fun c => c.toNat < 0x20 || c.toNat = 0x7f then
    .error (.plain "net/url: invalid control character in URL")
  else if cs = ['*'] then .ok { path := "*" }
  else do
    let (scheme, rest) :=
      match ← splitScheme [] cs with
      | some (scheme, rest) => (scheme, rest)
      | none => ([], cs)
    let u : Url := { scheme := Text.lower (String.ofList scheme) }
    match Text.cutFirst '?' rest with
    | none => parseHierarchy u rest
    | some (body, query) =>
      parseHierarchy { u with bareQuery := query.isEmpty, query := String.ofList query } body

/-- The failure for an address that cannot be taken apart. -/
def unreadable (s : String) (cause : Failure) : Failure := .transport "parse" s cause

/-- Takes an address apart. -/
def parse (s : String) : Except Failure Url :=
  let (body, fragment) := (Text.cutFirst '#' s.toList).getD (s.toList, [])
  match parseBody body with
  | .error e => .error (unreadable (String.ofList body) e)
  | .ok u =>
    match decode .fragment fragment with
    | .error e => .error (unreadable s e)
    | .ok _ => .ok { u with fragment := String.ofList fragment }

/-! ## Writing -/

def userText (name : List UInt8) (password : Option (List UInt8)) : List Char :=
  encode .userinfo name ++
    match password with
    | none => []
    | some p => ':' :: encode .userinfo p

def render (u : Url) (user : Option (List Char)) : String :=
  let scheme := if u.scheme = "" then [] else u.scheme.toList ++ [':']
  let body :=
    if u.rootless ≠ "" then scheme ++ u.rootless.toList
    else
      let named := !u.host.isEmpty || user.isSome
      let slashes := if named || (u.scheme != "" && u.path != "" && !u.hostless) then ['/', '/'] else []
      let authority := slashes ++ (user.map (· ++ ['@'])).getD [] ++ encode .host u.host
      let path := if u.path = "*" then ['*'] else normal .path u.path
      let lead := scheme ++ authority
      let joint :=
        if !path.isEmpty && path.head? != some '/' && !u.host.isEmpty then ['/']
        else if lead.isEmpty && (path.takeWhile (· != '/')).contains ':' then ['.', '/']
        else []
      lead ++ joint ++ path
  let query := if u.bareQuery || u.query ≠ "" then '?' :: u.query.toList else []
  let fragment := if u.fragment = "" then [] else '#' :: normal .fragment u.fragment
  String.ofList (body ++ query ++ fragment)

def text (u : Url) : String :=
  u.render (u.user.map fun (name, password) => userText name password)

/-- The address as a text that does not give the password away. -/
def discreet (u : Url) : String :=
  u.render (u.user.map fun (name, password) =>
    if password.isSome then (Text.ofBytes name).toList ++ ":***".toList else userText name password)

def withoutEmptyPort (u : Url) : Url :=
  match u.host.reverse with
  | 0x3a :: rest => { u with host := rest.reverse }
  | _ => u

end Url

end Triage
