import Triage.Host.Url

/-!
# The network

Requests and the replies to them. What the network answers is a function of the request, so that a
world is described by the function it answers with.
-/
namespace Triage

/-- A request as it is sent. Headers that are empty are not sent. -/
structure Request where
  method : String
  url : String
  authorization : String := ""
  accept : String := ""
  agent : String := ""
  body : String := ""
  deriving Repr, DecidableEq, Inhabited

/-- What comes back for a request: nothing but a failure, or a status and a body. The body may break
off with a failure. -/
inductive Reply where
  | failed (cause : Failure)
  | answered (code : Int) (body : String) (broken : Option Failure)
  deriving Repr, DecidableEq

namespace Status

/-- The phrase that goes with a status code; empty for a code that has none. -/
def reason : Int → String
  | 100 => "Continue"
  | 101 => "Switching Protocols"
  | 102 => "Processing"
  | 103 => "Early Hints"
  | 200 => "OK"
  | 201 => "Created"
  | 202 => "Accepted"
  | 203 => "Non-Authoritative Information"
  | 204 => "No Content"
  | 205 => "Reset Content"
  | 206 => "Partial Content"
  | 207 => "Multi-Status"
  | 208 => "Already Reported"
  | 226 => "IM Used"
  | 300 => "Multiple Choices"
  | 301 => "Moved Permanently"
  | 302 => "Found"
  | 303 => "See Other"
  | 304 => "Not Modified"
  | 305 => "Use Proxy"
  | 307 => "Temporary Redirect"
  | 308 => "Permanent Redirect"
  | 400 => "Bad Request"
  | 401 => "Unauthorized"
  | 402 => "Payment Required"
  | 403 => "Forbidden"
  | 404 => "Not Found"
  | 405 => "Method Not Allowed"
  | 406 => "Not Acceptable"
  | 407 => "Proxy Authentication Required"
  | 408 => "Request Timeout"
  | 409 => "Conflict"
  | 410 => "Gone"
  | 411 => "Length Required"
  | 412 => "Precondition Failed"
  | 413 => "Request Entity Too Large"
  | 414 => "Request URI Too Long"
  | 415 => "Unsupported Media Type"
  | 416 => "Requested Range Not Satisfiable"
  | 417 => "Expectation Failed"
  | 418 => "I'm a teapot"
  | 421 => "Misdirected Request"
  | 422 => "Unprocessable Entity"
  | 423 => "Locked"
  | 424 => "Failed Dependency"
  | 425 => "Too Early"
  | 426 => "Upgrade Required"
  | 428 => "Precondition Required"
  | 429 => "Too Many Requests"
  | 431 => "Request Header Fields Too Large"
  | 451 => "Unavailable For Legal Reasons"
  | 500 => "Internal Server Error"
  | 501 => "Not Implemented"
  | 502 => "Bad Gateway"
  | 503 => "Service Unavailable"
  | 504 => "Gateway Timeout"
  | 505 => "HTTP Version Not Supported"
  | 506 => "Variant Also Negotiates"
  | 507 => "Insufficient Storage"
  | 508 => "Loop Detected"
  | 510 => "Not Extended"
  | 511 => "Network Authentication Required"
  | _ => ""

/-- A status code with its phrase. -/
def line (code : Int) : String :=
  match reason code with
  | "" => toString code
  | phrase => toString code ++ " " ++ phrase

/-- The server did not accept the credentials. -/
def isUnauthorized (code : Int) : Bool := code == 401 || code == 403

/-- The server asks for fewer requests. -/
def isRateLimited (code : Int) : Bool := code == 429

end Status

/-! ## Credentials in addresses -/

namespace Base64

def digit (n : Nat) : Char :=
  if n < 26 then Char.ofNat (65 + n)
  else if n < 52 then Char.ofNat (97 + (n - 26))
  else if n < 62 then Char.ofNat (48 + (n - 52))
  else if n = 62 then '+'
  else '/'

/-- Bytes in base 64, three to four digits, with `=` for digits that are missing. -/
def encode : List UInt8 → List Char
  | [] => []
  | [a] =>
    let n := a.toNat * 16
    [digit (n / 64), digit (n % 64), '=', '=']
  | [a, b] =>
    let n := (a.toNat * 256 + b.toNat) * 4
    [digit (n / 4096), digit (n / 64 % 64), digit (n % 64), '=']
  | a :: b :: c :: rest =>
    let n := (a.toNat * 256 + b.toNat) * 256 + c.toNat
    digit (n / 262144) :: digit (n / 4096 % 64) :: digit (n / 64 % 64) :: digit (n % 64) :: encode rest

end Base64

/-- The credentials that an address carries, as a header. -/
def Url.credentials (u : Url) : String :=
  match u.user with
  | none => ""
  | some (name, password) =>
    "Basic " ++ String.ofList (Base64.encode (name ++ 0x3a :: password.getD []))

end Triage
