import KeyDirectory.Cache.Basic
import KeyDirectory.Text.Blank
import KeyDirectory.Text.Number
import KeyDirectory.Text.Utf8
import KeyDirectory.Url.Parse

/-!
# Exchanges with the remote directory

What is sent to the remote directory and what comes back: an answer with a status, headers and
a body, or no usable answer at all.  Carrying a request out, redirections included, is left to
whoever has a network.
-/

namespace KeyDirectory.Remote

/-- A request for the keys of an identity. -/
structure Request where
  url : Url
  accept : String
  userAgent : String
  /-- The token of the `Authorization` header. -/
  bearer : Option String
  /-- The tag of a stored answer, which needs not be sent again. -/
  ifNoneMatch : Option String
  deriving DecidableEq, Repr

/-- Why there is no usable answer. -/
inductive TransportFault where
  /-- The request cannot be written down. -/
  | unsendable
  | timedOut
  /-- There is no way to the host. -/
  | unreachable
  /-- The connection ended before the answer did. -/
  | brokenOff
  deriving DecidableEq, Repr

/-- The wording of a fault. -/
def TransportFault.text : TransportFault → String
  | unsendable => "the request cannot be sent"
  | timedOut => "request timed out: no complete answer in time"
  | unreachable => "the host cannot be reached"
  | brokenOff => "the connection was closed before the answer was complete"

/-- An answer.  The body comes after the rest and may fail to. -/
structure Reply where
  status : Nat
  headers : List (String × List UInt8)
  body : Except TransportFault (List UInt8)

/-- What comes of a request. -/
abbrev Outcome := Except TransportFault Reply

/-- Whether a byte may stand in the value of a header. -/
def isHeaderByte (b : UInt8) : Bool :=
  b = 9 || (32 ≤ b && b ≠ 127)

/-- Whether a request can be sent: to a host, by a known scheme, and with a token that a header
can hold. -/
def Request.isSendable (r : Request) : Bool :=
  (r.url.scheme = "http" || r.url.scheme = "https") && r.url.authority.isSome &&
    (Text.Utf8.encodeText (r.bearer.getD "")).all isHeaderByte

/-! ## Headers -/

/-- The value of a header that is plain ASCII text. -/
def plainText? (value : List UInt8) : Option String :=
  if value.all fun b => b = 9 || (32 ≤ b && b < 127) then
    some (String.ofList (value.map fun b => Char.ofNat b.toNat))
  else none

/-- The first header of the given name, in lower case, when it is plain text. -/
def Reply.header? (r : Reply) (name : String) : Option String :=
  (r.headers.lookup name).bind plainText?

/-- A text without the quotes around it. -/
def withoutQuotes (s : List Char) : List Char :=
  ((s.dropWhile (· = '"')).reverse.dropWhile (· = '"')).reverse

/-- The seconds that a `Cache-Control` header allows an answer to be used: its first `max-age`,
when that is a number. -/
def maxAgeSeconds? (value : String) : Option Nat := do
  let parts := (Text.pieces ',' value.toList).map Text.trim
  let digits ← parts.findSome? (Text.afterBeginning? "max-age=".toList)
  Text.readNatural? Text.maxWord64 (withoutQuotes digits)

/-- For how long an answer may be used, as far as it says. -/
def Reply.maxAge? (r : Reply) : Option Duration :=
  ((r.header? "cache-control").bind maxAgeSeconds?).map Duration.ofSeconds

/-- The tag of an answer. -/
def Reply.etag? (r : Reply) : Option String :=
  r.header? "etag"

/-! ## Statuses -/

/-- The standard reason phrases. -/
def reasons : List (Nat × String) := [
  (100, "Continue"), (101, "Switching Protocols"), (102, "Processing"),
  (200, "OK"), (201, "Created"), (202, "Accepted"), (203, "Non Authoritative Information"),
  (204, "No Content"), (205, "Reset Content"), (206, "Partial Content"), (207, "Multi-Status"),
  (208, "Already Reported"), (226, "IM Used"),
  (300, "Multiple Choices"), (301, "Moved Permanently"), (302, "Found"), (303, "See Other"),
  (304, "Not Modified"), (305, "Use Proxy"), (307, "Temporary Redirect"),
  (308, "Permanent Redirect"),
  (400, "Bad Request"), (401, "Unauthorized"), (402, "Payment Required"), (403, "Forbidden"),
  (404, "Not Found"), (405, "Method Not Allowed"), (406, "Not Acceptable"),
  (407, "Proxy Authentication Required"), (408, "Request Timeout"), (409, "Conflict"),
  (410, "Gone"), (411, "Length Required"), (412, "Precondition Failed"),
  (413, "Payload Too Large"), (414, "URI Too Long"), (415, "Unsupported Media Type"),
  (416, "Range Not Satisfiable"), (417, "Expectation Failed"), (418, "I'm a teapot"),
  (421, "Misdirected Request"), (422, "Unprocessable Entity"), (423, "Locked"),
  (424, "Failed Dependency"), (425, "Too Early"), (426, "Upgrade Required"),
  (428, "Precondition Required"), (429, "Too Many Requests"),
  (431, "Request Header Fields Too Large"), (451, "Unavailable For Legal Reasons"),
  (500, "Internal Server Error"), (501, "Not Implemented"), (502, "Bad Gateway"),
  (503, "Service Unavailable"), (504, "Gateway Timeout"), (505, "HTTP Version Not Supported"),
  (506, "Variant Also Negotiates"), (507, "Insufficient Storage"), (508, "Loop Detected"),
  (510, "Not Extended"), (511, "Network Authentication Required")]

/-- A status with its reason phrase. -/
def statusText (status : Nat) : String :=
  toString status ++ " " ++ (reasons.lookup status).getD "<unknown status code>"

end KeyDirectory.Remote
