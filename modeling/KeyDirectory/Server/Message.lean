import KeyDirectory.Text.Base64
import KeyDirectory.Text.Blank
import KeyDirectory.Text.Split
import KeyDirectory.Text.Utf8
import KeyDirectory.Crypto.Sha1

/-!
# HTTP messages

Requests and responses as the server sees them, and the handshake by which a request turns its
connection into a WebSocket.
-/

namespace KeyDirectory.Server

/-- A request.  The names of headers are in lower case. -/
structure Request where
  method : String
  /-- What stands after the method: a path with a query, or a whole URL. -/
  target : String
  headers : List (String × List UInt8)
  deriving DecidableEq, Repr

/-- A response. -/
structure Response where
  status : Nat
  headers : List (String × String)
  body : List UInt8
  deriving DecidableEq, Repr

/-- Whether a byte shows as a character, or is a tab. -/
def isPlainByte (b : UInt8) : Bool :=
  b = 9 || (32 ≤ b && b < 127)

/-- The first header of the given name, when all of it is plain text. -/
def Request.header? (r : Request) (name : String) : Option String :=
  (r.headers.lookup name).bind fun value =>
    if value.all isPlainByte then some (String.ofList (value.map fun b => Char.ofNat b.toNat))
    else none

/-- The path after the scheme and the host of a URL. -/
def pathAfterHost (s : List Char) : List Char :=
  match s.dropWhile fun c => c ≠ '/' && c ≠ '?' with
  | '/' :: rest => '/' :: rest
  | _ => ['/']

/-- What follows `://` in a text. -/
def afterSchemeMark? : List Char → Option (List Char)
  | ':' :: '/' :: '/' :: rest => some rest
  | _ :: rest => afterSchemeMark? rest
  | [] => none

/-- The path of a target, without the query. -/
def pathOfTarget (target : String) : String :=
  let s := target.toList
  let path :=
    if s.head? = some '/' then s
    else match afterSchemeMark? s with
      | some rest => pathAfterHost rest
      | none => s
  String.ofList (path.takeWhile fun c => c ≠ '?' && c ≠ '#')

/-- The path that is asked for. -/
def Request.path (r : Request) : String :=
  pathOfTarget r.target

/-- A response of plain text. -/
def Response.ofText (status : Nat) (text : String) : Response :=
  ⟨status, [("content-type", "text/plain; charset=utf-8")], Text.Utf8.encodeText text⟩

/-- The response to a path that leads nowhere. -/
def Response.notFound : Response := .ofText 404 "Not Found"

/-! ## Turning a connection into a WebSocket -/

/-- Whether a byte is a blank in a header. -/
def isBlankByte (b : UInt8) : Bool :=
  b = 32 || b = 9 || b = 10 || b = 12 || b = 13

/-- A value without blanks around. -/
def trimBytes (s : List UInt8) : List UInt8 :=
  ((s.dropWhile isBlankByte).reverse.dropWhile isBlankByte).reverse

/-- A byte in lower case, as far as it is a letter. -/
def lowerByte (b : UInt8) : UInt8 :=
  if 65 ≤ b ∧ b ≤ 90 then b + 32 else b

/-- Whether some header of the name lists a word, in any case. -/
def Request.lists (r : Request) (name word : String) : Bool :=
  r.headers.any fun (n, value) =>
    n = name && (Text.pieces 44 value).any fun item =>
      (trimBytes item).map lowerByte = Text.Utf8.encodeText word

/-- Whether a request asks for a WebSocket. -/
def Request.asksForWebSocket (r : Request) : Bool :=
  r.lists "connection" "upgrade" && r.lists "upgrade" "websocket"

/-- What is appended to a key before it is hashed. -/
def handshakeMark : String := "258EAFA5-E914-47DA-95CA-C5AB0DC85B11"

/-- The answer to the key of a handshake. -/
def acceptKey (key : List UInt8) : String :=
  let digest := Crypto.Sha1.digest (key ++ Text.Utf8.encodeText handshakeMark)
  String.ofList (Text.Base64.encode digest)

/-- The response that turns a connection into a WebSocket; none when the request lacks the key
or asks for another version. -/
def Request.handshake? (r : Request) : Option Response := do
  let key ← r.headers.lookup "sec-websocket-key"
  if r.headers.lookup "sec-websocket-version" = some (Text.Utf8.encodeText "13") then
    some ⟨101, [("connection", "upgrade"), ("upgrade", "websocket"),
      ("sec-websocket-accept", acceptKey key)], []⟩
  else none

end KeyDirectory.Server
