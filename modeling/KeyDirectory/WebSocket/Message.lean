import KeyDirectory.Text.Utf8
import KeyDirectory.WebSocket.Frame

/-!
# WebSocket messages

What the two sides of a WebSocket tell each other.  A text or binary message may be spread over
several frames; the others are always one frame.
-/

namespace KeyDirectory.WebSocket

/-- Why a side closes. -/
structure CloseReason where
  code : Nat
  text : String
  deriving DecidableEq, Repr

namespace CloseReason

/-- Whether a code may be sent: those that have a meaning, and those left to applications. -/
def isAllowed (reason : CloseReason) : Bool :=
  (1000 ≤ reason.code && reason.code ≤ 1003) || (1007 ≤ reason.code && reason.code ≤ 1013) ||
    (3000 ≤ reason.code && reason.code ≤ 4999)

/-- What a code that may not be sent is answered with. -/
def violation : CloseReason := ⟨1002, "Protocol violation"⟩

/-- The payload of a reason. -/
def payload (reason : CloseReason) : List UInt8 :=
  UInt8.ofNat (reason.code / 256) :: UInt8.ofNat reason.code :: Text.Utf8.encodeText reason.text

end CloseReason

/-- A message. -/
inductive Message where
  | text (content : String)
  | binary (content : List UInt8)
  | ping (content : List UInt8)
  | pong (content : List UInt8)
  | close (reason : Option CloseReason)
  deriving DecidableEq, Repr

namespace Message

/-- What the frame of a message is for. -/
def opcode : Message → Opcode
  | text _ => .text
  | binary _ => .binary
  | ping _ => .ping
  | pong _ => .pong
  | close _ => .close

/-- The payload of a message. -/
def payload : Message → List UInt8
  | text content => Text.Utf8.encodeText content
  | binary content | ping content | pong content => content
  | close none => []
  | close (some reason) => reason.payload

/-- The frame in which a server sends a message. -/
def frame (m : Message) : Frame :=
  ⟨true, 0, m.opcode, none, m.payload⟩

/-- The message that closes, from its payload: nothing, or a code and a text. -/
def closeOfPayload? : List UInt8 → Option (Option CloseReason)
  | [] => some none
  | [_] => none
  | a :: b :: rest =>
    (Text.Utf8.decodeText? rest).map fun words => some ⟨a.toNat * 256 + b.toNat, words⟩

/-- The message that a payload makes in frames begun for the given purpose; none when the payload
does not fit it. -/
def ofPayload? (opcode : Opcode) (payload : List UInt8) : Option Message :=
  match opcode with
  | .text => (Text.Utf8.decodeText? payload).map text
  | .binary => some (binary payload)
  | .ping => some (ping payload)
  | .pong => some (pong payload)
  | .close => (closeOfPayload? payload).map close
  | .continuation | .unassigned _ => none

end Message

end KeyDirectory.WebSocket
