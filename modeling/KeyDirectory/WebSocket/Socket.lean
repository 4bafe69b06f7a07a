import KeyDirectory.Network.Pipe
import KeyDirectory.WebSocket.Message

/-!
# The serving side of a WebSocket

A socket turns the bytes of a pipe into messages and messages into bytes.  It answers a ping
by a pong and a closing message by a closing message; either answer goes out before the next
message is read.  A peer that breaks the protocol is not read any further.
-/

namespace KeyDirectory.WebSocket

/-- How large things from the peer may be. -/
structure Limits where
  message : Nat
  frame : Nat
  deriving DecidableEq, Repr

/-- The limits when none are set. -/
def Limits.standard : Limits := ⟨64 * 1024 * 1024, 16 * 1024 * 1024⟩

/-- How far the closing of a socket has come. -/
inductive Status where
  | active
  /-- This side closed. -/
  | closed
  /-- The peer closed. -/
  | closedByPeer
  /-- The peer answered the closing of this side. -/
  | acknowledged
  /-- There is nothing more to read or to write. -/
  | terminated
  deriving DecidableEq, Repr

/-- Whether a message may still come. -/
def Status.canRead : Status → Bool
  | active | closed => true
  | closedByPeer | acknowledged | terminated => false

/-- A message of which a part has come. -/
structure Assembly where
  opcode : Opcode
  content : List UInt8
  deriving DecidableEq, Repr

/-- A socket. -/
structure Socket where
  limits : Limits
  status : Status
  /-- The bytes that make no frame yet. -/
  received : List UInt8
  assembly : Option Assembly
  /-- The answer that goes out next. -/
  reply : Option Message
  /-- Whether an answer waits among the bytes to write. -/
  replyWaits : Bool
  /-- The bytes to write. -/
  output : List UInt8
  deriving DecidableEq, Repr

/-- What reading leads to. -/
inductive Reading where
  /-- No whole message has come. -/
  | waiting
  | message (m : Message)
  /-- The peer broke the protocol, or the connection broke. -/
  | failed
  /-- Both sides had closed. -/
  | ended
  deriving DecidableEq, Repr

/-- What writing out leads to. -/
inductive Flushing where
  | done
  /-- The pipe has no room; the rest is written later. -/
  | blocked
  | failed
  deriving DecidableEq, Repr

namespace Socket

/-- A socket whose handshake is done. -/
def start (limits : Limits) : Socket :=
  ⟨limits, .active, [], none, none, false, []⟩

/-! ## Writing -/

/-- Adds a message to the bytes to write; none when this side or the peer has closed. -/
def write (s : Socket) (m : Message) : Option Socket :=
  if s.status = .active then
    some { s with
      output := s.output ++ m.frame.encode
      status := if m.opcode = .close then .closed else .active }
  else none

/-- Adds the answer to the bytes to write. -/
def queueReply (s : Socket) : Socket :=
  match s.reply with
  | none => s
  | some m => { s with output := s.output ++ m.frame.encode, reply := none }

/-- Writes as much as the pipe takes.  When all is written after the peer closed, the socket is
at its end. -/
def flush (s : Socket) (p : Pipe) : Socket × Pipe × Flushing :=
  let s := s.queueReply
  match p.write s.output with
  | none => (s, p, .failed)
  | some (p, []) =>
    ({ s with
        output := []
        replyWaits := false
        status := if s.status.canRead then s.status else .terminated }, p, .done)
  | some (p, rest) => ({ s with output := rest }, p, .blocked)

/-! ## Reading -/

/-- Takes an answer in; one that closes is never replaced. -/
def setReply (s : Socket) (m : Message) : Socket :=
  match s.reply with
  | some (.close _) => s
  | _ => { s with reply := some m }

/-- Takes a closing message. -/
def takeClose (s : Socket) (reason : Option CloseReason) : Socket × Option CloseReason :=
  if s.status = .active then
    let reason := reason.map fun r => if r.isAllowed then r else .violation
    ({ s with status := .closedByPeer }.setReply (.close reason), reason)
  else ({ s with status := .acknowledged }, reason)

/-- Takes a message that is one frame. -/
def takeControl (s : Socket) (f : Frame) : Socket × Reading :=
  if !f.isFinal || 125 < f.payload.length then (s, .failed)
  else
    match Message.ofPayload? f.opcode f.payload with
    | none => (s, .failed)
    | some (.close reason) =>
      let (s, reason) := s.takeClose reason
      (s, .message (.close reason))
    | some (.ping content) =>
      (if s.status = .active then s.setReply (.pong content) else s, .message (.ping content))
    | some m => (s, .message m)

/-- Takes a part of a message after the parts that came before; `waiting` when more are to
come. -/
def takePart (s : Socket) (before : Assembly) (f : Frame) : Socket × Reading :=
  let content := before.content ++ f.payload
  if s.limits.message < content.length then (s, .failed)
  else if before.opcode = .text && !Text.Utf8.isBeginning content then (s, .failed)
  else if f.isFinal then
    ({ s with assembly := none },
      match Message.ofPayload? before.opcode content with
      | some m => .message m
      | none => .failed)
  else ({ s with assembly := some ⟨before.opcode, content⟩ }, .waiting)

/-- Takes a frame; `waiting` when it completes no message. -/
def takeFrame (s : Socket) (f : Frame) : Socket × Reading :=
  if f.reserved ≠ 0 || f.mask.isNone then (s, .failed)
  else
    match f.opcode, s.assembly with
    | .close, _ | .ping, _ | .pong, _ => s.takeControl f
    | .continuation, some before => s.takePart before f
    | .text, none | .binary, none => s.takePart ⟨f.opcode, []⟩ f
    | _, _ => (s, .failed)

/-- Takes frames from the bytes received until a message is complete, looking at no more frames
than the first argument says. -/
def takeFrames : Nat → Socket → Socket × Reading
  | 0, s => (s, .waiting)
  | n + 1, s =>
    match Frame.read s.limits.frame s.received with
    | .incomplete => (s, .waiting)
    | .unassigned | .tooLong => (s, .failed)
    | .frame f rest =>
      match { s with received := rest }.takeFrame f with
      | (s, .waiting) => takeFrames n s
      | (s, r) => (s, r)

/-- Takes the next message from the bytes received; each frame has at least one of them. -/
def takeMessage (s : Socket) : Socket × Reading :=
  takeFrames s.received.length s

/-- Reads a message.  An answer that is due is written first; when the pipe has no room for it,
reading goes on all the same. -/
def read (s : Socket) (p : Pipe) : Socket × Pipe × Reading :=
  let due := s.reply.isSome || s.replyWaits
  match if due then s.flush p else (s, p, .done) with
  | (s, p, .failed) => (s, p, .failed)
  | (s, p, flushing) =>
    let s := if flushing = .blocked then { s with replyWaits := true } else s
    if !s.status.canRead then ({ s with status := .terminated }, p, .ended)
    else
      let (p, bytes) := p.read
      match { s with received := s.received ++ bytes }.takeMessage with
      | (s, .waiting) =>
        if p.peerGone then ({ s with status := .terminated }, p, .failed) else (s, p, .waiting)
      | (s, r) => (s, p, r)

end Socket

end KeyDirectory.WebSocket
