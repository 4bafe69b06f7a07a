/-!
# Byte pipes

One end of a connection that carries bytes both ways, as the side that serves sees it.  What
it writes waits in the pipe until the peer takes it, and the pipe holds only so much.
-/

namespace KeyDirectory

/-- One end of a pipe. -/
structure Pipe where
  /-- The bytes from the peer that were not read yet. -/
  incoming : List UInt8
  /-- The bytes that the peer has not taken yet. -/
  outgoing : List UInt8
  /-- How many bytes may wait for the peer. -/
  capacity : Nat
  /-- Whether the peer closed its end. -/
  peerGone : Bool
  deriving DecidableEq, Repr

namespace Pipe

/-- A pipe through which nothing went yet. -/
def empty (capacity : Nat) : Pipe := ⟨[], [], capacity, false⟩

/-- Writes as many bytes as there is room for and returns the rest; none when bytes are left to
write and the peer is gone. -/
def write (p : Pipe) (bytes : List UInt8) : Option (Pipe × List UInt8) :=
  if p.peerGone && !bytes.isEmpty then none
  else
    let room := p.capacity - p.outgoing.length
    some ({ p with outgoing := p.outgoing ++ bytes.take room }, bytes.drop room)

/-- Reads all bytes that are there. -/
def read (p : Pipe) : Pipe × List UInt8 :=
  ({ p with incoming := [] }, p.incoming)

/-- The pipe after the peer wrote. -/
def feed (p : Pipe) (bytes : List UInt8) : Pipe :=
  if p.peerGone then p else { p with incoming := p.incoming ++ bytes }

/-- The pipe after the peer took what waited for it. -/
def drain (p : Pipe) : Pipe × List UInt8 :=
  ({ p with outgoing := [] }, p.outgoing)

/-- The pipe after the peer closed its end. -/
def hangUp (p : Pipe) : Pipe :=
  { p with peerGone := true }

end Pipe

end KeyDirectory
