import NetShell.Fault
import NetShell.Bytes

/-! A transport over one end of a pair of connected stream sockets.

Bytes wait in two queues, one for each direction. An end may be told that no more
bytes come, by this side (`shutdown`, both directions) or by the peer (one direction
or both); what was sent before is still delivered. `close` only marks this end: from
then on it refuses every operation, and the peer notices nothing.

No operation waits: one that would fails with `Socket.wouldWait`. -/
namespace NetShell

structure Socket where
  /-- bytes from the peer that were not read -/
  inbound : Bytes := []
  /-- bytes for the peer that it has not received -/
  outbound : Bytes := []
  /-- the peer may still send -/
  peerSends : Bool := true
  /-- the peer has not closed its end -/
  peerOpen : Bool := true
  /-- the peer closed its end with bytes unreceived, and no read has said so -/
  aborted : Bool := false
  /-- this end was shut down -/
  finished : Bool := false
  /-- this end is marked closed -/
  closed : Bool := false
  deriving DecidableEq, Repr

namespace Socket

/-- The fault of an operation that would have to wait. -/
def wouldWait : Fault := .system 11

/-- The fault of reading from a peer that threw bytes away. -/
def resetByPeer : Fault := .system 104

/-! ### This end -/

/-- Read at most `room` bytes: what has arrived, and after that what became of the
stream. No bytes stand for its end. -/
def read (room : Nat) (s : Socket) : Except Fault Bytes × Socket :=
  if s.closed then (.error .closed, s)
  else if !s.inbound.isEmpty then
    (.ok (s.inbound.take room), { s with inbound := s.inbound.drop room })
  else if s.aborted then (.error resetByPeer, { s with aborted := false })
  else if s.finished || !s.peerSends then (.ok [], s)
  else (.error wouldWait, s)

/-- Write bytes; says how many were taken. -/
def write (data : Bytes) (s : Socket) : Except Fault Nat × Socket :=
  if s.closed then (.error .closed, s)
  else if s.finished || !s.peerOpen then (.error .broken, s)
  else (.ok data.length, { s with outbound := s.outbound ++ data })

/-- Write all of some bytes; where there are none, nothing is asked of the socket. -/
def writeAll (data : Bytes) (s : Socket) : Option Fault × Socket :=
  if data.isEmpty then (none, s)
  else match s.write data with
    | (.ok _, s) => (none, s)
    | (.error fault, s) => (some fault, s)

/-- End both directions. -/
def shutdown (s : Socket) : Option Fault × Socket :=
  if s.closed then (some .closed, s) else (none, { s with finished := true })

/-- Mark this end closed; it can be done once. -/
def close (s : Socket) : Option Fault × Socket :=
  if s.closed then (some .closed, s) else (none, { s with closed := true })

/-! ### The peer -/

/-- The peer sends bytes; they are lost once nobody can read them. -/
def peerSend (data : Bytes) (s : Socket) : Socket :=
  if s.peerSends && !s.finished then { s with inbound := s.inbound ++ data } else s

/-- The peer sends no more. -/
def peerFinish (s : Socket) : Socket := { s with peerSends := false }

/-- The peer closes its end; the bytes that it has not received are thrown away. -/
def peerClose (s : Socket) : Socket :=
  { s with
    peerSends := false, peerOpen := false, aborted := s.aborted || !s.outbound.isEmpty,
    outbound := [] }

/-- The peer receives all that is there for it. No bytes stand for the end of the
stream. -/
def peerReceive (s : Socket) : Except Fault Bytes × Socket :=
  if !s.peerOpen then (.error .closed, s)
  else if !s.outbound.isEmpty then (.ok s.outbound, { s with outbound := [] })
  else if s.finished then (.ok [], s)
  else (.error wouldWait, s)

end Socket
end NetShell
