import NetShell.Connection.Link

/-! The sending half of a connection.

Sending is fire and forget: a fault that only means that the peer has gone is dropped,
any other is reported and dropped. A message is written in *parts*: a raw message is
one part, a frame is its header and its data. Each write offers what has not been taken
of the current part, and a part that fails ends the message.

Only the worker sends, so its outlet alone holds the script of acceptances. Where the
script says so, a request to shut down comes in while the write is waiting. After the
last acceptance every write is taken whole. -/
namespace NetShell
open WebSocket

/-- What a write comes to. -/
inductive Acceptance
  /-- at most so many bytes are taken -/
  | upTo (count : Nat)
  | fault (fault : Fault)
  /-- the connection is asked to shut down, and the write goes on -/
  | shutdown

/-- What no caller may do. -/
inductive Misuse
  /-- sending after the outlet was released -/
  | released (conn : Nat)
  /-- reaching past the end of the receive buffer -/
  | pastBuffer (index size : Nat)
  deriving DecidableEq, Repr

def Misuse.text : Misuse → String
  | released conn =>
    "connection " ++ Text.decimal conn ++ ": use of transport after it was released"
  | pastBuffer index size =>
    "index out of bounds: the len is " ++ Text.decimal size ++ " but the index is " ++
      Text.decimal index

/-- The write handle of a connection. -/
structure Outlet where
  /-- the connection's key, for the log -/
  conn : Nat
  /-- replies are sent as frames -/
  framed : Bool := false
  /-- the transport has been given back -/
  released : Bool := false
  script : List Acceptance := []

namespace Outlet
open Traced

/-! ### Writing one part -/

/-- Where a part's writes have come to. -/
structure Drained where
  left : List Acceptance
  link : Link
  failure : Option Fault

/-- Offer a part until all of it is taken or a write fails. An interrupted write is made
again; one that takes nothing is a fault of its own. -/
def drain : List Acceptance → Bytes → Link → Traced Drained
  | script, [], l => pure ⟨script, l, none⟩
  | [], data, l =>
    if l.isOpen then do
      record (.write l.id data (.ok data.length))
      pure ⟨[], l, none⟩
    else do
      record (.write l.id data (.error .closed))
      pure ⟨[], l, some .closed⟩
  | a :: rest, data, l =>
    if l.isOpen then
      match a with
      | .shutdown => do
        let l ← l.shutdown
        drain rest data l
      | .fault fault => do
        record (.write l.id data (.error fault))
        if fault.isInterrupted then drain rest data l else pure ⟨rest, l, some fault⟩
      | .upTo count => do
        let taken := min count data.length
        record (.write l.id data (.ok taken))
        if taken = 0 then pure ⟨rest, l, some (.plain .writeZero)⟩
        else drain rest (data.drop taken) l
    else do
      record (.write l.id data (.error .closed))
      pure ⟨a :: rest, l, some .closed⟩

/-- The parts of a message one after another, up to the first that fails. -/
def drainAll : List Bytes → List Acceptance → Link → Traced Drained
  | [], script, l => pure ⟨script, l, none⟩
  | part :: parts, script, l => do
    let d ← drain script part l
    match d.failure with
    | none => drainAll parts d.left d.link
    | some _ => pure d

/-! ### Messages -/

/-- A failed message is reported with its data unless the fault was to be expected. -/
def noteFailure (conn : Nat) (data : Bytes) : Option Fault → Traced Unit
  | none => pure ()
  | some fault => if fault.isTeardown then pure () else note (.sendFailed conn fault data)

/-- Send a message in parts. -/
def transmit (parts : List Bytes) (data : Bytes) (o : Outlet) (l : Link) :
    Except Misuse (Traced (Outlet × Link)) :=
  if o.released then .error (.released o.conn)
  else .ok do
    let d ← drainAll parts o.script l
    noteFailure o.conn data d.failure
    pure ({ o with script := d.left }, d.link)

/-- The bytes as they are. -/
def send (data : Bytes) : Outlet → Link → Except Misuse (Traced (Outlet × Link)) :=
  transmit [data] data

/-- One final frame with an opcode. -/
def sendAs (opcode : Opcode) (data : Bytes) :
    Outlet → Link → Except Misuse (Traced (Outlet × Link)) :=
  transmit [Frame.header (UInt8.ofNat opcode.code) data.length, data] data

/-- One text frame. -/
def sendFrame (data : Bytes) : Outlet → Link → Except Misuse (Traced (Outlet × Link)) :=
  sendAs .text data

/-- The answer to a ping. -/
def sendPong (data : Bytes) : Outlet → Link → Except Misuse (Traced (Outlet × Link)) :=
  sendAs .pong data

/-- A text frame after an upgrade, the bytes as they are before it. -/
def reply (data : Bytes) (o : Outlet) : Link → Except Misuse (Traced (Outlet × Link)) :=
  if o.framed then sendFrame data o else send data o

/-- Give the transport back; says whether it was still there. Sending is a misuse from
now on. -/
def release (o : Outlet) : Bool × Outlet := (!o.released, { o with released := true })

end Outlet
end NetShell
