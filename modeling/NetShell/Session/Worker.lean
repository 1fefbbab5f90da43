import NetShell.Session.Desk
import NetShell.Connection.Inlet
import NetShell.Telnet

/-! A connection at work.

A session is a worker at its desk. The worker owns the receive buffer and what is still
to arrive; it takes one step at a time: start, handle the first message in the buffer,
read once, and in the end take the connection down. A message is a line, or once the
connection is upgraded the payload of a text frame; nothing is read while a whole
message is in the buffer.

`Session.run` takes steps until the connection is gone. Each step either brings the
worker to its next phase, takes bytes out of the buffer, or takes something from what
is to arrive, so it ends. -/
namespace NetShell
open WebSocket

/-- Where a worker is. -/
inductive Phase
  /-- accepted, not started -/
  | fresh
  | serving
  /-- the loop is over: the stream ended, or for the reason given -/
  | finished (cause : Option Ending)
  /-- a misuse has broken the loop -/
  | broken (misuse : Misuse)
  /-- the connection is destroyed, after a misuse or not -/
  | gone (misuse : Option Misuse)
  deriving DecidableEq, Repr

/-- The part of a connection that only its worker sees. -/
structure Worker (σ : Type) where
  mode : Mode
  readSize : Nat
  /-- the handler's state -/
  state : σ
  arrivals : List Arrival
  upgrade : Upgrade := {}
  buffer : Bytes := []
  /-- a read has found the end of the stream -/
  drained : Bool := false
  /-- unexpected read faults since the last read that brought bytes -/
  faults : Nat := 0
  phase : Phase := .fresh

structure Session (σ : Type) where
  worker : Worker σ
  desk : Desk

/-- So many unexpected read faults in a row end a connection. -/
def maxFaults : Nat := 64

variable {σ : Type}

namespace Worker

/-- The room of a read. -/
def room (w : Worker σ) : Nat := max 1 w.readSize

/-- How many phases are before the worker. -/
def Phase.rank : Phase → Nat
  | .fresh => 3
  | .serving => 2
  | .finished _ | .broken _ => 1
  | .gone _ => 0

/-- A bound on the steps before the worker. -/
def work (w : Worker σ) : Nat :=
  2 * Inlet.weight w.arrivals + w.buffer.length + (if w.drained then 0 else 1) + Phase.rank w.phase

end Worker

namespace Session
open Traced

/-! ### Callbacks -/

/-- The session after a handler's reaction to a callback, and whether to go on. -/
def react (s : Session σ) (r : Reaction σ) : Traced (Flow × Session σ) := do
  let w ← s.desk.perform r.acts
  let worker := { s.worker with state := r.state }
  match w.misuse with
  | none => pure (r.flow, { worker, desk := w.desk })
  | some misuse =>
    pure (r.flow, { worker := { worker with phase := .broken misuse }, desk := w.desk })

/-- Tell the handler that the connection is ready. -/
def greet (h : Handler σ) (request : Option Request) (s : Session σ) :
    Traced (Flow × Session σ) := do
  record (.connected s.desk.id s.desk.link.status request)
  s.react (h.connected s.worker.state request)

/-- Give the handler a message. -/
def deliver (h : Handler σ) (data : Bytes) (s : Session σ) : Traced (Flow × Session σ) := do
  record (.message s.desk.id s.desk.link.status data)
  s.react (h.message s.worker.state data)

/-! ### The parts of a step -/

/-- End the loop, unless a misuse has broken it. -/
def conclude (s : Session σ) (cause : Option Ending) : Session σ :=
  match s.worker.phase with
  | .broken _ => s
  | _ => { s with worker := { s.worker with phase := .finished cause } }

/-- Go on with the loop, or end it, as a callback asks. -/
def follow (s : Session σ) : Flow → Session σ
  | .continue => s
  | .abort reason log => s.conclude (some (.aborted reason log))

/-- Use the outlet outside a callback. -/
def transmit (s : Session σ) (use : Outlet → Link → Except Misuse (Traced (Outlet × Link))) :
    Traced (Session σ) := do
  let w ← s.desk.transmit use
  match w.misuse with
  | none => pure { s with desk := w.desk }
  | some misuse => pure { worker := { s.worker with phase := .broken misuse }, desk := w.desk }

/-- Begin: a terminal is greeted at once, a WebSocket client after its request. -/
def start (h : Handler σ) (thread : Nat) (s : Session σ) : Traced (Session σ) := do
  let s := { s with desk := s.desk.update s.desk.outlet { s.desk.link with thread } }
  note (.started s.desk.outlet.conn s.worker.mode)
  let s := { s with worker := { s.worker with phase := .serving } }
  match s.worker.mode with
  | .webSocket => pure s
  | .line => do
    let (flow, s) ← s.greet h none
    pure (s.follow flow)

/-- Give the handler a line or the payload of a text frame. -/
def dispatch (h : Handler σ) (data : Bytes) (s : Session σ) : Traced (Session σ) := do
  let (flow, s) ← deliver h data { s with desk := s.desk.transition .running }
  pure (s.follow flow)

/-- The header is complete: ask the handler, then answer and change over to frames. -/
def changeOver (h : Handler σ) (s : Session σ) : Traced (Session σ) := do
  let request := s.worker.upgrade.request
  let (flow, s) ← s.greet h (some request)
  match flow, s.worker.phase with
  | .abort reason log, _ => pure (s.conclude (some (.aborted reason log)))
  | .continue, .broken _ => pure s
  | .continue, _ =>
    if request.upgrade then do
      let s ← s.transmit (Outlet.send (Bytes.ofText (switchingProtocols request.key)))
      match s.worker.phase with
      | .broken _ => pure s
      | _ => do
        note (.upgraded s.desk.outlet.conn request.path s.worker.upgrade.stage)
        pure { s with desk := { s.desk with outlet := { s.desk.outlet with framed := true } } }
    else pure (s.conclude (some (.violation .missingUpgrade)))

/-- A line of the request for an upgrade. -/
def request (h : Handler σ) (line : Bytes) (s : Session σ) : Traced (Session σ) :=
  let fed := s.worker.upgrade.feed line
  let s := { s with worker := { s.worker with upgrade := fed.2 } }
  match fed.1 with
  | .continue => pure s
  | .headersDone => s.changeOver h
  | .reject cause => do
    let s ← s.transmit (Outlet.send notImplemented)
    pure (s.conclude (some (.violation cause)))

/-- A line, when the buffer has been left with what follows it. -/
def line (h : Handler σ) (data rest : Bytes) (s : Session σ) : Traced (Session σ) :=
  let s := { s with worker := { s.worker with buffer := rest } }
  match s.worker.mode with
  | .line => s.dispatch h data
  | .webSocket => s.request h data

/-- A frame, when the buffer has been left with what follows it. -/
def frame (h : Handler σ) (f : Frame) (rest : Bytes) (s : Session σ) : Traced (Session σ) := do
  let s := { s with worker := { s.worker with buffer := rest } }
  note (.frame s.desk.outlet.conn f.opcode f.final f.payload.length)
  match f.opcode with
  | .ping => s.transmit (Outlet.sendPong f.payload)
  | .pong => pure s
  | _ => s.dispatch h f.payload

/-- One read. An interrupted read changes nothing. A fault of the teardown class, and any
fault once a shutdown was asked for, ends the stream; of the rest so many in a row are
borne. -/
def fill (s : Session σ) : Traced (Session σ) := do
  let desk := s.desk.transition .waiting
  let r ← Inlet.read s.worker.room s.worker.arrivals desk.link
  let desk := desk.update desk.outlet r.link
  let worker := { s.worker with arrivals := r.left }
  match r.outcome with
  | .ok data =>
    if data.isEmpty then pure { worker := { worker with drained := true }, desk }
    else pure { worker := { worker with buffer := worker.buffer ++ data, faults := 0 }, desk }
  | .error fault =>
    if fault.isInterrupted then pure { worker, desk }
    else if fault.isTeardown || desk.link.status.isClosing then
      if desk.outlet.framed then
        pure
          { worker := { worker with drained := true, phase := .finished (some (.teardown fault)) }
            desk }
      else do
        note (.readEnded desk.outlet.conn fault)
        pure { worker := { worker with drained := true }, desk }
    else do
      note (.readFailed desk.outlet.conn fault)
      let faults := worker.faults + 1
      if maxFaults ≤ faults then
        pure
          { worker := { worker with faults, phase := .finished (some (.exhausted fault)) }, desk }
      else pure { worker := { worker with faults }, desk }

/-- A misuse of the receive buffer. -/
def overrun (index : Nat) (s : Session σ) : Session σ :=
  { s with worker := { s.worker with phase := .broken (.pastBuffer index s.worker.buffer.length) } }

/-- The first frame of the buffer, or a read. -/
def serveFrames (h : Handler σ) (s : Session σ) : Traced (Session σ) :=
  match Frame.parse s.worker.buffer with
  | .complete f size =>
    if size ≤ s.worker.buffer.length then s.frame h f (s.worker.buffer.drop size)
    else pure (s.overrun size)
  | .incomplete => if s.worker.drained then pure (s.conclude none) else s.fill
  | .close => pure (s.conclude (some .peerClosed))
  | .violation cause => pure (s.conclude (some (.violation cause)))

/-- The first line of the buffer, what an ended stream leaves in it, or a read. -/
def serveLines (h : Handler σ) (s : Session σ) : Traced (Session σ) :=
  match Telnet.boundary s.worker.buffer with
  | some index =>
    match Telnet.cut s.worker.buffer index with
    | some (data, rest) => s.line h data rest
    | none => pure (s.overrun index)
  | none =>
    if s.worker.drained then
      match Telnet.remainder s.worker.buffer with
      | some data => s.line h data []
      | none => pure (s.conclude none)
    else s.fill

/-- Take the connection down and leave the roster. -/
def takeDown (misuse : Option Misuse) (s : Session σ) : Traced (Session σ) := do
  let outlet := s.desk.outlet.release.2
  let (l, closedHere) ← s.desk.link.destroy
  let hub := (s.desk.hub.setLink l).deregister outlet.conn
  note (.destroyed outlet.conn closedHere)
  pure { worker := { s.worker with phase := .gone misuse }, desk := { s.desk with outlet, hub } }

/-! ### Steps -/

/-- One step, on a thread. -/
def step (h : Handler σ) (thread : Nat) (s : Session σ) : Traced (Session σ) :=
  match s.worker.phase with
  | .fresh => s.start h thread
  | .serving => if s.desk.outlet.framed then s.serveFrames h else s.serveLines h
  | .finished cause => do
    note (.ended s.desk.outlet.conn cause)
    s.takeDown none
  | .broken misuse => s.takeDown (some misuse)
  | .gone _ => pure s

/-- Drop a connection without running it. -/
def discard (s : Session σ) : Traced (Session σ) := s.takeDown none

/-- The worker is through. -/
def isGone (s : Session σ) : Bool :=
  match s.worker.phase with
  | .gone _ => true
  | _ => false

end Session
end NetShell
