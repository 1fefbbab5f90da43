import NetShell.Program
import NetShell.Session.Admission
import NetShell.Session.Live
import NetShell.Shell
import Std.Internal.UV.TCP
import Std.Sync.Mutex
import Std.Time.DateTime.Timestamp

/-! The program: the command line, and a server on real sockets.

What is to be done is decided by the library. Here bytes are taken from sockets and put
into them, files and the environment are read, and notices are printed. There is a
thread for each listener and for each connection; the hub is shared under a lock, and a
worker holds it only while its session takes the steps that its input allows. -/
namespace NetShell
open Std.Internal.UV

/-- What the threads share. -/
structure Service.Shared where
  hub : Hub
  /-- the sockets of connections at work, by the connection's number -/
  sockets : List (Nat × TCP.Socket) := []

/-- A server at work. -/
structure Service where
  settings : Settings
  filter : Log.Filter
  shared : Std.Mutex Service.Shared
  listeners : List (TCP.Socket × Mode)

namespace Service

/-! ### Faults and times -/

/-- The number of the system call's failure, if it is known; it may be kept negated. -/
def number? : IO.Error → Option Nat
  | .alreadyExists _ n _ | .otherError n _ | .resourceBusy n _ | .resourceVanished n _
  | .unsupportedOperation n _ | .hardwareFault n _ | .unsatisfiedConstraints n
    _ | .illegalOperation n _
  | .protocolError n _ | .timeExpired n _ | .interrupted _ n _ | .noFileOrDirectory _ n _
  | .invalidArgument _ n _ | .permissionDenied _ n _ | .resourceExhausted _ n
    _ | .inappropriateType _ n _
  | .noSuchThing _ n _ => some (if n.toNat < 0x80000000 then n.toNat else 0x100000000 - n.toNat)
  | .unexpectedEof | .userError _ => none

def faultOf (e : IO.Error) : Fault :=
  match number? e with
  | some n => .system n
  | none => .described .other (toString e)

/-- Seconds since 1970. -/
def now : IO Int := do
  let t ← Std.Time.Timestamp.now
  pure t.toSecondsSinceUnixEpoch.val

/-! ### Events -/

/-- Print the notices that a filter lets through, at once. -/
def report (filter : Log.Filter) (notices : List Notice) : IO Unit := do
  (Log.lines filter notices).forM IO.println
  (← IO.getStdout).flush

def socket? (s : Service) (id : Nat) : IO (Option TCP.Socket) :=
  s.shared.atomically do
    let shared ← get
    pure (shared.sockets.lookup id)

/-- Write bytes and wait until they are on their way. A peer that is gone is met again
at the next read. -/
def write (socket : TCP.Socket) (data : Bytes) : IO Unit := do
  let sent ← socket.send #[⟨data.toArray⟩]
  discard (IO.wait sent.result?)

/-- End both directions: what reads from the socket is woken. -/
def hangUp (socket : TCP.Socket) : IO Unit := do
  socket.cancelRecv
  discard socket.shutdown

/-- Do what a session says has been done. -/
def carryOut (s : Service) : Event → IO Unit
  | .write id data (.ok _) => do
    if let some socket ← s.socket? id then write socket data
  | .shutdown id _ _ => do
    if let some socket ← s.socket? id then try hangUp socket catch _ => pure ()
  | .log notice => do
    report s.filter [notice]
    match notice with
    | .stopped _ => s.listeners.forM fun (listener, _) => listener.cancelAccept
    | _ => pure ()
  | _ => pure ()

/-! ### Connections -/

/-- What arrives next for a session. Nothing is waited for once the connection is torn
down. -/
def receive (s : Service) (socket : TCP.Socket) (session : Session Unit) : IO Arrival := do
  let reading ← s.shared.atomically do
    let shared ← get
    if (shared.hub.link session.desk.id).torn then pure none
    else some <$> socket.recv? session.worker.room.toUInt64
  match reading with
  | none => pure (.fault .closed)
  | some reading =>
    match ← IO.wait reading.result? with
    | none | some (.ok none) => pure .finish
    | some (.ok (some data)) => pure (.data data.toList)
    | some (.error e) => pure (.fault (faultOf e))

/-- A worker's life. -/
partial def work (s : Service) (socket : TCP.Socket) (session : Session Unit) : IO Unit := do
  let thread := (← IO.getTID).toNat
  let shell : Shell := { prompt := s.settings.prompt, mode := session.worker.mode }
  let (session, events) ← s.shared.atomically do
    let shared ← get
    let r := (session.seat shared.hub).advance shell.handler thread
    set { shared with hub := r.value.desk.hub }
    pure (r.value, r.events)
  events.forM s.carryOut
  if session.isGone then
    s.shared.atomically do
      modify fun shared => { shared with sockets := shared.sockets.filter (·.1 != session.desk.id) }
  else
    let arrival ← s.receive socket session
    s.work socket (session.offer arrival)

/-- A new connection gets a worker, if there is room and the server goes on. -/
def welcome (s : Service) (mode : Mode) (socket : TCP.Socket) : IO Unit := do
  let started ← now
  let (session, events) ← s.shared.atomically do
    let shared ← get
    let r := Session.welcome mode s.settings.readBuffer () {} { started } shared.hub
    let (session, hub) := r.value
    let sockets := match session with
      | some session => (session.desk.id, socket) :: shared.sockets
      | none => shared.sockets
    set ({ hub, sockets } : Shared)
    pure (session, r.events)
  events.forM s.carryOut
  if let some session := session then
    discard (IO.asTask (s.work socket session) .dedicated)

/-- A listener's life: it ends when the server is stopped. -/
partial def accept (s : Service) (listener : TCP.Socket) (mode : Mode) : IO Unit := do
  let coming ← listener.accept
  let result ← IO.wait coming.result?
  let stopping ← s.shared.atomically do
    let shared ← get
    pure shared.hub.stopping
  if stopping then pure ()
  else
    match result with
    | none => pure ()
    | some (.error _) => s.accept listener mode
    | some (.ok socket) => do
      s.welcome mode socket
      s.accept listener mode

/-! ### Listeners -/

/-- Set a listener up; says where it listens. -/
def listen (l : Listener) : IO (TCP.Socket × Listener) := do
  let octet := fun (i : Nat) => l.address.host.getD i 0
  let host := Std.Net.IPv4Addr.ofParts (octet 0) (octet 1) (octet 2) (octet 3)
  let socket ← TCP.Socket.new
  socket.bind (.v4 ⟨host, l.address.port.toUInt16⟩)
  socket.listen 1024
  match ← socket.getSockName with
  | .v4 address => pure (socket, l.bound address.port.toNat)
  | .v6 _ => pure (socket, l)

/-- Run a server until it is stopped; says whether it could be started. Which addresses
are this host's is left to the system. -/
def serve (settings : Settings) (filter : Log.Filter) : IO Bool := do
  report filter [Program.opening settings]
  try
    let bound ← match Listener.requested (fun _ => true) settings.console settings.websocket with
      | .ok requested => requested.mapM listen
      | .error fault => throw (IO.userError fault.text)
    report filter (Program.opened settings (bound.map (·.2)))
    let shared ← Std.Mutex.new ({ hub := { capacity := settings.maxConnections } } : Shared)
    let s : Service :=
      { settings, filter, shared, listeners := bound.map fun (socket, l) => (socket, l.mode) }
    let acceptors ← s.listeners.mapM fun (listener, mode) => IO.asTask (s.accept listener mode) .dedicated
    acceptors.forM fun acceptor => discard (IO.wait acceptor)
    pure true
  catch e =>
    IO.eprintln ("Error: " ++ (faultOf e).text)
    pure false

/-- The bytes of the configuration file that a command line names. -/
def configFile (arguments : List String) : IO (Except Fault Bytes) := do
  match CommandLine.parse arguments with
  | .ok { config := some path, .. } =>
    try
      let data ← IO.FS.readBinFile path
      pure (.ok data.toList)
    catch e => pure (.error (faultOf e))
  | _ => pure (.ok [])

end Service
end NetShell

/-- The program: it exits as its plan says. -/
def main (arguments : List String) : IO UInt32 := do
  let contents ← NetShell.Service.configFile arguments
  let plan := NetShell.Program.plan arguments fun _ => contents
  let code ← match plan with
    | .print text => do
      IO.print text
      pure (NetShell.Program.exitCode false plan)
    | .complain stop => do
      IO.eprintln ("error: " ++ stop.text)
      pure (NetShell.Program.exitCode false plan)
    | .fail error => do
      IO.eprintln ("Error: " ++ error.text)
      pure (NetShell.Program.exitCode false plan)
    | .serve settings => do
      match NetShell.Log.Filter.choose (← IO.getEnv "RUST_LOG") settings.logLevel with
      | .ok filter => do
        let bound ← NetShell.Service.serve settings filter
        pure (NetShell.Program.exitCode bound plan)
      | .error _ => do
        IO.eprintln "a directive of the log's filter cuts a character in two"
        pure NetShell.Program.tornFilterCode
  pure code.toUInt32
