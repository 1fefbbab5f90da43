import NetShell.Fault
import NetShell.Connection.Status
import NetShell.WebSocket.Frame
import NetShell.WebSocket.Upgrade

/-! Log notices.

A notice says what happened; its level, its message and its fields follow from that. -/
namespace NetShell
open WebSocket

/-- How loud a notice is. -/
inductive Level
  | error
  | warn
  | info
  | debug
  | trace
  deriving DecidableEq, Repr

namespace Level

def label : Level → String
  | error => "error"
  | warn => "warn"
  | info => "info"
  | debug => "debug"
  | trace => "trace"

/-- How much has to be let through for a notice of this level to be seen. -/
def rank : Level → Nat
  | error => 1
  | warn => 2
  | info => 3
  | debug => 4
  | trace => 5

end Level

/-- Why a worker's loop was cut short. -/
inductive Ending
  /-- the transport went away -/
  | teardown (fault : Fault)
  /-- the peer sent a close frame -/
  | peerClosed
  | violation (cause : Violation)
  /-- reads kept failing -/
  | exhausted (fault : Fault)
  /-- the handler asked to end the session; `log` says whether that is worth reporting -/
  | aborted (reason : String) (log : Bool)
  deriving DecidableEq, Repr

def Ending.text : Ending → String
  | teardown fault => "transport closed: " ++ fault.text
  | peerClosed => "peer sent websocket close"
  | violation cause => "protocol violation: " ++ cause.text
  | exhausted fault => "giving up after repeated read errors: " ++ fault.text
  | aborted reason _ => "aborted: " ++ reason

/-- What is reported. Where a number `conn` is given, it is the connection's key. -/
inductive Notice
  | started (conn : Nat) (mode : Mode)
  | readEnded (conn : Nat) (fault : Fault)
  | readFailed (conn : Nat) (fault : Fault)
  | frame (conn : Nat) (opcode : Opcode) (final : Bool) (length : Nat)
  | upgraded (conn : Nat) (path : String) (stage : Stage)
  /-- the loop is over: the stream ended, or for the reason given -/
  | ended (conn : Nat) (cause : Option Ending)
  | closeFailed (fault : Fault)
  | shutDown
  | destroyed (conn : Nat) (closedHere : Bool)
  | sendFailed (conn : Nat) (fault : Fault) (attempted : Bytes)
  | stopped (connections : Nat)
  | starting (console websocket : String) (maxConnections : Nat)
  | listening (address : String) (maxConnections : Nat) (mode : Mode)
  | accepting (console websocket : String)
  | full
  | late (conn : Nat)
  | accepted (conn : Nat) (mode : Mode) (active : Nat)
  deriving DecidableEq, Repr

/-- The value of a field. -/
inductive Field
  | text (value : String)
  | number (value : Nat)
  | flag (value : Bool)
  deriving DecidableEq, Repr

namespace Notice

/-- The part of the program that a notice comes from, as filters name it. -/
def target : Notice → String
  | starting .. | accepting .. => "shell_gate"
  | stopped _ | listening .. | full | late _ | accepted .. => "shell_gate::server"
  | sendFailed .. => "shell_gate::runtime::sender"
  | started .. | readEnded .. | readFailed .. | frame .. | upgraded .. | ended .. | closeFailed _
  | shutDown | destroyed .. => "shell_gate::runtime::connection"

def level : Notice → Level
  | started .. | readEnded .. | upgraded .. | shutDown | destroyed .. | late ..
  | accepted .. => .debug
  | readFailed .. | closeFailed _ => .error
  | frame .. => .trace
  | sendFailed .. | full => .warn
  | stopped _ | starting .. | listening .. | accepting .. => .info
  | ended _ cause =>
    match cause with
    | none | some (.teardown _) | some (.aborted _ false) => .debug
    | some .peerClosed | some (.aborted _ true) => .info
    | some (.violation _) => .warn
    | some (.exhausted _) => .error

def message : Notice → String
  | started .. => "Connection started"
  | readEnded .. => "Read ended"
  | readFailed .. => "Error reading data"
  | frame .. => "Frame received"
  | upgraded .. => "WebSocket upgrade complete"
  | ended _ cause =>
    match cause with
    | none | some (.teardown _) => "Connection closed"
    | some .peerClosed => "Received WebSocket close"
    | some (.violation _) => "Dropping connection"
    | some (.exhausted _) => "Giving up on connection"
    | some (.aborted ..) => "Connection aborted"
  | closeFailed _ => "Error closing socket"
  | shutDown => "Connection shut down by request"
  | destroyed .. => "Connection destroyed"
  | sendFailed .. => "Send failed"
  | stopped _ => "Server stopped"
  | starting .. => "Starting shell-gate server"
  | listening .. => "Server listening"
  | accepting .. => "Accepting connections"
  | full => "Connection limit reached"
  | late _ => "Server stopping, dropping new connection"
  | accepted .. => "New connection"

/-- The fields, in the order in which they are written. -/
def fields : Notice → List (String × Field)
  | started conn mode => [("conn", .number conn), ("mode", .text mode.label)]
  | readEnded conn fault => [("conn", .number conn), ("error", .text fault.text)]
  | readFailed conn fault => [("conn", .number conn), ("error", .text fault.text)]
  | frame conn opcode final length =>
    [("conn", .number conn), ("opcode", .text opcode.label), ("fin", .flag final),
      ("masked", .flag true), ("len", .number length)]
  | upgraded conn path stage =>
    [("conn", .number conn), ("path", .text path), ("state", .text stage.label)]
  | ended conn cause =>
    ("conn", .number conn) ::
      match cause with
      | none | some (.teardown _) | some .peerClosed => []
      | some (.violation cause) => [("violation", .text cause.text)]
      | some (.exhausted fault) => [("error", .text fault.text)]
      | some (.aborted reason _) => [("reason", .text reason)]
  | closeFailed fault => [("error", .text fault.text)]
  | shutDown => []
  | destroyed conn closedHere => [("conn", .number conn), ("closed_here", .flag closedHere)]
  | sendFailed conn fault attempted =>
    [("conn", .number conn), ("error", .text fault.text),
      ("attempted", .text (Text.lossy attempted))]
  | stopped connections => [("connections", .number connections)]
  | starting console websocket maxConnections =>
    [("console", .text console), ("websocket", .text websocket),
      ("max_connections", .number maxConnections)]
  | listening address maxConnections mode =>
    [("address", .text address), ("mode", .text mode.label),
      ("max_connections", .number maxConnections)]
  | accepting console websocket => [("console", .text console), ("websocket", .text websocket)]
  | full => []
  | late conn => [("conn", .number conn)]
  | accepted conn mode active =>
    [("conn", .number conn), ("mode", .text mode.label), ("active", .number active)]

end Notice
end NetShell
