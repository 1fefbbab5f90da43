/-! The status of a connection, and how its byte stream is read.

```text
start -> waiting <-> running -> closed
   \________\__________\_____-> closing -> closed
```

The worker moves between `start`, `waiting` and `running`; a request to shut down
claims the status as `closing`, and from there only `closed` follows. -/
namespace NetShell

/-- What a connection is doing. -/
inductive Status
  /-- accepted, not reading yet -/
  | start
  /-- waiting for bytes from the peer -/
  | waiting
  /-- a message is with the handler -/
  | running
  /-- asked to shut down -/
  | closing
  /-- destroyed -/
  | closed
  deriving DecidableEq, Repr

namespace Status

/-- The status with a number; all numbers past the last are `closed`. -/
def ofNumber : Nat → Status
  | 0 => start
  | 1 => waiting
  | 2 => running
  | 3 => closing
  | _ => closed

/-- The label shown in the connection report, five characters wide. -/
def label : Status → String
  | start => "start"
  | waiting => "iwait"
  | running => " run "
  | closing => "clsng"
  | closed => "close"

/-- A shutdown has claimed the status, or the connection is gone. -/
def isClosing : Status → Bool
  | closing | closed => true
  | _ => false

/-- What a request to shut down makes of the status. -/
def claimed : Status → Status
  | closed => closed
  | _ => closing

/-- What the worker's move to another status makes of it: nothing once a shutdown has
claimed it. -/
def moved (now next : Status) : Status := if now.isClosing then now else next

end Status

/-- How the bytes of a connection are read. -/
inductive Mode
  /-- as lines from a terminal -/
  | line
  /-- as an HTTP request and then as WebSocket frames -/
  | webSocket
  deriving DecidableEq, Repr

def Mode.label : Mode → String
  | line => "Line"
  | webSocket => "WebSocket"

end NetShell
