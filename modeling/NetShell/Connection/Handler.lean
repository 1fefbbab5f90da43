import NetShell.Connection.Status
import NetShell.WebSocket.Upgrade

/-! What stands between a connection and the meaning of its input.

A handler keeps a state of its own. It is called once when the connection is ready and
once for each message, and answers with what is to be done and whether to go on. -/
namespace NetShell
open WebSocket

/-- What a handler can have done. -/
inductive Act
  /-- write the bytes as they are -/
  | send (data : Bytes)
  /-- write a text frame after an upgrade, the bytes as they are before it -/
  | reply (data : Bytes)
  /-- write a text frame -/
  | frame (data : Bytes)
  /-- write a pong frame -/
  | pong (data : Bytes)
  /-- reply with the connection report -/
  | report
  /-- ask for the end of this connection -/
  | shutdown
  /-- stop the server -/
  | stop
  deriving DecidableEq, Repr

/-- Whether a connection goes on after a callback. -/
inductive Flow
  | continue
  /-- end the connection; `log` says whether that is worth reporting -/
  | abort (reason : String) (log : Bool)
  deriving DecidableEq, Repr

/-- End the connection without a report. -/
def Flow.quiet (reason : String) : Flow := .abort reason false

/-- What a callback comes to. -/
structure Reaction (σ : Type) where
  state : σ
  acts : List Act := []
  flow : Flow := .continue

/-- The consumer of a connection's messages. -/
structure Handler (σ : Type) where
  /-- the connection is ready, with the client's request if there was one -/
  connected : σ → Option Request → Reaction σ
  /-- a line, or the payload of a text frame -/
  message : σ → Bytes → Reaction σ

end NetShell
