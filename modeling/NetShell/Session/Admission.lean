import NetShell.Session.Run

/-! How a new connection comes to its worker.

A connection is accepted if the hub has room for it. An acceptor looks at the stopping
flag only then: a connection that came in while the server was being stopped is dropped
without being run, so that nothing is left that the stop did not reach. -/
namespace NetShell

/-- What a connection's transport will do, as scripts. -/
structure Transport where
  arrivals : List Arrival := []
  acceptances : List Acceptance := []
  hook : Hook := {}

variable {σ : Type}

namespace Session
open Traced

/-- Accept a connection, if the hub has room. Its transport is not touched. -/
def accept? (mode : Mode) (readSize : Nat) (state : σ) (t : Transport) (l : Link) (hub : Hub) :
    Option (Session σ) :=
  (hub.accept? { l with hook := some t.hook }).map fun (id, key, hub) =>
    { worker := { mode, readSize, state, arrivals := t.arrivals }
      desk := { id, hub, outlet := { conn := key, script := t.acceptances } } }

/-- The session as it finds the hub when its turn comes. -/
def seat (hub : Hub) (s : Session σ) : Session σ := { s with desk := { s.desk with hub } }

/-- What an acceptor makes of a connection: a session for a worker, or nothing if there
is no room or the server is stopping. -/
def welcome (mode : Mode) (readSize : Nat) (state : σ) (t : Transport) (l : Link) (hub : Hub) :
    Traced (Option (Session σ) × Hub) :=
  match accept? mode readSize state t l hub with
  | none => do
    note .full
    pure (none, hub)
  | some s =>
    if hub.stopping then do
      note (.late s.desk.outlet.conn)
      let s ← s.discard
      pure (none, s.desk.hub)
    else do
      note (.accepted s.desk.outlet.conn mode s.desk.hub.size)
      pure (some s, s.desk.hub)

end Session
end NetShell
