import NetShell.Connection.Traced

/-! The shared half of a connection.

Any part of the server may see a connection's link: when it started, which thread
works on it, what its status is, and the means to shut its transport down. Shutting
down and closing happen at most once, whoever gets there first: `hangUp` does both the
first time and nothing after it.

The transport's outcomes are given as scripts: what each of its calls will come to. -/
namespace NetShell

/-- The part of a transport that ends it. A call fails with the next fault of its
script and succeeds when there is none left. -/
structure Hook where
  shutdowns : List Fault := []
  closes : List Fault := []
  /-- `close` has been called, whether or not it failed -/
  closed : Bool := false

namespace Hook

def shutdown (h : Hook) : Option Fault × Hook :=
  (h.shutdowns.head?, { h with shutdowns := h.shutdowns.tail })

def close (h : Hook) : Option Fault × Hook :=
  (h.closes.head?, { h with closes := h.closes.tail, closed := true })

end Hook

/-- What every part of the server sees of a connection. -/
structure Link where
  id : Nat := 0
  /-- seconds since 1970 -/
  started : Int := 0
  /-- the thread that works on the connection, zero until one does -/
  thread : Nat := 0
  status : Status := .start
  /-- the transport has been shut down and closed, or is being so -/
  torn : Bool := false
  /-- the transport, until the connection is destroyed -/
  hook : Option Hook := some {}
  /-- someone holds the connection; the roster alone does not -/
  held : Bool := true

namespace Link
open Traced

/-- The worker moves on to another status. -/
def transition (l : Link) (next : Status) : Link := { l with status := l.status.moved next }

/-- A fault of ending the transport is reported unless it was to be expected. -/
def noteFailure : Option Fault → Traced Unit
  | none => pure ()
  | some fault => if fault.isTeardown then pure () else note (.closeFailed fault)

/-- Shut the transport down and close it, if that was not done before; says whether it
was done now. -/
def hangUp (l : Link) : Traced (Link × Bool) :=
  if l.torn then pure (l, false)
  else match l.hook with
    | none => pure ({ l with torn := true }, true)
    | some hook => do
      record (.shutdown l.id l.status hook.shutdown.1)
      noteFailure hook.shutdown.1
      let closing := hook.shutdown.2.close
      record (.close l.id l.status closing.1)
      noteFailure closing.1
      pure ({ l with torn := true, hook := some closing.2 }, true)

/-- Ask for the connection's end, from any part of the server. -/
def shutdown (l : Link) : Traced Link := do
  let done ← hangUp { l with status := l.status.claimed }
  if done.2 then note .shutDown
  pure done.1

/-- The worker's own end of the connection; says whether the transport was closed here
and not by an earlier request. -/
def destroy (l : Link) : Traced (Link × Bool) := do
  let done ← hangUp { l with status := .closed }
  pure ({ done.1 with hook := none }, done.2)

/-- Whether the transport still takes bytes. -/
def isOpen (l : Link) : Bool :=
  match l.hook with
  | none => false
  | some hook => !hook.closed

end Link
end NetShell
