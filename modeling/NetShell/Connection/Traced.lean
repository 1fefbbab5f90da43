import NetShell.Connection.Notice

/-! What happens, in order.

Every operation of a connection says what it did to the transport, what it handed to
the handler and what it reported: its *events*. `Traced α` is a value with the events
that led to it; one operation after another has the events of both. -/
namespace NetShell
open WebSocket

/-- One thing that happened. Where a number `link` is given, it is the connection's. -/
inductive Event
  /-- a read with room for `room` bytes, begun in a status -/
  | read (link : Nat) (status : Status) (room : Nat) (outcome : Except Fault Bytes)
  /-- a write that offered bytes, and how many were taken -/
  | write (link : Nat) (offered : Bytes) (outcome : Except Fault Nat)
  | shutdown (link : Nat) (status : Status) (failure : Option Fault)
  | close (link : Nat) (status : Status) (failure : Option Fault)
  /-- the handler was told of the connection -/
  | connected (link : Nat) (status : Status) (request : Option Request)
  /-- the handler was given a message -/
  | message (link : Nat) (status : Status) (data : Bytes)
  | log (notice : Notice)

/-- The bytes that the transports took, one write after another: what peers receive. -/
def Event.accepted (events : List Event) : Bytes :=
  events.flatMap fun
    | .write _ offered (.ok count) => offered.take count
    | _ => []

/-- A value and the events that led to it, oldest first. -/
structure Traced (α : Type) where
  value : α
  events : List Event

namespace Traced

instance : Monad Traced where
  pure value := ⟨value, []⟩
  bind x f := ⟨(f x.value).value, x.events ++ (f x.value).events⟩

variable {α β : Type}

@[simp] theorem value_pure (a : α) : (pure a : Traced α).value = a := rfl
@[simp] theorem events_pure (a : α) : (pure a : Traced α).events = [] := rfl
@[simp] theorem value_bind (x : Traced α) (f : α → Traced β) :
    (x >>= f).value = (f x.value).value :=
  rfl
@[simp] theorem events_bind (x : Traced α) (f : α → Traced β) :
    (x >>= f).events = x.events ++ (f x.value).events := rfl

/-- One event and nothing else. -/
def record (e : Event) : Traced Unit := ⟨(), [e]⟩

@[simp] theorem events_record (e : Event) : (record e).events = [e] := rfl

/-- A notice in the log. -/
def note (n : Notice) : Traced Unit := record (.log n)

@[simp] theorem events_note (n : Notice) : (note n).events = [.log n] := rfl

end Traced
end NetShell
