import NetShell.Connection.Notice
import NetShell.Server.Address
import NetShell.Settings.Resolve

/-! The listeners of a server: one for terminals, and one for WebSocket clients if it is
wanted. All of them are set up before the first is announced. -/
namespace NetShell

structure Listener where
  address : Address
  mode : Mode
  deriving DecidableEq, Repr

namespace Listener

/-- The fault of an address that another listener has. -/
def inUse : Fault := .system 98

/-- The fault of an address that is not this host's. -/
def foreign : Fault := .system 99

/-- The address that a text spells, if it is this host's; `own` says which are. -/
def locate (own : Address → Bool) (text : String) : Except Fault Address := do
  let a ← Address.parse text
  if own a then pure a else throw foreign

/-- The listeners that settings ask for, the terminals' first. -/
def requested (own : Address → Bool) (console : String) (websocket : Option String) :
    Except Fault (List Listener) := do
  let first ← locate own console
  match websocket with
  | none => pure [⟨first, .line⟩]
  | some text =>
    let second ← locate own text
    if first.clashes second then throw inUse
    pure [⟨first, .line⟩, ⟨second, .webSocket⟩]

/-- A listener with the port that the system has chosen for it. -/
def bound (l : Listener) (chosen : Nat) : Listener := { l with address := l.address.bound chosen }

/-- The address of the listener for a mode. -/
def addressFor? (mode : Mode) (listeners : List Listener) : Option Address :=
  (listeners.find? (·.mode == mode)).map (·.address)

/-- What is reported of a listener. -/
def announcement (capacity : Nat) (l : Listener) : Notice :=
  .listening l.address.text capacity l.mode

/-- What is reported of listeners that have been set up. -/
def announcements (capacity : Nat) (listeners : List Listener) : List Notice :=
  listeners.map (announcement capacity)

end Listener
end NetShell
