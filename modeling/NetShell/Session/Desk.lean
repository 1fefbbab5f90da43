import NetShell.Connection.Outlet
import NetShell.Connection.Handler
import NetShell.Server.Hub

/-! What a callback can reach: its connection's outlet, and the hub.

The desk carries out what a handler asks for. Only sending can be a misuse; the first
one ends the work. -/
namespace NetShell

structure Desk where
  /-- the connection's number in the hub -/
  id : Nat
  outlet : Outlet
  hub : Hub

/-- A desk after some work, and the misuse that stopped the work. -/
structure Desk.Worked where
  desk : Desk
  misuse : Option Misuse := none

namespace Desk
open Traced

def link (d : Desk) : Link := d.hub.link d.id

/-- The desk with the outlet and the connection's link changed. -/
def update (d : Desk) (outlet : Outlet) (l : Link) : Desk :=
  { d with outlet, hub := d.hub.setLink l }

/-- The worker moves on to another status. -/
def transition (d : Desk) (next : Status) : Desk := d.update d.outlet (d.link.transition next)

/-- Use the outlet. -/
def transmit (d : Desk) (use : Outlet → Link → Except Misuse (Traced (Outlet × Link))) :
    Traced Worked :=
  match use d.outlet d.link with
  | .error misuse => pure ⟨d, some misuse⟩
  | .ok sent => do
    let (outlet, l) ← sent
    pure ⟨d.update outlet l, none⟩

/-- Do one thing that a handler asks for. -/
def act (d : Desk) : Act → Traced Worked
  | .send data => d.transmit (Outlet.send data)
  | .reply data => d.transmit (Outlet.reply data)
  | .frame data => d.transmit (Outlet.sendFrame data)
  | .pong data => d.transmit (Outlet.sendPong data)
  | .report => d.transmit (Outlet.reply (Bytes.ofText d.hub.report))
  | .shutdown => do
    let hub ← d.hub.shutdown d.id
    pure ⟨{ d with hub }, none⟩
  | .stop => do
    let hub ← d.hub.stop
    pure ⟨{ d with hub }, none⟩

/-- Do what a handler asks for, in order, up to the first misuse. -/
def perform (d : Desk) : List Act → Traced Worked
  | [] => pure ⟨d, none⟩
  | a :: rest => do
    let w ← d.act a
    match w.misuse with
    | none => perform w.desk rest
    | some _ => pure w

end Desk
end NetShell
