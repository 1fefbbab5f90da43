import NetShell.Connection.Link
import NetShell.Server.Slab
import NetShell.Server.Calendar

/-! What the connections of a server share.

The hub knows every connection there has been (`links`) and, in its `roster`, which of
them are its members: a connection joins when it is accepted, if there is room, and
leaves when it is destroyed. The roster does not keep a connection alive: a member that
nobody holds is passed over. Through the roster the hub renders the connection report
and stops the server. -/
namespace NetShell

structure Hub where
  /-- how many members there may be -/
  capacity : Nat
  /-- every connection, at the place of its number -/
  links : List Link := []
  /-- the members, by key -/
  roster : Slab Nat := {}
  /-- the server has been stopped -/
  stopping : Bool := false

namespace Hub
open Traced

/-! ### Links -/

/-- A connection's link. -/
def link (hub : Hub) (id : Nat) : Link := hub.links.getD id {}

/-- Put a link back in its place. -/
def setLink (hub : Hub) (l : Link) : Hub := { hub with links := hub.links.set l.id l }

/-- A new connection, not yet a member. -/
def enter (hub : Hub) (l : Link) : Nat × Hub :=
  let id := hub.links.length
  (id, { hub with links := hub.links ++ [{ l with id }] })

/-- Ask for a connection's end. -/
def shutdown (hub : Hub) (id : Nat) : Traced Hub := do
  let l ← (hub.link id).shutdown
  pure (hub.setLink l)

/-! ### Members -/

/-- The number of members, those that nobody holds included. -/
def size (hub : Hub) : Nat := hub.roster.size

/-- Make a connection a member, if there is room; says its key. -/
def register? (hub : Hub) (id : Nat) : Option (Nat × Hub) :=
  if hub.capacity ≤ hub.size then none
  else
    let (key, roster) := hub.roster.insert id
    some (key, { hub with roster })

/-- Free a key. -/
def deregister (hub : Hub) (key : Nat) : Hub := { hub with roster := hub.roster.erase key }

/-- A new connection as a member, if there is room; says its number and its key. -/
def accept? (hub : Hub) (l : Link) : Option (Nat × Nat × Hub) :=
  let (id, entered) := hub.enter l
  (entered.register? id).map fun (key, hub) => (id, key, hub)

/-- The members that someone holds, in the order of their keys. -/
def live (hub : Hub) : List Nat := hub.roster.toList.filter fun id => (hub.link id).held

/-- Ask for the end of each of some connections. -/
def shutdownAll (hub : Hub) : List Nat → Traced Hub
  | [] => pure hub
  | id :: rest => do
    let hub ← hub.shutdown id
    shutdownAll hub rest

/-- Ask for every live member's end; says how many were asked. -/
def closeAll (hub : Hub) : Traced (Nat × Hub) := do
  let live := hub.live
  let hub ← hub.shutdownAll live
  pure (live.length, hub)

/-- Stop the server: every live member is asked to end. A second stop does nothing. -/
def stop (hub : Hub) : Traced Hub :=
  if hub.stopping then pure hub
  else do
    let (count, hub) ← { hub with stopping := true }.closeAll
    note (.stopped count)
    pure hub

/-! ### The connection report -/

/-- The first row of the report. -/
def reportHeader : String := "DATE             THREAD STATE"

/-- A connection's row: when it started, its thread and its status. -/
def reportRow (l : Link) : String :=
  Calendar.stamp l.started ++ " " ++ Text.rightAligned 8 (Text.decimal l.thread) ++ " " ++
    l.status.label

/-- The report: the header and a row for each live member, each ended by a newline. -/
def report (hub : Hub) : String :=
  String.join ((reportHeader :: hub.live.map fun id => reportRow (hub.link id)).map (· ++ "\n"))

end Hub
end NetShell
