import NetShell.Server.Hub

/-! The server's threads, their moves taken in any order.

An acceptor registers a connection and then looks at the stopping flag: it starts a
worker or drops the connection. A worker moves its connection's status on, and destroys
the connection when it is through; only then is its key freed. A stop raises the flag,
collects the members if there are any, and asks one after another to shut down; a second
stop finds the flag raised. A worker whose handler stops the server is one of those who
make these moves. `Hub.stop` is a stop that nothing comes between (`play_stop`). -/
namespace NetShell

/-- How far a connection has come. -/
inductive Place
  /-- registered by an acceptor that has not looked at the flag yet -/
  | arriving
  /-- with a worker -/
  | working
  /-- destroyed, its key not yet freed; `closedHere` says whether that closed the transport -/
  | leaving (closedHere : Bool)
  | left
  deriving DecidableEq, Repr

/-- A connection that was registered. -/
structure Party where
  key : Nat
  mode : Mode
  place : Place := .arriving

/-- What the first stop still has to do. -/
inductive Sweep
  /-- the flag is raised -/
  | raised
  /-- there are members to be collected -/
  | collecting
  /-- of `count` members these are still to be asked -/
  | asking (count : Nat) (left : List Nat)
  | finished
  deriving DecidableEq, Repr

/-- The hub, and how far each thread of the server has come. -/
structure Server where
  hub : Hub
  /-- every connection that was registered, at the place of its number -/
  parties : List Party := []
  sweep : Option Sweep := none

/-- One thing that one thread does. -/
inductive Move
  /-- an acceptor registers a connection -/
  | register (mode : Mode) (hook : Hook) (started : Int)
  /-- an acceptor looks at the flag for a connection that it has registered -/
  | look (id : Nat)
  /-- a worker moves its connection's status on -/
  | turn (id : Nat) (next : Status)
  /-- a worker is through with its connection and destroys it -/
  | finish (id : Nat)
  /-- the key of a destroyed connection is freed -/
  | free (id : Nat)
  /-- a connection is asked to shut down -/
  | shutdown (id : Nat)
  /-- someone stops the server -/
  | stop
  /-- the first stop does the next thing -/
  | sweep

namespace Server
open Traced

/-- A connection has come somewhere else. -/
def put (s : Server) (id : Nat) (p : Party) : Server := { s with parties := s.parties.set id p }

/-- What is done with a connection, if there is one of that number. -/
def attend (s : Server) (id : Nat) (use : Party → Traced Server) : Traced Server :=
  match s.parties[id]? with
  | none => pure s
  | some p => use p

/-- Destroy a connection. It keeps its key for now. -/
def destroy (s : Server) (id : Nat) (p : Party) : Traced Server := do
  let (l, closedHere) ← (s.hub.link id).destroy
  pure ({ s with hub := s.hub.setLink l }.put id { p with place := .leaving closedHere })

/-- What an acceptor does with a connection that it has registered. -/
def welcome (s : Server) (id : Nat) (p : Party) : Traced Server :=
  if s.hub.stopping then do
    note (.late p.key)
    s.destroy id p
  else do
    note (.accepted p.key p.mode s.hub.size)
    pure (s.put id { p with place := .working })

/-- The next thing that the first stop does. -/
def sweepOn (s : Server) : Traced Server :=
  match s.sweep with
  | none | some .finished => pure s
  | some .raised =>
    if s.hub.size = 0 then do
      note (.stopped 0)
      pure { s with sweep := some .finished }
    else pure { s with sweep := some .collecting }
  | some .collecting => pure { s with sweep := some (.asking s.hub.live.length s.hub.live) }
  | some (.asking count []) => do
    note (.stopped count)
    pure { s with sweep := some .finished }
  | some (.asking count (id :: left)) => do
    let hub ← s.hub.shutdown id
    pure { s with hub, sweep := some (.asking count left) }

/-- A move. One that no thread can make changes nothing. -/
def move (s : Server) : Move → Traced Server
  | .register mode hook started =>
    match s.hub.accept? { started, hook := some hook } with
    | none => do
      note .full
      pure s
    | some (_, key, hub) => pure { s with hub, parties := s.parties ++ [{ key, mode }] }
  | .look id => s.attend id fun p =>
    match p.place with
    | .arriving => s.welcome id p
    | _ => pure s
  | .turn id next => s.attend id fun p =>
    match p.place, next.isClosing with
    | .working, false => pure { s with hub := s.hub.setLink ((s.hub.link id).transition next) }
    | _, _ => pure s
  | .finish id => s.attend id fun p =>
    match p.place with
    | .working => s.destroy id p
    | _ => pure s
  | .free id => s.attend id fun p =>
    match p.place with
    | .leaving closedHere => do
      note (.destroyed p.key closedHere)
      pure ({ s with hub := s.hub.deregister p.key }.put id { p with place := .left })
    | _ => pure s
  | .shutdown id => s.attend id fun _ => do
    let hub ← s.hub.shutdown id
    pure { s with hub }
  | .stop =>
    if s.hub.stopping then pure s
    else pure { s with hub := { s.hub with stopping := true }, sweep := some .raised }
  | .sweep => s.sweepOn

/-- Moves one after another. -/
def play (s : Server) : List Move → Traced Server
  | [] => pure s
  | m :: rest => do
    let s ← s.move m
    play s rest

/-! ### A stop without interruption -/

theorem play_finished (s : Server) (n : Nat) (h : s.sweep = some .finished) :
    s.play (List.replicate n .sweep) = pure s := by
  induction n with
  | zero => rfl
  | succ n ih => simp [List.replicate_succ, play, move, sweepOn, h, bind, ih, pure]

theorem play_asking (s : Server) (count : Nat) (left : List Nat)
    (h : s.sweep = some (.asking count left)) :
    s.play (List.replicate (left.length + 1) .sweep) =
      ⟨{ s with hub := (s.hub.shutdownAll left).value, sweep := some .finished },
        (s.hub.shutdownAll left).events ++ [.log (.stopped count)]⟩ := by
  induction left generalizing s with
  | nil =>
    simp [List.replicate_succ, play, move, sweepOn, h, Hub.shutdownAll, bind, pure, note, record]
  | cons id left ih =>
    have := ih { s with hub := (s.hub.shutdown id).value, sweep := some (.asking count left) } rfl
    simp only [List.length_cons, List.replicate_succ (n := left.length + 1), play, move, sweepOn, h]
    simp only [bind, pure] at this ⊢
    simp [this, Hub.shutdownAll, bind]

theorem play_raised (s : Server) (h : s.sweep = some .raised) :
    s.play (List.replicate (s.hub.live.length + 3) .sweep) =
      ⟨{ s with hub := (s.hub.shutdownAll s.hub.live).value, sweep := some .finished },
        (s.hub.shutdownAll s.hub.live).events ++ [.log (.stopped s.hub.live.length)]⟩ := by
  simp only [List.replicate_succ (n := s.hub.live.length + 2), play, move]
  by_cases hs : s.hub.size = 0
  · have hlive : s.hub.live = [] := by
      have : s.hub.roster.toList = [] := List.eq_nil_of_length_eq_zero hs
      simp [Hub.live, this]
    have hnext : s.sweepOn = ⟨{ s with sweep := some .finished }, [.log (.stopped 0)]⟩ := by
      simp [sweepOn, h, hs, note, record, bind, pure]
    rw [hnext]
    simp only [bind, play_finished { s with sweep := some .finished } _ rfl]
    simp [hlive, Hub.shutdownAll, pure]
  · have hnext : s.sweepOn = pure { s with sweep := some .collecting } := by
      simp [sweepOn, h, hs]
    rw [hnext]
    simp only [List.replicate_succ (n := s.hub.live.length + 1), play, move, sweepOn]
    have := play_asking { s with sweep := some (.asking s.hub.live.length s.hub.live) } _ _ rfl
    simp only [bind, pure, List.nil_append] at this ⊢
    rw [this]

/-- A stop that nothing comes between is `Hub.stop`. -/
theorem play_stop (s : Server) (h : s.hub.stopping = false) :
    let played := s.play (.stop :: List.replicate (s.hub.live.length + 3) .sweep)
    played.value.hub = s.hub.stop.value ∧ played.events = s.hub.stop.events := by
  have := play_raised { s with hub := { s.hub with stopping := true }, sweep := some .raised } rfl
  simp only [play, move, h, Hub.stop, Hub.closeAll, note, record, bind, pure] at this ⊢
  have hlive : ({ s.hub with stopping := true } : Hub).live = s.hub.live := rfl
  simp only [hlive] at this
  simp [this, hlive]

end Server
end NetShell
