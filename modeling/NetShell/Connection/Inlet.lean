import NetShell.Connection.Link

/-! The receiving half of a connection: what arrives, read by read.

Only the connection's worker reads, so it alone holds the script of arrivals. A read
takes at most as many bytes as it has room for and leaves the rest of a chunk for the
next read. Where the script says so, a request to shut down comes in while the read is
waiting. After the last arrival the stream is at its end. -/
namespace NetShell

/-- What a read comes to. -/
inductive Arrival
  | data (chunk : Bytes)
  /-- the end of the stream -/
  | finish
  | fault (fault : Fault)
  /-- the connection is asked to shut down, and the read goes on waiting -/
  | shutdown

namespace Inlet
open Traced

/-- A bound on the reads that a script of arrivals can answer otherwise than with the end
of the stream, and on the bytes they bring. -/
def weight : List Arrival → Nat
  | [] => 0
  | .data chunk :: rest => chunk.length + 1 + weight rest
  | _ :: rest => 1 + weight rest

/-- What the next read brings, and what stays for later reads. -/
structure Reading where
  outcome : Except Fault Bytes
  left : List Arrival
  link : Link

/-- A read in progress: the arrivals up to the one that ends it. -/
def await (room : Nat) : List Arrival → Link → Traced Reading
  | [], l => pure ⟨.ok [], [], l⟩
  | .shutdown :: rest, l => do
    let l ← l.shutdown
    await room rest l
  | .finish :: rest, l => pure ⟨.ok [], rest, l⟩
  | .fault fault :: rest, l => pure ⟨.error fault, rest, l⟩
  | .data chunk :: rest, l =>
    let left := chunk.drop room
    pure ⟨.ok (chunk.take room), if left.isEmpty then rest else .data left :: rest, l⟩

/-- One read with room for `room` bytes. -/
def read (room : Nat) (arrivals : List Arrival) (l : Link) : Traced Reading := do
  let r ← await room arrivals l
  record (.read l.id l.status room r.outcome)
  pure r

/-- A read leaves less of the script, by as much as it brings; one that brings bytes
or fails has taken something from it. -/
theorem weight_await (room : Nat) (arrivals : List Arrival) (l : Link) :
    match (await room arrivals l).value.outcome with
    | .ok data => weight (await room arrivals l).value.left + data.length ≤ weight arrivals
    | .error _ => weight (await room arrivals l).value.left < weight arrivals := by
  induction arrivals generalizing l with
  | nil => simp [await, weight]
  | cons a rest ih =>
    cases a with
    | shutdown =>
      have := ih l.shutdown.value
      simp only [await, value_bind, weight] at this ⊢
      split <;> rename_i h <;> rw [h] at this <;> dsimp only at this <;> omega
    | finish => simp [await, weight]
    | fault f => simp [await, weight]
    | data chunk =>
      simp only [await, value_pure, weight, List.length_take]
      split
      · omega
      · simp only [weight, List.length_drop]
        omega

end Inlet
end NetShell
