import NetShell.Session.Run

/-! A session whose input comes in over time.

`Session.advance` takes the steps that what has arrived allows, and stops where the next
one would read (`isWaiting`); `offer` hands the worker something more. However the input
is dealt out, the end is that of the whole run (`run_advance`). -/
namespace NetShell
open WebSocket

variable {σ : Type}

namespace Session

/-- Whether the next step reads, and nothing is there to be read. -/
def isWaiting (s : Session σ) : Bool :=
  match s.worker.phase with
  | .serving =>
    s.worker.arrivals.isEmpty && !s.worker.drained &&
      if s.desk.outlet.framed then Frame.parse s.worker.buffer == .incomplete
      else (Telnet.boundary s.worker.buffer).isNone
  | _ => false

/-- Something more arrives. -/
def offer (a : Arrival) (s : Session σ) : Session σ :=
  { s with worker := { s.worker with arrivals := s.worker.arrivals ++ [a] } }

/-- Steps until the connection is gone or waits. -/
def advance (h : Handler σ) (thread : Nat) (s : Session σ) : Traced (Session σ) :=
  if hg : s.isGone || s.isWaiting then pure s
  else
    have := work_step h thread s (by simpa using (Bool.or_eq_false_iff.1 (by simpa using hg)).1)
    let first := s.step h thread
    let rest := advance h thread first.value
    ⟨rest.value, first.events ++ rest.events⟩
termination_by s.worker.work

/-- A run goes on from where an advance has come to. -/
theorem run_advance (h : Handler σ) (thread : Nat) (s : Session σ) :
    (do run h thread (← advance h thread s)) = run h thread s := by
  fun_induction advance h thread s with
  | case1 s hg => rfl
  | case2 s hg hw first rest ih =>
    have hgone : s.isGone = false := (Bool.or_eq_false_iff.1 (by simpa using hg)).1
    have hrun : run h thread s =
        ⟨(run h thread first.value).value, first.events ++ (run h thread first.value).events⟩ := by
      rw [run]
      simp [hgone, first]
    rw [hrun, ← ih]
    simp [bind, rest]

end Session
end NetShell
