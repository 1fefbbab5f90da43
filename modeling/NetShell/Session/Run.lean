import NetShell.Session.Worker

/-! A session's whole run.

`Session.run` takes steps until the connection is gone. That it comes to an end is
`work_step`: each step brings the worker to a later phase, takes bytes out of its
buffer, or takes something from what is to arrive. -/
namespace NetShell
open WebSocket

variable {σ : Type}

/-! ### What the parts of a step leave alone -/

namespace Worker

/-- Nothing has arrived and nothing was taken; the worker is as far as it was, or out of
its loop. -/
structure Keeps (w w' : Worker σ) : Prop where
  arrivals : w'.arrivals = w.arrivals
  buffer : w'.buffer = w.buffer
  drained : w'.drained = w.drained
  rank : Phase.rank w'.phase ≤ max 1 (Phase.rank w.phase)

theorem Keeps.refl (w : Worker σ) : Keeps w w := ⟨rfl, rfl, rfl, Nat.le_max_right ..⟩

theorem Keeps.trans {w₁ w₂ w₃ : Worker σ} (h : Keeps w₁ w₂) (h' : Keeps w₂ w₃) : Keeps w₁ w₃ :=
  ⟨h'.arrivals.trans h.arrivals, h'.buffer.trans h.buffer, h'.drained.trans h.drained, by
    have := h.rank
    have := h'.rank
    omega⟩

theorem Keeps.work_le {w w' : Worker σ} (h : Keeps w w') (hs : w.phase = .serving) :
    w'.work ≤ w.work := by
  have := h.rank
  simp only [work, h.arrivals, h.buffer, h.drained, hs, Phase.rank] at this ⊢
  omega

end Worker

namespace Session
open Worker

theorem keeps_conclude (s : Session σ) (cause : Option Ending) :
    Keeps s.worker (s.conclude cause).worker := by
  unfold conclude
  split
  · exact .refl _
  · exact ⟨rfl, rfl, rfl, Nat.le_max_left ..⟩

theorem keeps_follow (s : Session σ) (flow : Flow) : Keeps s.worker (s.follow flow).worker := by
  cases flow with
  | «continue» => exact .refl _
  | abort => exact keeps_conclude ..

theorem keeps_react (s : Session σ) (r : Reaction σ) :
    Keeps s.worker (s.react r).value.2.worker := by
  simp only [react, Traced.value_bind]
  split
  · exact ⟨rfl, rfl, rfl, Nat.le_max_right ..⟩
  · exact ⟨rfl, rfl, rfl, Nat.le_max_left ..⟩

theorem keeps_greet (h : Handler σ) (request : Option Request) (s : Session σ) :
    Keeps s.worker (s.greet h request).value.2.worker := by
  simp only [greet, Traced.value_bind]
  exact keeps_react ..

theorem keeps_deliver (h : Handler σ) (data : Bytes) (s : Session σ) :
    Keeps s.worker (s.deliver h data).value.2.worker := by
  simp only [deliver, Traced.value_bind]
  exact keeps_react ..

theorem keeps_transmit (s : Session σ)
    (use : Outlet → Link → Except Misuse (Traced (Outlet × Link))) :
    Keeps s.worker (s.transmit use).value.worker := by
  simp only [transmit, Traced.value_bind]
  split
  · exact ⟨rfl, rfl, rfl, Nat.le_max_right ..⟩
  · exact ⟨rfl, rfl, rfl, Nat.le_max_left ..⟩

theorem keeps_dispatch (h : Handler σ) (data : Bytes) (s : Session σ) :
    Keeps s.worker (s.dispatch h data).value.worker := by
  simp only [dispatch, Traced.value_bind, Traced.value_pure]
  exact .trans (keeps_deliver h data { s with desk := s.desk.transition .running })
    (keeps_follow ..)

theorem keeps_changeOver (h : Handler σ) (s : Session σ) :
    Keeps s.worker (s.changeOver h).value.worker := by
  have hg := keeps_greet h (some s.worker.upgrade.request) s
  simp only [changeOver, Traced.value_bind]
  split
  · exact hg.trans (keeps_conclude ..)
  · exact hg
  · split
    · have ht := hg.trans
        (keeps_transmit _
          (Outlet.send (Bytes.ofText (switchingProtocols s.worker.upgrade.request.key))))
      simp only [Traced.value_bind]
      split <;> exact ht
    · exact hg.trans (keeps_conclude ..)

theorem keeps_request (h : Handler σ) (data : Bytes) (s : Session σ) :
    Keeps s.worker (s.request h data).value.worker := by
  let upgraded : Session σ :=
    { s with worker := { s.worker with upgrade := (s.worker.upgrade.feed data).2 } }
  have hu : Keeps s.worker upgraded.worker := ⟨rfl, rfl, rfl, Nat.le_max_right ..⟩
  simp only [request]
  split
  · exact hu
  · exact hu.trans (keeps_changeOver h upgraded)
  · simp only [Traced.value_bind, Traced.value_pure]
    exact (hu.trans (keeps_transmit upgraded _)).trans (keeps_conclude ..)

theorem keeps_line (h : Handler σ) (data rest : Bytes) (s : Session σ) :
    Keeps { s.worker with buffer := rest } (s.line h data rest).value.worker := by
  simp only [line]
  split
  · exact keeps_dispatch h data { s with worker := { s.worker with buffer := rest } }
  · exact keeps_request h data { s with worker := { s.worker with buffer := rest } }

theorem keeps_frame (h : Handler σ) (f : Frame) (rest : Bytes) (s : Session σ) :
    Keeps { s.worker with buffer := rest } (s.frame h f rest).value.worker := by
  simp only [frame, Traced.value_bind]
  split
  · exact keeps_transmit { s with worker := { s.worker with buffer := rest } } _
  · exact .refl _
  · exact keeps_dispatch h f.payload { s with worker := { s.worker with buffer := rest } }

/-! ### Every step brings the end nearer -/

theorem work_take {w w' : Worker σ} {rest : Bytes} (h : Keeps { w with buffer := rest } w')
    (hs : w.phase = .serving) (hl : rest.length < w.buffer.length) : w'.work < w.work := by
  have h₁ := h.work_le hs
  have h₂ : work { w with buffer := rest } < w.work := by
    simp only [work]
    omega
  omega

theorem work_conclude {s : Session σ} (cause : Option Ending) (hs : s.worker.phase = .serving) :
    (s.conclude cause).worker.work < s.worker.work := by
  simp [conclude, hs, work, Phase.rank]

theorem work_fill {s : Session σ} (hs : s.worker.phase = .serving) (hd : s.worker.drained = false) :
    s.fill.value.worker.work < s.worker.work := by
  have hw := Inlet.weight_await s.worker.room s.worker.arrivals (s.desk.transition .waiting).link
  simp only [fill, Inlet.read, Traced.value_bind, Traced.value_pure] at hw ⊢
  split
  · rename_i data ho
    rw [ho] at hw
    dsimp only at hw
    split
    · simp only [Traced.value_pure, work, hs, hd, Phase.rank]
      simp only [if_true, Bool.false_eq_true, if_false]
      omega
    · rename_i hne
      have : 0 < data.length := by
        cases data with
        | nil => simp at hne
        | cons => simp
      simp only [Traced.value_pure, work, hs, hd, Phase.rank, List.length_append]
      omega
  · rename_i fault ho
    rw [ho] at hw
    dsimp only at hw
    split
    · simp only [Traced.value_pure, work, hs, Phase.rank]
      omega
    · split
      · split
        · simp only [Traced.value_pure, work, hd, hs, Phase.rank]
          simp only [if_true, Bool.false_eq_true, if_false]
          omega
        · simp only [Traced.value_bind, Traced.value_pure, work, hd, hs, Phase.rank]
          simp only [if_true, Bool.false_eq_true, if_false]
          omega
      · simp only [Traced.value_bind]
        split
        · simp only [Traced.value_pure, work, hs, Phase.rank]
          omega
        · simp only [Traced.value_pure, work, hs, Phase.rank]
          omega

theorem work_overrun {s : Session σ} (index : Nat) (hs : s.worker.phase = .serving) :
    (s.overrun index).worker.work < s.worker.work := by
  simp only [overrun, work, hs, Phase.rank]
  exact Nat.add_lt_add_left (by decide) _

theorem work_serveFrames (h : Handler σ) {s : Session σ} (hs : s.worker.phase = .serving) :
    (s.serveFrames h).value.worker.work < s.worker.work := by
  unfold serveFrames
  split
  · rename_i f size hp
    have := Frame.size_of_parse hp
    split
    · refine work_take (keeps_frame h f _ s) hs ?_
      rw [List.length_drop]
      omega
    · exact work_overrun _ hs
  · split
    · exact work_conclude _ hs
    · rename_i hd
      exact work_fill hs (by simpa using hd)
  · exact work_conclude _ hs
  · exact work_conclude _ hs

theorem length_of_remainder {buffer data : Bytes} (h : Telnet.remainder buffer = some data) :
    0 < buffer.length := by
  cases buffer with
  | nil => simp [Telnet.remainder, Telnet.stripReturn] at h
  | cons => simp

theorem work_serveLines (h : Handler σ) {s : Session σ} (hs : s.worker.phase = .serving) :
    (s.serveLines h).value.worker.work < s.worker.work := by
  unfold serveLines
  split
  · split
    · rename_i hc
      have := Telnet.length_of_cut hc
      exact work_take (keeps_line h _ _ s) hs (by omega)
    · exact work_overrun _ hs
  · split
    · split
      · rename_i hr
        exact work_take (keeps_line h _ _ s) hs (length_of_remainder hr)
      · exact work_conclude _ hs
    · rename_i hd
      exact work_fill hs (by simpa using hd)

/-- **Every step before the end brings the end nearer.** -/
theorem work_step (h : Handler σ) (thread : Nat) (s : Session σ) (hg : s.isGone = false) :
    (s.step h thread).value.worker.work < s.worker.work := by
  unfold step
  cases hs : s.worker.phase with
  | fresh =>
    have hf : ∀ w' : Worker σ, Keeps { s.worker with phase := .serving } w' →
      w'.work < s.worker.work := by
      intro w' hk
      have h₁ := hk.work_le rfl
      have h₂ : work { s.worker with phase := .serving } < s.worker.work := by
        simp [work, hs, Phase.rank]
      omega
    simp only [start, Traced.value_bind]
    split
    · exact hf _ (.refl _)
    · simp only [Traced.value_bind, Traced.value_pure]
      exact hf _ ((keeps_greet h none { s with
        worker := { s.worker with phase := .serving },
        desk := s.desk.update s.desk.outlet { s.desk.link with thread } }).trans (keeps_follow ..))
  | serving =>
    dsimp only
    split
    · exact work_serveFrames h hs
    · exact work_serveLines h hs
  | finished cause =>
    simp only [takeDown, work, hs, Phase.rank, Traced.value_bind, Traced.value_pure]
    exact Nat.add_lt_add_left (by decide) _
  | broken misuse =>
    simp only [takeDown, work, hs, Phase.rank, Traced.value_bind, Traced.value_pure]
    exact Nat.add_lt_add_left (by decide) _
  | gone misuse => simp [isGone, hs] at hg

/-! ### The run -/

/-- Steps until the connection is gone. -/
def run (h : Handler σ) (thread : Nat) (s : Session σ) : Traced (Session σ) :=
  if hg : s.isGone then pure s
  else
    have := work_step h thread s (by simpa using hg)
    let first := s.step h thread
    let rest := run h thread first.value
    ⟨rest.value, first.events ++ rest.events⟩
termination_by s.worker.work

end Session
end NetShell
