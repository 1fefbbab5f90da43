import NetShell.Proofs.Conduct
import NetShell.Proofs.Segments
import NetShell.Session.Run

/-! Each part of a worker's step as an equation.

While the outlet is not released and the worker serves, the parts of a step say in full
what they leave and which events there were. `Session.Filling` lists what one read may
come to. -/
namespace NetShell
open WebSocket

variable {σ : Type}

/-- Where a callback leaves the worker. -/
def Flow.phase : Flow → Phase
  | .continue => .serving
  | .abort reason log => .finished (some (.aborted reason log))

namespace Session

variable {s : Session σ}

/-! ### Callbacks -/

theorem react_eq (hr : s.desk.outlet.released = false) (r : Reaction σ) :
    let w := s.desk.perform r.acts
    s.react r = ⟨(r.flow, ⟨{ s.worker with state := r.state }, w.value.desk⟩), w.events⟩ := by
  simp [react, bind, pure, (Desk.kept_perform hr r.acts).misuse]

theorem greet_eq (h : Handler σ) (hr : s.desk.outlet.released = false) (request : Option Request) :
    let r := h.connected s.worker.state request
    let w := s.desk.perform r.acts
    s.greet h request = ⟨(r.flow, ⟨{ s.worker with state := r.state }, w.value.desk⟩),
      .connected s.desk.id s.desk.link.status request :: w.events⟩ := by
  simp [greet, react_eq hr, bind, Traced.record]

theorem deliver_eq (h : Handler σ) (hr : s.desk.outlet.released = false) (data : Bytes) :
    let r := h.message s.worker.state data
    let w := s.desk.perform r.acts
    s.deliver h data = ⟨(r.flow, ⟨{ s.worker with state := r.state }, w.value.desk⟩),
      .message s.desk.id s.desk.link.status data :: w.events⟩ := by
  simp [deliver, react_eq hr, bind, Traced.record]

theorem conclude_eq (hs : s.worker.phase = .serving) (cause : Option Ending) :
    s.conclude cause = { s with worker := { s.worker with phase := .finished cause } } := by
  simp [conclude, hs]

theorem follow_eq (hs : s.worker.phase = .serving) (flow : Flow) :
    s.follow flow = { s with worker := { s.worker with phase := flow.phase } } := by
  cases flow with
  | «continue» =>
    obtain ⟨worker, desk⟩ := s
    simp only at hs
    simp [follow, Flow.phase, ← hs]
  | abort reason log => exact conclude_eq hs _

theorem transmit_eq (hr : s.desk.outlet.released = false) (parts : List Bytes) (data : Bytes) :
    let w := s.desk.transmit (Outlet.transmit parts data)
    s.transmit (Outlet.transmit parts data) = ⟨{ s with desk := w.value.desk }, w.events⟩ := by
  simp [transmit, bind, pure, (Desk.kept_transmit hr parts data).misuse]

/-! ### The parts of a step -/

theorem start_line (h : Handler σ) (thread : Nat) (hr : s.desk.outlet.released = false)
    (hm : s.worker.mode = .line) :
    let d := s.desk.update s.desk.outlet { s.desk.link with thread }
    let r := h.connected s.worker.state none
    let w := d.perform r.acts
    s.start h thread = ⟨⟨{ s.worker with state := r.state, phase := r.flow.phase }, w.value.desk⟩,
      .log (.started s.desk.outlet.conn .line) :: .connected d.id d.link.status none ::
        w.events⟩ := by
  obtain ⟨⟨mode, readSize, state, arrivals, upgrade, buffer, drained, faults, phase⟩, desk⟩ := s
  obtain rfl : mode = .line := hm
  have hg :=
    greet_eq (s := ⟨⟨.line, readSize, state, arrivals, upgrade, buffer, drained, faults, .serving⟩,
    desk.update desk.outlet { desk.link with thread }⟩) h hr none
  simp only [start, bind, pure, Traced.note, Traced.record]
  simp only at hg
  rw [hg, follow_eq rfl]
  simp [Desk.update]

theorem start_webSocket (h : Handler σ) (thread : Nat) (hm : s.worker.mode = .webSocket) :
    s.start h thread =
      ⟨⟨{ s.worker with phase := .serving },
          s.desk.update s.desk.outlet { s.desk.link with thread }⟩,
        [.log (.started s.desk.outlet.conn .webSocket)]⟩ := by
  simp [start, hm, bind, pure, Traced.note, Traced.record, Desk.update]

theorem dispatch_eq (h : Handler σ) (hr : s.desk.outlet.released = false)
    (hs : s.worker.phase = .serving) (data : Bytes) :
    let d := s.desk.transition .running
    let r := h.message s.worker.state data
    let w := d.perform r.acts
    s.dispatch h data = ⟨⟨{ s.worker with state := r.state, phase := r.flow.phase }, w.value.desk⟩,
      .message d.id d.link.status data :: w.events⟩ := by
  have hd := deliver_eq (s := ⟨s.worker, s.desk.transition .running⟩) h hr data
  simp only [dispatch, bind, pure]
  rw [hd]
  dsimp only
  rw [follow_eq (s := ⟨{ s.worker with state := (h.message s.worker.state data).state }, _⟩) hs]
  simp

/-- The end of a header, the handler having been asked: it aborts, or the client did not
ask for the upgrade, or the upgrade is answered and frames follow. -/
theorem changeOver_eq (h : Handler σ) (hr : s.desk.outlet.released = false)
    (hs : s.worker.phase = .serving) :
    let request := s.worker.upgrade.request
    let r := h.connected s.worker.state (some request)
    let w := s.desk.perform r.acts
    let answered :=
      w.value.desk.transmit (Outlet.send (Bytes.ofText (switchingProtocols request.key)))
    let asked := Event.connected s.desk.id s.desk.link.status (some request) :: w.events
    s.changeOver h =
      match r.flow with
      | .abort reason log =>
        ⟨⟨{ s.worker with state := r.state, phase := .finished (some (.aborted reason log)) },
          w.value.desk⟩, asked⟩
      | .continue =>
        if request.upgrade then
          ⟨⟨{ s.worker with state := r.state },
              { answered.value.desk with outlet :=
                { answered.value.desk.outlet with framed := true } }⟩,
            asked ++ answered.events ++
              [.log (.upgraded answered.value.desk.outlet.conn request.path
                s.worker.upgrade.stage)]⟩
        else
          ⟨⟨{ s.worker with
                state := r.state, phase := .finished (some (.violation .missingUpgrade)) },
              w.value.desk⟩, asked⟩ := by
  obtain ⟨⟨mode, readSize, state, arrivals, upgrade, buffer, drained, faults, phase⟩, desk⟩ := s
  obtain rfl : phase = .serving := hs
  have hw := Desk.kept_perform hr (h.connected state (some upgrade.request)).acts
  simp only [changeOver, greet_eq h hr, bind, pure]
  cases hflow : (h.connected state (some upgrade.request)).flow with
  | abort reason log => simp [conclude]
  | «continue» =>
    by_cases hu : upgrade.request.upgrade = true
    · let reply := Bytes.ofText (switchingProtocols upgrade.request.key)
      have ht := fun s' : Session σ => transmit_eq (s := s')
      simp only [hu, if_true, Outlet.send]
      rw [ht _ (hw.released.trans hr) [reply] reply]
      simp [Traced.note, Traced.record, reply]
    · simp [hu, conclude]

/-- A line of a request: one more is wanted, the header is complete, or it is refused. -/
theorem request_eq (h : Handler σ) (hr : s.desk.outlet.released = false)
    (hs : s.worker.phase = .serving) (line : Bytes) :
    let fed := s.worker.upgrade.feed line
    let s' : Session σ := ⟨{ s.worker with upgrade := fed.2 }, s.desk⟩
    let refused := s.desk.transmit (Outlet.send notImplemented)
    s.request h line =
      match fed.1 with
      | .continue => pure s'
      | .headersDone => s'.changeOver h
      | .reject cause =>
        ⟨⟨{ s'.worker with phase := .finished (some (.violation cause)) }, refused.value.desk⟩,
          refused.events⟩ := by
  simp only [request]
  cases hfed : (s.worker.upgrade.feed line).1 with
  | «continue» => rfl
  | headersDone => rfl
  | reject cause =>
    have ht :=
      transmit_eq (s := ⟨{ s.worker with upgrade := (s.worker.upgrade.feed line).2 }, s.desk⟩)
      hr [notImplemented] notImplemented
    simp only [bind, pure, Outlet.send]
    rw [ht]
    simp [conclude_eq, hs]

/-! A line, by the connection's mode. -/

theorem line_line (h : Handler σ) (hm : s.worker.mode = .line) (data rest : Bytes) :
    s.line h data rest = dispatch h data ⟨{ s.worker with buffer := rest }, s.desk⟩ := by
  simp [line, hm]

theorem line_webSocket (h : Handler σ) (hm : s.worker.mode = .webSocket) (data rest : Bytes) :
    s.line h data rest = request h data ⟨{ s.worker with buffer := rest }, s.desk⟩ := by
  simp [line, hm]

/-! A frame: a ping is answered, a pong passed over, and any other given to the handler. -/

theorem frame_ping (h : Handler σ) (hr : s.desk.outlet.released = false) {f : Frame}
    (hf : f.opcode = .ping) (rest : Bytes) :
    let w := s.desk.transmit (Outlet.sendPong f.payload)
    s.frame h f rest = ⟨⟨{ s.worker with buffer := rest }, w.value.desk⟩,
      .log (.frame s.desk.outlet.conn .ping f.final f.payload.length) :: w.events⟩ := by
  have ht := transmit_eq (s := ⟨{ s.worker with buffer := rest }, s.desk⟩) hr
    [Frame.header (UInt8.ofNat Opcode.pong.code) f.payload.length, f.payload] f.payload
  simp only [frame, hf, bind, Traced.note, Traced.record, Outlet.sendPong, Outlet.sendAs]
  rw [ht]
  rfl

theorem frame_pong (h : Handler σ) {f : Frame} (hf : f.opcode = .pong) (rest : Bytes) :
    s.frame h f rest = ⟨⟨{ s.worker with buffer := rest }, s.desk⟩,
      [.log (.frame s.desk.outlet.conn .pong f.final f.payload.length)]⟩ := by
  simp only [frame, hf, bind, pure, Traced.note, Traced.record, List.append_nil]

theorem frame_other (h : Handler σ) {f : Frame} (hping : f.opcode ≠ .ping)
    (hpong : f.opcode ≠ .pong) (rest : Bytes) :
    let dispatched := dispatch h f.payload ⟨{ s.worker with buffer := rest }, s.desk⟩
    s.frame h f rest = ⟨dispatched.value,
      .log (.frame s.desk.outlet.conn f.opcode f.final f.payload.length) :: dispatched.events⟩ := by
  obtain ⟨opcode, final, mask, payload⟩ := f
  cases opcode with
  | ping => exact absurd rfl hping
  | pong => exact absurd rfl hpong
  | _ => rfl

/-- The first line of the buffer, what an ended stream leaves in it, or a read. -/
theorem serveLines_eq (h : Handler σ) (s : Session σ) :
    s.serveLines h =
      match Telnet.next? s.worker.buffer with
      | some (data, rest) => s.line h data rest
      | none =>
        if s.worker.drained then
          match Telnet.remainder s.worker.buffer with
          | some data => s.line h data []
          | none => pure (s.conclude none)
        else s.fill := by
  unfold serveLines
  cases hb : Telnet.boundary s.worker.buffer with
  | none =>
    cases hnext : Telnet.next? s.worker.buffer with
    | none => rfl
    | some found => cases (Telnet.next?_eq_none_of_boundary.1 hb).symm.trans hnext
  | some index =>
    have hcut := Telnet.cut_at (Telnet.boundary_eq_some hb).1
    have hnext : Telnet.next? s.worker.buffer = Telnet.cut s.worker.buffer index := by
      rw [Telnet.next?, hb]; rfl
    simp only [hnext, hcut]

/-- The first frame of the buffer, or a read. -/
theorem serveFrames_eq (h : Handler σ) (s : Session σ) :
    s.serveFrames h =
      match Frame.parse s.worker.buffer with
      | .complete f size => s.frame h f (s.worker.buffer.drop size)
      | .incomplete => if s.worker.drained then pure (s.conclude none) else s.fill
      | .close => pure (s.conclude (some .peerClosed))
      | .violation cause => pure (s.conclude (some (.violation cause))) := by
  unfold serveFrames
  cases hp : Frame.parse s.worker.buffer with
  | complete f size => simp only [if_pos (Frame.size_of_parse hp).2]
  | _ => rfl

/-! ### A step, by where the worker is -/

theorem step_fresh (h : Handler σ) (thread : Nat) (hs : s.worker.phase = .fresh) :
    s.step h thread = s.start h thread := by
  simp [step, hs]

theorem step_lines (h : Handler σ) (thread : Nat) (hs : s.worker.phase = .serving)
    (hf : s.desk.outlet.framed = false) : s.step h thread = s.serveLines h := by
  simp [step, hs, hf]

/-- The stream has ended and nothing is left of it. -/
theorem step_spent (h : Handler σ) (thread : Nat) (hs : s.worker.phase = .serving)
    (hf : s.desk.outlet.framed = false) (hd : s.worker.drained = true) (hb : s.worker.buffer = []) :
    s.step h thread = pure (s.conclude none) := by
  have hnext : Telnet.next? [] = none := rfl
  have hrest : Telnet.remainder [] = none := rfl
  rw [step_lines h thread hs hf, serveLines_eq, hb]
  simp only [hnext, hrest, hd, if_true]

theorem step_frames (h : Handler σ) (thread : Nat) (hs : s.worker.phase = .serving)
    (hf : s.desk.outlet.framed = true) : s.step h thread = s.serveFrames h := by
  simp [step, hs, hf]

/-! ### Reads -/

/-- A read in progress: what has come in while it waited. -/
def awaited (s : Session σ) : Traced Inlet.Reading :=
  Inlet.await s.worker.room s.worker.arrivals (s.desk.transition .waiting).link

/-- The desk after a read. -/
def deskAfter (s : Session σ) : Desk :=
  (s.desk.transition .waiting).update s.desk.outlet s.awaited.value.link

/-- The events of a read. -/
def readEvents (s : Session σ) : List Event :=
  s.awaited.events ++
    [.read (s.desk.transition .waiting).link.id (s.desk.transition .waiting).link.status
      s.worker.room
      s.awaited.value.outcome]

/-- What one read may come to. A fault that the connection's end accounts for is `lost` before
an upgrade and `cut` after it; of the others so many are borne. -/
inductive Filling (s : Session σ) : Traced (Session σ) → Prop
  | finish : s.awaited.value.outcome = .ok [] →
      Filling s ⟨⟨{ s.worker with arrivals := s.awaited.value.left, drained := true }, s.deskAfter⟩,
      s.readEvents⟩
  | data {data : Bytes} : data ≠ [] → s.awaited.value.outcome = .ok data →
      Filling s ⟨⟨{ s.worker with
          arrivals := s.awaited.value.left, buffer := s.worker.buffer ++ data, faults := 0 },
        s.deskAfter⟩, s.readEvents⟩
  | interrupted {fault : Fault} : fault.isInterrupted = true →
      s.awaited.value.outcome = .error fault →
      Filling s ⟨⟨{ s.worker with arrivals := s.awaited.value.left }, s.deskAfter⟩, s.readEvents⟩
  | lost {fault : Fault} : fault.isInterrupted = false →
      (fault.isTeardown || s.deskAfter.link.status.isClosing) = true →
      s.desk.outlet.framed = false →
      s.awaited.value.outcome = .error fault →
      Filling s ⟨⟨{ s.worker with arrivals := s.awaited.value.left, drained := true }, s.deskAfter⟩,
        s.readEvents ++ [.log (.readEnded s.desk.outlet.conn fault)]⟩
  | cut {fault : Fault} : fault.isInterrupted = false →
      (fault.isTeardown || s.deskAfter.link.status.isClosing) = true → s.desk.outlet.framed = true →
      s.awaited.value.outcome = .error fault →
      Filling s ⟨⟨{ s.worker with
          arrivals := s.awaited.value.left, drained := true, phase :=
            .finished (some (.teardown fault)) },
        s.deskAfter⟩, s.readEvents⟩
  | failed {fault : Fault} : fault.isInterrupted = false →
      (fault.isTeardown || s.deskAfter.link.status.isClosing) = false →
      s.awaited.value.outcome = .error fault →
      Filling s ⟨⟨{ s.worker with
          arrivals := s.awaited.value.left, faults := s.worker.faults + 1,
          phase :=
            if maxFaults ≤ s.worker.faults + 1 then .finished (some (.exhausted fault)) else .serving },
        s.deskAfter⟩, s.readEvents ++ [.log (.readFailed s.desk.outlet.conn fault)]⟩

theorem filling (hs : s.worker.phase = .serving) : Filling s s.fill := by
  have hread : Inlet.read s.worker.room s.worker.arrivals (s.desk.transition .waiting).link =
      ⟨s.awaited.value, s.readEvents⟩ := by
    simp [Inlet.read, awaited, readEvents, bind, pure, Traced.record]
  have hdesk :
      (s.desk.transition .waiting).update s.desk.outlet s.awaited.value.link = s.deskAfter := rfl
  have houtlet : (s.desk.transition .waiting).outlet = s.desk.outlet := rfl
  have hafter : s.deskAfter.outlet = s.desk.outlet := rfl
  simp only [fill, hread, houtlet, hdesk, hafter, bind, pure]
  cases ho : s.awaited.value.outcome with
  | ok data =>
    cases data with
    | nil => simpa using Filling.finish ho
    | cons b rest => simpa using Filling.data (by simp) ho
  | error fault =>
    by_cases hi : fault.isInterrupted = true
    · simpa [hi] using Filling.interrupted hi ho
    · rw [Bool.not_eq_true] at hi
      by_cases hl : (fault.isTeardown || s.deskAfter.link.status.isClosing) = true
      · by_cases hf : s.desk.outlet.framed = true
        · simpa [hi, hl, hf] using Filling.cut hi hl hf ho
        · rw [Bool.not_eq_true] at hf
          simpa [hi, hl, hf, Traced.note, Traced.record] using Filling.lost hi hl hf ho
      · rw [Bool.not_eq_true] at hl
        have hfailed := Filling.failed hi hl ho
        by_cases hm : maxFaults ≤ s.worker.faults + 1
        · simpa [hi, hl, hm, Traced.note, Traced.record] using hfailed
        · simpa [hi, hl, hm, hs, Traced.note, Traced.record] using hfailed

end Session
end NetShell
