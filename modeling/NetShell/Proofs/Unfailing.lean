import NetShell.Proofs.Bounds
import NetShell.Proofs.Lapses

/-! No input stops a worker.

A worker that works place by place (`Checked`) stops at its first lapse: its work is what happened
up to then. Here each part of a connection's work is repeated in that way, on the memory that holds
the receive buffer and with the outlet that may have been released, and each comes to what it comes
to in `Session`: it goes *through*. So however a connection's life goes, as long as its buffer and
one read more fit into memory, its work goes through (`Session.unfailing`). -/
namespace NetShell
open WebSocket

variable {σ : Type}

namespace Checked
open Traced

/-! ### Work -/

/-- Work with its events, up to a lapse. -/
abbrev Work (α : Type) := ExceptT Lapse Traced α

variable {α β : Type}

/-- Work that goes through. -/
def through (t : Traced α) : Work α := ExceptT.mk ⟨.ok t.value, t.events⟩

/-- Work on a block of memory. -/
def of (x : Except Lapse α) : Work α := ExceptT.mk ⟨x, []⟩

theorem pure_eq (a : α) : (pure a : Work α) = through (pure a) := rfl

/-- What follows work that goes through, goes through. -/
theorem through_bind {x : Work α} {t : Traced α} {f : α → Work β} {g : α → Traced β}
    (hx : x = through t) (hf : f t.value = through (g t.value)) :
    (x >>= f) = through (t >>= g) := by
  subst hx
  show ExceptT.mk (⟨.ok t.value, t.events⟩ >>= ExceptT.bindCont f) = _
  simp only [bind, ExceptT.bindCont]
  rw [hf]
  rfl

/-- The same, event by event. -/
theorem through_then {x : Work α} {f : α → Work β} {v : α} {u : β} {a b : List Event}
    (hx : x = through ⟨v, a⟩) (hf : f v = through ⟨u, b⟩) : (x >>= f) = through ⟨u, a ++ b⟩ :=
  through_bind (t := ⟨v, a⟩) (g := fun _ => ⟨u, b⟩) hx hf

/-- Nothing happens after it. -/
theorem through_pure {x : Work α} {f : α → Work β} {v : α} {u : β} {a : List Event}
    (hx : x = through ⟨v, a⟩) (hf : f v = pure u) : (x >>= f) = through ⟨u, a⟩ := by
  have hall := through_then (b := []) hx (hf.trans (pure_eq u))
  rwa [List.append_nil] at hall

/-- What follows work on memory without a lapse is all that happens. -/
theorem of_ok_bind (a : α) (f : α → Work β) : (of (.ok a) >>= f) = f a := rfl

/-! ### Sending -/

/-- Offer a part until all of it is taken or a write fails: what has been taken is sliced off. -/
def drain : List Acceptance → Bytes → Link → Work Outlet.Drained
  | script, [], l => pure ⟨script, l, none⟩
  | [], data, l =>
    if l.isOpen then do
      through (record (.write l.id data (.ok data.length)))
      let _ ← of (slice data data.length data.length)
      pure ⟨[], l, none⟩
    else do
      through (record (.write l.id data (.error .closed)))
      pure ⟨[], l, some .closed⟩
  | a :: rest, data, l =>
    if l.isOpen then
      match a with
      | .shutdown => do
        let l ← through l.shutdown
        drain rest data l
      | .fault fault => do
        through (record (.write l.id data (.error fault)))
        if fault.isInterrupted then drain rest data l else pure ⟨rest, l, some fault⟩
      | .upTo count => do
        let taken := min count data.length
        through (record (.write l.id data (.ok taken)))
        if taken = 0 then pure ⟨rest, l, some (.plain .writeZero)⟩
        else do
          let data ← of (slice data taken data.length)
          drain rest data l
    else do
      through (record (.write l.id data (.error .closed)))
      pure ⟨a :: rest, l, some .closed⟩

def drainAll : List Bytes → List Acceptance → Link → Work Outlet.Drained
  | [], script, l => pure ⟨script, l, none⟩
  | part :: parts, script, l => do
    let d ← drain script part l
    match d.failure with
    | none => drainAll parts d.left d.link
    | some _ => pure d

/-- Send a message in parts over a transport that has not been given back. -/
def transmit (parts : List Bytes) (data : Bytes) (d : Desk) : Work Desk :=
  if d.outlet.released then of (.error (.released d.outlet.conn))
  else do
    let sent ← drainAll parts d.outlet.script d.link
    through (Outlet.noteFailure d.outlet.conn data sent.failure)
    pure (d.update { d.outlet with script := sent.left } sent.link)

def send (data : Bytes) (d : Desk) : Work Desk := transmit [data] data d

def sendAs (opcode : Opcode) (data : Bytes) (d : Desk) : Work Desk := do
  let header ← of (front (UInt8.ofNat opcode.code) data.length)
  transmit [header, data] data d

def reply (data : Bytes) (d : Desk) : Work Desk :=
  if d.outlet.framed then sendAs .text data d else send data d

/-- Do one thing that a handler asks for. -/
def act (d : Desk) : Act → Work Desk
  | .send data => send data d
  | .reply data => reply data d
  | .frame data => sendAs .text data d
  | .pong data => sendAs .pong data d
  | .report => reply (Bytes.ofText d.hub.report) d
  | .shutdown => do
    let hub ← through (d.hub.shutdown d.id)
    pure { d with hub }
  | .stop => do
    let hub ← through d.hub.stop
    pure { d with hub }

def perform (d : Desk) : List Act → Work Desk
  | [] => pure d
  | a :: rest => do
    let d ← act d a
    perform d rest

theorem drain_eq (script : List Acceptance) (data : Bytes) (l : Link) :
    drain script data l = through (Outlet.drain script data l) := by
  induction script generalizing data l with
  | nil =>
    cases data with
    | nil => rfl
    | cons b data =>
      have hslice := slice_ok (Nat.le_refl (b :: data).length) (Nat.le_refl _)
      simp only [drain, Outlet.drain, hslice, of_ok_bind]
      split <;> rfl
  | cons a script ih =>
    cases data with
    | nil => rfl
    | cons b data =>
      simp only [drain, Outlet.drain]
      split
      · cases a with
        | shutdown => exact through_bind rfl (ih ..)
        | fault fault =>
          refine through_bind rfl ?_
          split
          · exact ih ..
          · rfl
        | upTo count =>
          have hslice : slice (b :: data) (min count (b :: data).length) (b :: data).length =
              .ok ((b :: data).drop (min count (b :: data).length)) := by
            rw [slice_ok (Nat.min_le_right ..) (Nat.le_refl _), List.take_length]
          refine through_bind rfl ?_
          simp only [hslice, of_ok_bind]
          split
          · rfl
          · exact ih ..
      · rfl

theorem drainAll_eq (parts : List Bytes) (script : List Acceptance) (l : Link) :
    drainAll parts script l = through (Outlet.drainAll parts script l) := by
  induction parts generalizing script l with
  | nil => rfl
  | cons part parts ih =>
    refine through_bind (drain_eq ..) ?_
    cases hf : (Outlet.drain script part l).value.failure with
    | none => exact ih ..
    | some fault => rfl

variable {d : Desk}

/-- The desk that some work leaves, with the events of it. -/
def left (w : Traced Desk.Worked) : Traced Desk := ⟨w.value.desk, w.events⟩

theorem transmit_eq (hr : d.outlet.released = false) (parts : List Bytes) (data : Bytes) :
    transmit parts data d = through (left (d.transmit (Outlet.transmit parts data))) := by
  rw [Desk.transmit_eq hr, transmit, if_neg (by simp [hr]), drainAll_eq]
  refine through_then rfl ?_
  exact through_pure rfl rfl

theorem sendAs_eq (hr : d.outlet.released = false) (opcode : Opcode) (data : Bytes) :
    sendAs opcode data d = through (left (d.transmit (Outlet.sendAs opcode data))) := by
  rw [sendAs, front_eq, of_ok_bind]
  exact transmit_eq hr _ _

theorem reply_eq (hr : d.outlet.released = false) (data : Bytes) :
    reply data d = through (left (d.transmit (Outlet.reply data))) := by
  cases hf : d.outlet.framed with
  | true =>
    have hreply : d.transmit (Outlet.reply data) = d.transmit (Outlet.sendFrame data) := by
      simp only [Desk.transmit, Outlet.reply, hf, if_true]
    rw [reply, hf, hreply]
    exact sendAs_eq hr _ _
  | false =>
    have hreply : d.transmit (Outlet.reply data) = d.transmit (Outlet.send data) := by
      simp only [Desk.transmit, Outlet.reply, hf, Bool.false_eq_true, if_false]
    rw [reply, hf, hreply]
    exact transmit_eq hr _ _

theorem act_eq (hr : d.outlet.released = false) (a : Act) : act d a = through (left (d.act a)) := by
  cases a with
  | send data => exact transmit_eq hr _ _
  | reply data => exact reply_eq hr _
  | frame data => exact sendAs_eq hr _ _
  | pong data => exact sendAs_eq hr _ _
  | report => exact reply_eq hr _
  | shutdown | stop => rfl

/-- **Nothing that a handler asks for is a lapse** while the outlet is not released. -/
theorem perform_eq (hr : d.outlet.released = false) (acts : List Act) :
    perform d acts = through (left (d.perform acts)) := by
  induction acts generalizing d with
  | nil => rfl
  | cons a rest ih =>
    -- what comes after this act finds the outlet as it was: no act releases it
    have hkept := Desk.kept_act hr a
    rw [Desk.perform_cons hr]
    exact through_then (act_eq hr a) (ih (hkept.released.trans hr))

/-! ### Callbacks -/

variable {s : Session σ}

def react (s : Session σ) (r : Reaction σ) : Work (Flow × Session σ) := do
  let desk ← perform s.desk r.acts
  pure (r.flow, { worker := { s.worker with state := r.state }, desk })

def greet (h : Handler σ) (request : Option Request) (s : Session σ) : Work (Flow × Session σ) := do
  through (record (.connected s.desk.id s.desk.link.status request))
  react s (h.connected s.worker.state request)

def deliver (h : Handler σ) (data : Bytes) (s : Session σ) : Work (Flow × Session σ) := do
  through (record (.message s.desk.id s.desk.link.status data))
  react s (h.message s.worker.state data)

theorem react_eq (hr : s.desk.outlet.released = false) (r : Reaction σ) :
    react s r = through (s.react r) := by
  rw [Session.react_eq hr]
  exact through_pure (perform_eq hr r.acts) rfl

theorem greet_eq (h : Handler σ) (hr : s.desk.outlet.released = false) (request : Option Request) :
    greet h request s = through (s.greet h request) :=
  through_bind rfl (react_eq hr _)

theorem deliver_eq (h : Handler σ) (hr : s.desk.outlet.released = false) (data : Bytes) :
    deliver h data s = through (s.deliver h data) :=
  through_bind rfl (react_eq hr _)

/-! ### The parts of a step -/

def start (h : Handler σ) (thread : Nat) (s : Session σ) : Work (Session σ) := do
  let s := { s with desk := s.desk.update s.desk.outlet { s.desk.link with thread } }
  through (note (.started s.desk.outlet.conn s.worker.mode))
  let s := { s with worker := { s.worker with phase := .serving } }
  match s.worker.mode with
  | .webSocket => pure s
  | .line => do
    let (flow, s) ← greet h none s
    pure (s.follow flow)

def dispatch (h : Handler σ) (data : Bytes) (s : Session σ) : Work (Session σ) := do
  let (flow, s) ← deliver h data { s with desk := s.desk.transition .running }
  pure (s.follow flow)

def changeOver (h : Handler σ) (s : Session σ) : Work (Session σ) := do
  let request := s.worker.upgrade.request
  let (flow, s) ← greet h (some request) s
  match flow with
  | .abort reason log => pure (s.conclude (some (.aborted reason log)))
  | .continue =>
    if request.upgrade then do
      let desk ← send (Bytes.ofText (switchingProtocols request.key)) s.desk
      through (note (.upgraded desk.outlet.conn request.path s.worker.upgrade.stage))
      pure { s with desk := { desk with outlet := { desk.outlet with framed := true } } }
    else pure (s.conclude (some (.violation .missingUpgrade)))

def request (h : Handler σ) (line : Bytes) (s : Session σ) : Work (Session σ) := do
  let (step, upgrade) ← of (feed s.worker.upgrade line)
  let s := { s with worker := { s.worker with upgrade } }
  match step with
  | .continue => pure s
  | .headersDone => changeOver h s
  | .reject cause => do
    let desk ← send notImplemented s.desk
    pure (Session.conclude { s with desk } (some (.violation cause)))

def line (h : Handler σ) (data rest : Bytes) (s : Session σ) : Work (Session σ) :=
  let s := { s with worker := { s.worker with buffer := rest } }
  match s.worker.mode with
  | .line => dispatch h data s
  | .webSocket => request h data s

def frame (h : Handler σ) (f : Frame) (rest : Bytes) (s : Session σ) : Work (Session σ) := do
  let s := { s with worker := { s.worker with buffer := rest } }
  through (note (.frame s.desk.outlet.conn f.opcode f.final f.payload.length))
  match f.opcode with
  | .ping => do
    let desk ← sendAs .pong f.payload s.desk
    pure { s with desk }
  | .pong => pure s
  | _ => dispatch h f.payload s

/-- One read, into zeros that the buffer is grown by; what was not read into is cut off again. -/
def fill (s : Session σ) : Work (Session σ) := do
  let desk := s.desk.transition .waiting
  let start := s.worker.buffer.length
  let size ← of (add start s.worker.room)
  let grown ← of (grow s.worker.buffer size)
  let window ← of (slice grown start grown.length)
  let r ← through (Inlet.read window.length s.worker.arrivals desk.link)
  let desk := desk.update desk.outlet r.link
  let data := r.outcome.toOption.getD []
  let stop ← of (add start data.length)
  let filled ← of (overwrite grown start stop data)
  let worker := { s.worker with arrivals := r.left, buffer := filled.take stop }
  match r.outcome with
  | .ok data =>
    if data.isEmpty then pure { worker := { worker with drained := true }, desk }
    else pure { worker := { worker with faults := 0 }, desk }
  | .error fault =>
    if fault.isInterrupted then pure { worker, desk }
    else if fault.isTeardown || desk.link.status.isClosing then
      if desk.outlet.framed then
        pure { worker :=
          { worker with drained := true, phase := .finished (some (.teardown fault)) }, desk }
      else do
        through (note (.readEnded desk.outlet.conn fault))
        pure { worker := { worker with drained := true }, desk }
    else do
      through (note (.readFailed desk.outlet.conn fault))
      let faults ← of (add worker.faults 1)
      if maxFaults ≤ faults then
        pure { worker :=
          { worker with faults, phase := .finished (some (.exhausted fault)) }, desk }
      else pure { worker := { worker with faults }, desk }

/-- The first frame of the buffer, or a read. -/
def serveFrames (h : Handler σ) (s : Session σ) : Work (Session σ) := do
  match ← of (parse s.worker.buffer) with
  | .complete f size => do
    let rest ← of (advance s.worker.buffer size)
    frame h f rest s
  | .incomplete => if s.worker.drained then pure (s.conclude none) else fill s
  | .close => pure (s.conclude (some .peerClosed))
  | .violation cause => pure (s.conclude (some (.violation cause)))

/-- The first line of the buffer, what an ended stream leaves in it, or a read. -/
def serveLines (h : Handler σ) (s : Session σ) : Work (Session σ) :=
  match Telnet.boundary s.worker.buffer with
  | some boundary => do
    let (data, rest) ← of (takeLine s.worker.buffer boundary)
    line h data rest s
  | none =>
    if s.worker.drained then
      match Telnet.remainder s.worker.buffer with
      | some data => line h data [] s
      | none => pure (s.conclude none)
    else fill s

theorem start_eq (h : Handler σ) (thread : Nat) (hr : s.desk.outlet.released = false) :
    start h thread s = through (s.start h thread) := by
  simp only [start, Session.start]
  refine through_bind rfl ?_
  cases s.worker.mode with
  | webSocket => rfl
  | line =>
    refine through_bind (greet_eq h ?_ none) ?_
    · exact hr
    · rfl

theorem dispatch_eq (h : Handler σ) (hr : s.desk.outlet.released = false) (data : Bytes) :
    dispatch h data s = through (s.dispatch h data) :=
  through_bind (deliver_eq (s := ⟨s.worker, s.desk.transition .running⟩) h hr data) rfl

theorem changeOver_eq (h : Handler σ) (hr : s.desk.outlet.released = false)
    (hs : s.worker.phase = .serving) :
    changeOver h s = through (s.changeOver h) := by
  let r := h.connected s.worker.state (some s.worker.upgrade.request)
  let reply := Bytes.ofText (switchingProtocols s.worker.upgrade.request.key)
  have hkept := Desk.kept_perform hr r.acts
  have hgreet :=
    (greet_eq h hr (some s.worker.upgrade.request)).trans
      (congrArg through (Session.greet_eq h hr _))
  have hsent := transmit_eq (hkept.released.trans hr) [reply] reply
  rw [Session.changeOver_eq h hr hs, changeOver]
  cases hflow : (h.connected s.worker.state (some s.worker.upgrade.request)).flow with
  | abort reason log =>
    refine through_pure hgreet ?_
    simp only [hflow, Session.conclude, hs]
  | «continue» =>
    by_cases hup : s.worker.upgrade.request.upgrade = true
    · simp only [if_pos hup]
      rw [List.append_assoc]
      refine through_then hgreet ?_
      simp only [hflow]
      refine through_then hsent (through_pure rfl ?_)
      rfl
    · simp only [if_neg hup]
      refine through_pure hgreet ?_
      simp only [hflow, Session.conclude, hs]

theorem request_eq (h : Handler σ) (hr : s.desk.outlet.released = false)
    (hs : s.worker.phase = .serving) (data : Bytes) :
    request h data s = through (s.request h data) := by
  have hsent := transmit_eq hr [notImplemented] notImplemented
  rw [Session.request_eq h hr hs, request, feed_eq, of_ok_bind]
  dsimp only
  cases (s.worker.upgrade.feed data).1 with
  | «continue» => rfl
  | headersDone => exact changeOver_eq h hr hs
  | reject cause =>
    refine through_pure hsent ?_
    simp only [Session.conclude, hs]
    rfl

theorem line_eq (h : Handler σ) (hr : s.desk.outlet.released = false)
    (hs : s.worker.phase = .serving) (data rest : Bytes) :
    line h data rest s = through (s.line h data rest) := by
  unfold line
  dsimp only
  split
  · rw [Session.line_line h ‹_›]
    exact dispatch_eq (s := ⟨{ s.worker with buffer := rest }, s.desk⟩) h hr data
  · rw [Session.line_webSocket h ‹_›]
    exact request_eq (s := ⟨{ s.worker with buffer := rest }, s.desk⟩) h hr hs data

theorem frame_eq (h : Handler σ) (hr : s.desk.outlet.released = false) (f : Frame) (rest : Bytes) :
    frame h f rest s = through (s.frame h f rest) := by
  obtain ⟨opcode, final, mask, payload⟩ := f
  refine through_bind rfl ?_
  cases opcode with
  | ping =>
    have hsent := Session.transmit_eq (s := ⟨{ s.worker with buffer := rest }, s.desk⟩) hr
      [Frame.header (UInt8.ofNat Opcode.pong.code) payload.length, payload] payload
    refine Eq.trans ?_ (congrArg through hsent.symm)
    exact through_pure (sendAs_eq hr .pong payload) rfl
  | pong => rfl
  | _ => exact dispatch_eq (s := ⟨{ s.worker with buffer := rest }, s.desk⟩) h hr payload

/-- A read brings no more than it has room for. -/
theorem length_await (room : Nat) (arrivals : List Arrival) (l : Link) :
    ((Inlet.await room arrivals l).value.outcome.toOption.getD []).length ≤ room := by
  induction arrivals generalizing l with
  | nil => exact Nat.zero_le _
  | cons a rest ih =>
    cases a with
    | shutdown => exact ih l.shutdown.value
    | finish | fault => exact Nat.zero_le _
    | data chunk => exact List.length_take_le ..

theorem fill_eq (hfits : s.worker.buffer.length + s.worker.room ≤ memory)
    (hfew : s.worker.faults < maxFaults) :
    fill s = through s.fill := by
  have hword : s.worker.buffer.length + s.worker.room < word := Nat.lt_of_le_of_lt hfits (by decide)
  have hgrow : grow s.worker.buffer (s.worker.buffer.length + s.worker.room) =
      .ok (s.worker.buffer ++ List.replicate s.worker.room 0) := by
    rw [grow_ok hfits, Nat.add_sub_cancel_left]
  have hwindow : ∀ window : Bytes, slice (s.worker.buffer ++ window) s.worker.buffer.length
      (s.worker.buffer ++ window).length = .ok window := by
    intro window
    rw [slice_ok (by simp) (Nat.le_refl _), List.take_length, List.drop_left]
  have hread := length_await s.worker.room s.worker.arrivals (s.desk.transition .waiting).link
  simp only [fill, Session.fill, add_ok hword, hgrow, hwindow, of_ok_bind, List.length_replicate]
  refine through_bind rfl ?_
  have hvalue : (Inlet.read s.worker.room s.worker.arrivals
      (s.desk.transition .waiting).link).value =
      (Inlet.await s.worker.room s.worker.arrivals (s.desk.transition .waiting).link).value := rfl
  rw [hvalue]
  generalize (Inlet.await s.worker.room s.worker.arrivals (s.desk.transition .waiting).link).value =
    r at hread ⊢
  obtain ⟨outcome, rest, l⟩ := r
  dsimp only at hread
  have hstop : add s.worker.buffer.length (outcome.toOption.getD []).length =
      .ok (s.worker.buffer.length + (outcome.toOption.getD []).length) := add_ok (by omega)
  obtain ⟨filled, hcopied, hcut⟩ := overwrite_zeros s.worker.buffer hread
  simp only [hstop, hcopied, hcut, of_ok_bind]
  cases outcome with
  | ok data =>
    cases data with
    | nil => simp [Except.toOption, pure_eq]
    | cons b data => rfl
  | error fault =>
    have hborne : add s.worker.faults 1 = .ok (s.worker.faults + 1) :=
      add_ok (Nat.lt_of_le_of_lt hfew (by decide))
    simp only [Except.toOption, Option.getD_none, List.append_nil, hborne, of_ok_bind]
    split
    · rfl
    · split
      · split
        · rfl
        · exact through_bind rfl rfl
      · refine through_bind rfl ?_
        split <;> rfl

theorem serveFrames_eq (h : Handler σ) (hr : s.desk.outlet.released = false)
    (hfits : s.worker.buffer.length + s.worker.room ≤ memory)
    (hfew : s.worker.drained = false → s.worker.faults < maxFaults) :
    serveFrames h s = through (s.serveFrames h) := by
  rw [Session.serveFrames_eq, serveFrames, parse_eq (Nat.le_trans (Nat.le_add_right ..) hfits),
    of_ok_bind]
  cases hp : Frame.parse s.worker.buffer with
  | complete f size =>
    simp only [advance_ok (Frame.size_of_parse hp).2, of_ok_bind]
    exact frame_eq h hr f _
  | incomplete =>
    cases hd : s.worker.drained with
    | true => rfl
    | false => exact fill_eq hfits (hfew hd)
  | close | violation => rfl

theorem serveLines_eq (h : Handler σ) (hr : s.desk.outlet.released = false)
    (hs : s.worker.phase = .serving) (hfits : s.worker.buffer.length + s.worker.room ≤ memory)
    (hfew : s.worker.drained = false → s.worker.faults < maxFaults) :
    serveLines h s = through (s.serveLines h) := by
  unfold serveLines Session.serveLines
  cases hb : Telnet.boundary s.worker.buffer with
  | some boundary =>
    obtain ⟨⟨data, rest⟩, hcut, htaken⟩ := takeLine_eq hb (Nat.le_trans (Nat.le_add_right ..) hfits)
    simp only [hcut, htaken, of_ok_bind]
    exact line_eq h hr hs data rest
  | none =>
    cases hd : s.worker.drained with
    | false => exact fill_eq hfits (hfew hd)
    | true =>
      cases Telnet.remainder s.worker.buffer with
      | some data => exact line_eq h hr hs data []
      | none => rfl

/-! ### Lives -/

/-- What a misuse of the outlet or of the buffer is. -/
def lapse : Misuse → Lapse
  | .released conn => .released conn
  | .pastBuffer index size => .badAdvance index size

/-- One step, on a thread. -/
def step (h : Handler σ) (thread : Nat) (s : Session σ) : Work (Session σ) :=
  match s.worker.phase with
  | .fresh => start h thread s
  | .serving => if s.desk.outlet.framed then serveFrames h s else serveLines h s
  | .finished cause => do
    through (note (.ended s.desk.outlet.conn cause))
    through (s.takeDown none)
  | .broken misuse => of (.error (lapse misuse))
  | .gone _ => pure s

/-- What an occasion comes to. -/
def meet (h : Handler σ) (s : Session σ) : Occasion → Work (Session σ)
  | .ask => through s.ask
  | .work thread => step h thread s
  | .drop =>
    match s.worker.phase with
    | .fresh => through s.discard
    | _ => pure s

/-- A connection's life, one occasion after another, up to a lapse. -/
def life (h : Handler σ) : List Occasion → Session σ → Work (Session σ)
  | [], s => pure s
  | occasion :: rest, s => do
    let s ← meet h s occasion
    life h rest s

end Checked

namespace Session
open Checked

variable {h : Handler σ} {mode : Mode} {id conn : Nat} {hook : Hook} {past : List Event}
  {t : Transport} {s : Session σ}

/-- The receive buffer and one read more fit into memory. -/
def Fits (s : Session σ) : Prop := s.worker.buffer.length + s.worker.room ≤ memory

/-- They do before each occasion of a life. -/
def Spacious (h : Handler σ) : List Occasion → Session σ → Prop
  | [], _ => True
  | occasion :: rest, s => s.Fits ∧ Spacious h rest (s.meet h occasion).value

/-- **No step lapses**: what has been read fits into memory, few reads have failed in a row, and the
outlet is not released before the end. -/
theorem checked_meet (occasion : Occasion) (hl : Living id conn hook past s)
    (ha : Account h mode t id past s) (hfits : s.Fits) :
    Checked.meet h s occasion = through (s.meet h occasion) := by
  cases occasion with
  | ask => rfl
  | drop =>
    simp only [Checked.meet, Session.meet]
    cases s.worker.phase with
    | _ => rfl
  | work thread =>
    show Checked.step h thread s = through (s.step h thread)
    unfold Checked.step Session.step
    cases hl with
    | gone misuse _ hphase =>
      rw [hphase]
      rfl
    | held hh hphase =>
      have hr := hh.ready.unreleased
      rcases hphase with hphase | hphase | ⟨cause, hphase⟩
      · rw [hphase]
        exact Checked.start_eq h thread hr
      · -- a worker that serves on has borne fewer failed reads than it gives up at
        have hfew := ha.borne (by rw [hphase]; exact Nat.le_refl 2)
        rw [hphase]
        dsimp only
        split
        · exact Checked.serveFrames_eq h hr hfits hfew
        · exact Checked.serveLines_eq h hr hphase hfits hfew
      · rw [hphase]
        exact through_bind rfl rfl

theorem checked_life (occasions : List Occasion) (hl : Living id conn hook past s)
    (ha : Account h mode t id past s) (hfits : s.Spacious h occasions) :
    Checked.life h occasions s = through (s.life h occasions) := by
  induction occasions generalizing past s with
  | nil => rfl
  | cons occasion rest ih =>
    exact through_bind (checked_meet occasion hl ha hfits.1)
      (ih (living_meet h occasion hl) (account_meet occasion hl ha) hfits.2)

/-- Where all that arrives fits into memory, with one read more, there is room at any time. -/
theorem spacious (occasions : List Occasion) (hl : Living id conn hook past s)
    (ha : Account h mode t id past s) (hfits : Inlet.weight t.arrivals + s.worker.room ≤ memory) :
    s.Spacious h occasions := by
  induction occasions generalizing past s with
  | nil => trivial
  | cons occasion rest ih =>
    have hsize := (bills_meet h occasion hl).config.2
    have hbuffer := ha.balance
    have hreceived := ha.received
    refine ⟨?_, ih (living_meet h occasion hl) (account_meet occasion hl ha) ?_⟩
    · -- what is in the buffer was received, and no more is received than arrives
      show _ + _ ≤ _
      omega
    · rw [Worker.room, hsize]
      exact hfits

/-- **No input stops a worker.** Whatever arrives at a connection and however it is cut up, whatever
its handler sends and its transport takes, and whenever someone asks for its end: as long as the
receive buffer and one read more fit into memory, its life and its run go through place by place to
their end. -/
theorem unfailing (h : Handler σ) (thread : Nat) {hub : Hub} (hs : hub.Sound) {readSize : Nat}
    {state : σ} {started : Int} (ha : accept? mode readSize state t { started } hub = some s)
    (occasions : List Occasion)
    (hfits : ∀ count, s.Spacious h (occasions ++ List.replicate count (.work thread))) :
    let lived := s.life h occasions
    let ran := lived.value.run h thread
    ran.value.worker.phase = .gone none ∧
      ∃ count, ran = lived.value.life h (List.replicate count (.work thread)) ∧
        Checked.life h (occasions ++ List.replicate count (.work thread)) s =
          through ⟨ran.value, lived.events ++ ran.events⟩ := by
  intro lived ran
  have hliving := living_of_accept? hs ha
  have haccepted := accepted_of_accept? hs ha
  have hlived := living_life h occasions hliving
  obtain ⟨count, hcount⟩ := run_eq_life h thread lived.value
  refine ⟨gone_run h thread hlived (whole_life h occasions hliving haccepted.whole), count,
    hcount, ?_⟩
  rw [checked_life _ hliving (haccepted.account h (script_of_accept? ha)) (hfits count),
    life_append, ← hcount]

/-- A client announces a frame of two to the fortieth bytes and goes away; it is asked to end while
its answer is written. -/
theorem unfailing_announced :
    let hub : Hub := { capacity := 1 }
    let h := Shell.handler { prompt := "> ", mode := .webSocket }
    let t : Transport :=
      { arrivals := [.data (Bytes.ofText "GET / HTTP/1.1\r\nUpgrade: websocket\r\n\r\n"),
          .data [0x81, 0xFF, 0, 0, 1, 0, 0, 0, 0, 0, 1, 2, 3, 4], .finish]
        acceptances := [.upTo 1, .shutdown] }
    hub.Sound ∧ ∃ s, accept? .webSocket 16 () t { started := 0 } hub = some s ∧
      (∀ count, s.Spacious h ([.work 1] ++ List.replicate count (.work 1))) ∧
      let lived := s.life h [.work 1]
      let ran := lived.value.run h 1
      ran.value.worker.phase = .gone none ∧
        ∃ count, ran = lived.value.life h (List.replicate count (.work 1)) ∧
          Checked.life h ([.work 1] ++ List.replicate count (.work 1)) s =
            through ⟨ran.value, lived.events ++ ran.events⟩ := by
  intro hub h t
  have hs : hub.Sound := Hub.sound_empty 1
  have hfits : ∀ s, accept? .webSocket 16 () t { started := 0 } hub = some s →
      ∀ count, s.Spacious h ([.work 1] ++ List.replicate count (.work 1)) := by
    intro s ha count
    have haccepted := accepted_of_accept? hs ha
    refine spacious _ (living_of_accept? hs ha) (haccepted.account h (script_of_accept? ha)) ?_
    rw [haccepted.worker]
    exact Nat.le_of_ble_eq_true rfl
  exact ⟨hs, _, rfl, hfits _ rfl, unfailing h 1 hs rfl [.work 1] (hfits _ rfl)⟩

end Session
end NetShell
