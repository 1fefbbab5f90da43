import NetShell.Proofs.Callbacks
import NetShell.Proofs.Outbound

/-! How much a connection can do.

Everything that a worker does is paid for. A message takes at least one byte out of the buffer,
and a frame at least six; a read takes something from what is to arrive or finds the end of the
stream, after which there is none; a write takes something from the transport's script, or is
the last one of its part. So however a connection's life goes, what is still to arrive bounds
its steps, its reads and its messages, and with the transport's script its writes
(`Session.run_bounded`). -/
namespace NetShell
open WebSocket Event

variable {σ : Type}

/-- The least number of bytes that a message takes out of the buffer: one ends a line, and six are
in front of a frame's payload. -/
def Mode.least : Mode → Nat
  | .line => 1
  | .webSocket => 6

/-- A handler that asks for at most so many things in one callback. -/
structure Handler.Within (most : Nat) (h : Handler σ) : Prop where
  connected : ∀ state request, (h.connected state request).acts.length ≤ most
  message : ∀ state data, (h.message state data).acts.length ≤ most

/-! ### Counting reads and writes -/

namespace Event

def isReading : Event → Bool
  | .read .. => true
  | _ => false

/-- How many reads there were. -/
def reads (events : List Event) : Nat := events.countP isReading

/-- How many writes there were. -/
def writes (events : List Event) : Nat := events.countP isWrite

@[simp] theorem reads_nil : reads [] = 0 := rfl
@[simp] theorem writes_nil : writes [] = 0 := rfl

@[simp] theorem reads_append (a b : List Event) : reads (a ++ b) = reads a + reads b :=
  List.countP_append

@[simp] theorem writes_append (a b : List Event) : writes (a ++ b) = writes a + writes b :=
  List.countP_append

theorem reads_of_isRead {events : List Event} (h : ∀ e ∈ events, e.isRead = false) :
    reads events = 0 := by
  rw [reads, List.countP_eq_zero]
  intro e he
  have := h e he
  cases e with
  | read => cases this
  | _ => simp [isReading]

theorem writes_of_isWrite {events : List Event} (h : ∀ e ∈ events, e.isWrite = false) :
    writes events = 0 := by
  rw [writes, List.countP_eq_zero]
  intro e he
  simp [h e he]

theorem isWrite_of_isDestroyed {e : Event} (h : e.isDestroyed = true) : e.isWrite = false := by
  cases e with
  | write => cases h
  | _ => rfl

/-- A handler is told of each message it is given. -/
theorem messages_callbacks (events : List Event) :
    messages events = (callbacks events).filterMap fun
      | .message data => some data
      | .connected _ => none := by
  rw [messages, callbacks, List.filterMap_filterMap]
  refine congrArg (events.filterMap ·) (funext fun e => ?_)
  cases e with
  | _ => rfl

end Event

/-! ### Writes -/

namespace Outlet

/-- A part takes a write more than it takes from the script, at most. -/
theorem writes_drain (script : List Acceptance) (data : Bytes) (l : Link) :
    writes (drain script data l).events + (drain script data l).value.left.length ≤
      script.length + 1 := by
  have hone : ∀ outcome, writes [.write l.id data outcome] = 1 := fun _ => rfl
  induction script generalizing data l with
  | nil =>
    cases data with
    | nil => exact Nat.le_succ 0
    | cons b data =>
      cases ho : l.isOpen <;> simp [drain, ho, hone]
  | cons a script ih =>
    cases data with
    | nil => simp [drain]
    | cons b data =>
      cases ho : l.isOpen with
      | false => simp [drain, ho, hone, Nat.add_comm]
      | true =>
        have hbound : l.hook = none → l.torn = true := fun hh => by simp [Link.isOpen, hh] at ho
        cases a with
        | shutdown =>
          have hasked :=
            writes_of_isWrite fun e he => isWrite_of_isFarewell
              (Link.isFarewell_of_shutdown hbound e he)
          have hrest := ih (b :: data) l.shutdown.value fun _ => rfl
          simp only [drain, ho, if_true, Traced.value_bind, Traced.events_bind, writes_append,
            hasked, List.length_cons]
          omega
        | fault fault =>
          have hrest := ih (b :: data) l hone
          simp only [drain, ho, if_true, Traced.value_bind, Traced.events_bind,
            Traced.events_record]
          cases hi : fault.isInterrupted with
          | true =>
            simp only [writes_append, hone, if_true, List.length_cons]
            omega
          | false =>
            simp only [writes_append, hone, Bool.false_eq_true, if_false, Traced.value_pure,
              Traced.events_pure, writes_nil, List.length_cons]
            omega
        | upTo count =>
          have hrest := ih ((b :: data).drop (min count (b :: data).length)) l fun _ => rfl
          simp only [drain, ho, if_true, Traced.value_bind, Traced.events_bind,
            Traced.events_record]
          split
          · simp only [writes_append, hone, Traced.value_pure, Traced.events_pure, writes_nil,
              List.length_cons]
            omega
          · simp only [writes_append, hone, List.length_cons] at hrest ⊢
            omega

/-- A message takes a write more for each of its parts than it takes from the script, at most. -/
theorem writes_drainAll (parts : List Bytes) (script : List Acceptance) (l : Link) :
    writes (drainAll parts script l).events + (drainAll parts script l).value.left.length ≤
      script.length + parts.length := by
  induction parts generalizing script l with
  | nil => exact Nat.le_of_eq (Nat.zero_add _)
  | cons part parts ih =>
    have hpart := writes_drain script part l
    simp only [drainAll, Traced.value_bind, Traced.events_bind, writes_append, List.length_cons]
    split
    · have hrest := ih (drain script part l).value.left (drain script part l).value.link
      omega
    · simp only [Traced.value_pure, Traced.events_pure, writes_nil]
      omega

theorem isWrite_of_noteFailure (conn : Nat) (data : Bytes) (failure : Option Fault) :
    ∀ e ∈ (noteFailure conn data failure).events, e.isWrite = false := by
  rw [noteFailure_eq]
  exact List.forall_mem_map.2 fun _ _ => rfl

end Outlet

namespace Desk

variable {d d' d'' : Desk}

/-- Some work at a desk that reads nothing, gives no message, and makes at most so many writes more
than it takes from the script. -/
structure Costs (count : Nat) (d : Desk) (events : List Event) (d' : Desk) : Prop where
  unread : ∀ e ∈ events, e.isRead = false
  silent : messages events = []
  writes : writes events + d'.outlet.script.length ≤ d.outlet.script.length + count

theorem Costs.trans {count count' : Nat} {events events' : List Event} (h : Costs count d events d')
    (h' : Costs count' d' events' d'') : Costs (count + count') d (events ++ events') d'' where
  unread := List.forall_mem_append.2 ⟨h.unread, h'.unread⟩
  silent := by rw [messages_append, h.silent, h'.silent, List.append_nil]
  writes := by
    have := h.writes
    have := h'.writes
    rw [writes_append]
    omega

theorem Costs.mono {count count' : Nat} {events : List Event} (h : Costs count d events d')
    (hle : count ≤ count') :
    Costs count' d events d' :=
  ⟨h.unread, h.silent, Nat.le_trans h.writes (Nat.add_le_add_left hle _)⟩

/-- An event that is no read, no message and no write costs nothing. -/
theorem costs_event {e : Event} (hread : e.isRead = false) (hgiven : messages [e] = [])
    (hwrite : e.isWrite = false) (ho : d'.outlet.script = d.outlet.script) : Costs 0 d [e] d' where
  unread := List.forall_mem_singleton.2 hread
  silent := hgiven
  writes := by rw [writes_of_isWrite (List.forall_mem_singleton.2 hwrite), ho]; omega

/-- The end of transports costs nothing. -/
theorem costs_farewell {events : List Event} (h : ∀ e ∈ events, e.isFarewell = true)
    (ho : d'.outlet.script = d.outlet.script) : Costs 0 d events d' where
  unread := fun e he => isRead_of_isFarewell (h e he)
  silent := messages_of_quiet fun e he => isInput_of_isFarewell (h e he)
  writes := by rw [writes_of_isWrite fun e he => isWrite_of_isFarewell (h e he), ho]; omega

theorem costs_transmit (hr : d.Ready) (parts : List Bytes) (data : Bytes) :
    Costs parts.length d (d.transmit (Outlet.transmit parts data)).events
      (d.transmit (Outlet.transmit parts data)).value.desk := by
  have hmoves := moves_transmit hr parts data
  refine ⟨hmoves.each (fun _ => isRead_of_isOutput) (fun _ => isRead_of_isFarewell) hr,
    messages_of_quiet (hmoves.quiet (fun _ => isInput_of_isOutput) hr), ?_⟩
  have hparts := Outlet.writes_drainAll parts d.outlet.script d.link
  have hnoted := writes_of_isWrite (Outlet.isWrite_of_noteFailure d.outlet.conn data
    (Outlet.drainAll parts d.outlet.script d.link).value.failure)
  rw [transmit_eq hr.unreleased]
  simp only [writes_append, hnoted, outlet_update]
  omega

theorem costs_act (hr : d.Ready) (a : Act) : Costs 2 d (d.act a).events (d.act a).value.desk := by
  rcases act_cases d a with ⟨parts, data, hparts, h⟩ | ⟨hub, rfl | rfl, h⟩
  · rw [h]
    exact (costs_transmit hr parts data).mono hparts
  · rw [h, Hub.shutdown_eq]
    have hasked := Link.isFarewell_of_shutdown (hr.sound.link_bound hr.known)
    exact Costs.mono (costs_farewell (d := d) hasked rfl) (Nat.zero_le 2)
  · rw [h]
    have hmoves := moves_act hr a
    rw [h] at hmoves
    have hquiet : ∀ e ∈ d.hub.stop.events, e.isWrite = false := by
      intro e he
      rcases Hub.stop_cases hr.sound e he with hfarewell | ⟨n, rfl⟩
      · exact isWrite_of_isFarewell hfarewell
      · rfl
    refine ⟨hmoves.each (fun _ => isRead_of_isOutput) (fun _ => isRead_of_isFarewell) hr,
      messages_of_quiet (hmoves.quiet (fun _ => isInput_of_isOutput) hr), ?_⟩
    rw [writes_of_isWrite hquiet]
    show 0 + d.outlet.script.length ≤ d.outlet.script.length + 2
    omega

/-- **Each thing that a handler asks for makes two writes more than it takes from the script, at
most.** -/
theorem costs_perform (hr : d.Ready) (acts : List Act) :
    Costs (2 * acts.length) d (d.perform acts).events (d.perform acts).value.desk := by
  induction acts generalizing d with
  | nil => exact costs_farewell (List.forall_mem_nil _) rfl
  | cons a rest ih =>
    have hone := costs_act hr a
    have hrest := ih ((moves_act hr a).ready hr)
    rw [perform_cons hr.unreleased]
    exact (hone.trans hrest).mono (by rw [List.length_cons]; omega)

end Desk

namespace Session

variable {h : Handler σ} {mode : Mode} {id conn : Nat} {hook : Hook} {past : List Event}
  {s : Session σ}

/-! ### What a step takes -/

/-- What dealing with something out of the buffer comes to: no read, so many messages at most, and
a few writes more than are taken from the script. -/
structure Deals (count : Nat) (h : Handler σ) (s : Session σ) (t : Traced (Session σ)) : Prop where
  unread : ∀ e ∈ t.events, e.isRead = false
  worker : Worker.Keeps s.worker t.value.worker
  config : t.value.worker.mode = s.worker.mode ∧ t.value.worker.readSize = s.worker.readSize
  faults : t.value.worker.faults = s.worker.faults
  given : (messages t.events).length ≤ count
  writes : ∀ most, h.Within most →
    writes t.events + t.value.desk.outlet.script.length ≤
      s.desk.outlet.script.length + 2 * (most + 1)

/-- Work that costs no more than a callback and an answer. -/
theorem Deals.of_costs {t : Traced (Session σ)} {cost : Nat}
    (hc : Desk.Costs cost s.desk t.events t.value.desk) (hw : Worker.Keeps s.worker t.value.worker)
    (hconfig : t.value.worker.mode = s.worker.mode ∧ t.value.worker.readSize = s.worker.readSize)
    (hfaults : t.value.worker.faults = s.worker.faults)
    (hmost : ∀ most, h.Within most → cost ≤ 2 * (most + 1)) : Deals 0 h s t :=
  ⟨hc.unread, hw, hconfig, hfaults, Nat.le_of_eq (congrArg List.length hc.silent), fun most hm =>
    Nat.le_trans hc.writes (Nat.add_le_add_left (hmost most hm) _)⟩

theorem deals_dispatch (h : Handler σ) (hr : s.desk.Ready) (hs : s.worker.phase = .serving)
    (data : Bytes) :
    Deals 1 h s (s.dispatch h data) := by
  have hkeeps := keeps_dispatch h data s
  have hready := (Desk.moves_transition isWork s.desk .running rfl).ready hr
  have hcosts := Desk.costs_perform hready (h.message s.worker.state data).acts
  rw [dispatch_eq h hr.unreleased hs] at hkeeps ⊢
  refine ⟨List.forall_mem_cons.2 ⟨rfl, hcosts.unread⟩, hkeeps, ⟨rfl, rfl⟩, rfl, ?_,
    fun most hmost => ?_⟩
  · rw [← List.singleton_append, messages_append, hcosts.silent]
    exact Nat.le_refl 1
  · have hacts := hmost.message s.worker.state data
    refine Nat.le_trans ?_ (Nat.le_trans hcosts.writes (Nat.add_le_add_left ?_ _))
    · rw [← List.singleton_append, writes_append]
      exact Nat.le_of_eq (congrArg (· + _) (Nat.zero_add _))
    · omega

/-- At the end of a header the handler is told of the connection, and the answer is one part. -/
theorem deals_changeOver (h : Handler σ) (hr : s.desk.Ready) (hs : s.worker.phase = .serving) :
    Deals 0 h s (s.changeOver h) := by
  let request := s.worker.upgrade.request
  let acts := (h.connected s.worker.state (some request)).acts
  let reply := Bytes.ofText (switchingProtocols request.key)
  have hkeeps := keeps_changeOver h s
  have htold : Desk.Costs 0 s.desk [.connected s.desk.id s.desk.link.status (some request)]
      s.desk :=
    Desk.costs_event rfl rfl rfl rfl
  have hgreeted := htold.trans (Desk.costs_perform hr acts)
  have hsent := Desk.costs_transmit ((Desk.moves_perform hr acts).ready hr) [reply] reply
  have hmost : ∀ most, h.Within most → acts.length ≤ most := fun most hmost => hmost.connected _ _
  rw [changeOver_eq h hr.unreleased hs] at hkeeps ⊢
  generalize hflow : (h.connected s.worker.state (some s.worker.upgrade.request)).flow =
    flow at hkeeps ⊢
  cases flow with
  | abort reason log =>
    refine .of_costs hgreeted hkeeps ⟨rfl, rfl⟩ rfl fun most hm => ?_
    have := hmost most hm
    omega
  | «continue» =>
    by_cases hup : s.worker.upgrade.request.upgrade = true
    · simp only [if_pos hup] at hkeeps ⊢
      refine .of_costs ((hgreeted.trans hsent).trans (Desk.costs_event rfl rfl rfl rfl)) hkeeps
        ⟨rfl, rfl⟩ rfl fun most hm => ?_
      have := hmost most hm
      simp only [List.length_cons, List.length_nil]
      omega
    · simp only [if_neg hup] at hkeeps ⊢
      exact .of_costs hgreeted hkeeps ⟨rfl, rfl⟩ rfl fun most hm => by have := hmost most hm; omega

theorem deals_request (h : Handler σ) (hr : s.desk.Ready) (hs : s.worker.phase = .serving)
    (line : Bytes) :
    Deals 0 h s (s.request h line) := by
  have hkeeps := keeps_request h line s
  rw [request_eq h hr.unreleased hs] at hkeeps ⊢
  generalize (s.worker.upgrade.feed line).1 = fed at hkeeps ⊢
  cases fed with
  | «continue» =>
    exact .of_costs (Desk.costs_farewell (List.forall_mem_nil _) rfl)
      ⟨rfl, rfl, rfl, Nat.le_max_right ..⟩ ⟨rfl, rfl⟩ rfl
      fun most _ => Nat.zero_le _
  | headersDone =>
    have hdone :=
      deals_changeOver (s := ⟨{ s.worker with upgrade := (s.worker.upgrade.feed line).2 }, s.desk⟩)
        h hr hs
    exact ⟨hdone.unread, hkeeps, hdone.config, hdone.faults, hdone.given, hdone.writes⟩
  | reject cause =>
    exact .of_costs (Desk.costs_transmit hr [notImplemented] notImplemented) hkeeps ⟨rfl, rfl⟩ rfl
      fun most _ => by
      simp only [List.length_cons, List.length_nil]
      omega

theorem deals_frame (h : Handler σ) (hr : s.desk.Ready) (hs : s.worker.phase = .serving)
    (f : Frame) :
    Deals 1 h s (s.frame h f s.worker.buffer) := by
  have hkeeps := keeps_frame h f s.worker.buffer s
  have hnoted : ∀ opcode, Desk.Costs 0 s.desk
      [.log (.frame s.desk.outlet.conn opcode f.final f.payload.length)] s.desk := fun _ =>
    Desk.costs_event rfl rfl rfl rfl
  by_cases hping : f.opcode = .ping
  · rw [frame_ping h hr.unreleased hping] at hkeeps ⊢
    have hsent := (hnoted .ping).trans (Desk.costs_transmit hr
      [Frame.header (UInt8.ofNat Opcode.pong.code) f.payload.length, f.payload] f.payload)
    have hzero := Deals.of_costs (h := h) hsent hkeeps ⟨rfl, rfl⟩ rfl fun most _ => by
      simp only [List.length_cons, List.length_nil]
      omega
    exact ⟨hzero.unread, hzero.worker, hzero.config, hzero.faults, Nat.le_succ_of_le hzero.given,
      hzero.writes⟩
  · by_cases hpong : f.opcode = .pong
    · rw [frame_pong h hpong] at hkeeps ⊢
      have hzero :=
        Deals.of_costs (h := h) (hnoted .pong) hkeeps ⟨rfl, rfl⟩ rfl fun most _ => Nat.zero_le _
      exact ⟨hzero.unread, hzero.worker, hzero.config, hzero.faults, Nat.le_succ_of_le hzero.given,
        hzero.writes⟩
    · have hgiven := deals_dispatch h hr hs f.payload
      rw [frame_other h hping hpong]
      exact ⟨List.forall_mem_cons.2 ⟨rfl, hgiven.unread⟩, hgiven.worker, hgiven.config,
        hgiven.faults, hgiven.given, fun most hm => by
        rw [← List.singleton_append, writes_append]
        exact Nat.le_trans (Nat.le_of_eq (congrArg (· + _) (Nat.zero_add _)))
          (hgiven.writes most hm)⟩

theorem deals_start (h : Handler σ) (thread : Nat) (hr : s.desk.Ready) :
    Deals 0 h ⟨{ s.worker with phase := .serving }, s.desk⟩ (s.start h thread) := by
  have hnoted : ∀ mode d', d'.outlet.script = s.desk.outlet.script →
      Desk.Costs 0 s.desk [.log (.started s.desk.outlet.conn mode)] d' :=
      fun _ _ ho => Desk.costs_event rfl rfl rfl ho
  cases hm : s.worker.mode with
  | webSocket =>
    rw [start_webSocket h thread hm]
    exact .of_costs (hnoted _ _ rfl) ⟨rfl, rfl, rfl, Nat.le_max_right ..⟩ ⟨rfl, rfl⟩ rfl
      fun most _ => Nat.zero_le _
  | line =>
    have hbegin := (Desk.moves_update (d := s.desk) isWork (.begin thread (.nil _))).ready hr
    let d := s.desk.update s.desk.outlet { s.desk.link with thread }
    have htold : Desk.Costs 0 d [.connected d.id d.link.status none] d :=
      Desk.costs_event rfl rfl rfl rfl
    have hgreeted := (hnoted .line d rfl).trans
      (htold.trans (Desk.costs_perform hbegin (h.connected s.worker.state none).acts))
    rw [start_line h thread hr.unreleased hm]
    refine .of_costs hgreeted ⟨rfl, rfl, rfl, ?_⟩ ⟨rfl, rfl⟩ rfl fun most hmost => ?_
    · cases (h.connected s.worker.state none).flow with
      | «continue» => exact Nat.le_max_right ..
      | abort => exact Nat.le_max_left ..
    · have := hmost.connected s.worker.state none
      omega

/-! ### Accounts -/

/-- What a step takes and gives: it reads, or else gives messages; the bytes of its messages were in
the buffer; its reads, the bytes they bring and its writes are taken from what is to come. -/
structure Bills (h : Handler σ) (s : Session σ) (t : Traced (Session σ)) : Prop where
  config : t.value.worker.mode = s.worker.mode ∧ t.value.worker.readSize = s.worker.readSize
  rank : Worker.Phase.rank t.value.worker.phase ≤ Worker.Phase.rank s.worker.phase
  reading : ((∀ e ∈ t.events, e.isRead = false) ∧ t.value.worker.drained = s.worker.drained ∧
      t.value.worker.faults = s.worker.faults) ∨
    s.worker.phase = .serving ∧ s.worker.drained = false ∧ t = s.fill
  apart : received t.events = [] ∨ messages t.events = []
  balance : s.worker.mode.least * (messages t.events).length + t.value.worker.buffer.length ≤
    s.worker.buffer.length + (received t.events).length
  received : (received t.events).length + Inlet.weight t.value.worker.arrivals ≤
    Inlet.weight s.worker.arrivals
  reads : reads t.events + Inlet.weight t.value.worker.arrivals +
    (if t.value.worker.drained then 0 else 1) ≤
    Inlet.weight s.worker.arrivals + if s.worker.drained then 0 else 1
  work : t.value.worker.work ≤ s.worker.work
  writes : ∀ most, h.Within most →
    writes t.events + t.value.desk.outlet.script.length + 2 * (most + 1) * t.value.worker.work ≤
      s.desk.outlet.script.length + 2 * (most + 1) * s.worker.work

/-- Something that is taken out of the buffer is paid for. -/
theorem Deals.bills {count : Nat} {rest : Bytes} {phase : Phase} {t : Traced (Session σ)}
    (hd : Deals count h ⟨{ s.worker with buffer := rest, phase }, s.desk⟩ t)
    (hwork : t.value.worker.work < s.worker.work)
    (hrank : max 1 (Worker.Phase.rank phase) ≤ Worker.Phase.rank s.worker.phase)
    (hpaid : s.worker.mode.least * count + rest.length ≤ s.worker.buffer.length) : Bills h s t where
  config := hd.config
  rank := Nat.le_trans hd.worker.rank hrank
  reading := .inl ⟨hd.unread, hd.worker.drained, hd.faults⟩
  apart := .inl (received_of_isRead hd.unread)
  balance := by
    have hgiven := Nat.mul_le_mul_left s.worker.mode.least hd.given
    have hrest := congrArg List.length hd.worker.buffer
    rw [received_of_isRead hd.unread]
    show _ + _ ≤ _ + 0
    simp only at hrest
    omega
  received := by
    rw [received_of_isRead hd.unread, hd.worker.arrivals]
    exact Nat.le_of_eq (Nat.zero_add _)
  reads := by
    rw [reads_of_isRead hd.unread, hd.worker.arrivals, hd.worker.drained]
    exact Nat.le_of_eq (congrArg (· + _) (Nat.zero_add _))
  work := Nat.le_of_lt hwork
  writes := fun most hm => by
    have hwrites := hd.writes most hm
    have hless := Nat.mul_le_mul_left (2 * (most + 1)) hwork
    rw [Nat.mul_succ] at hless
    simp only at hwrites
    omega

/-- What neither reads nor gives messages nor writes costs nothing. -/
theorem bills_quiet {t : Traced (Session σ)} (hread : ∀ e ∈ t.events, e.isRead = false)
    (hgiven : messages t.events = []) (hwrite : ∀ e ∈ t.events, e.isWrite = false)
    (hworker : ∃ phase, t.value.worker = { s.worker with phase } ∧
      Worker.Phase.rank phase ≤ Worker.Phase.rank s.worker.phase)
    (ho : t.value.desk.outlet.script = s.desk.outlet.script) : Bills h s t := by
  obtain ⟨phase, hw, hrank⟩ := hworker
  have hwork : t.value.worker.work ≤ s.worker.work := by
    rw [hw]
    exact Nat.add_le_add_left hrank _
  refine ⟨by simp [hw], by rw [hw]; exact hrank, .inl ⟨hread, by simp [hw]⟩, .inr hgiven, ?_, ?_,
    ?_, hwork,
    fun most _ => ?_⟩
  · rw [hgiven, received_of_isRead hread, hw]
    exact Nat.le_of_eq (Nat.zero_add _)
  · rw [received_of_isRead hread, hw]
    exact Nat.le_of_eq (Nat.zero_add _)
  · rw [reads_of_isRead hread, hw]
    exact Nat.le_of_eq (congrArg (· + _) (Nat.zero_add _))
  · have := Nat.mul_le_mul_left (2 * (most + 1)) hwork
    rw [writes_of_isWrite hwrite, ho]
    omega

/-- A read takes something from what is to arrive, or finds the end of the stream. -/
theorem left_fill (hs : s.worker.phase = .serving) :
    s.fill.value.worker.readSize = s.worker.readSize ∧
      s.fill.value.worker.arrivals = s.awaited.value.left ∧
      Inlet.weight s.awaited.value.left + (if s.fill.value.worker.drained then 0 else 1) ≤
        Inlet.weight s.worker.arrivals := by
  have hweight :=
    Inlet.weight_await s.worker.room s.worker.arrivals (s.desk.transition .waiting).link
  have hfill := filling hs
  generalize s.fill = t at hfill ⊢
  cases hfill with
  | finish ho =>
    rw [← awaited, ho] at hweight
    exact ⟨rfl, rfl, hweight⟩
  | @data data hne ho =>
    have := List.length_pos_of_ne_nil hne
    rw [← awaited, ho] at hweight
    exact ⟨rfl, rfl, by dsimp only at hweight ⊢; split <;> omega⟩
  | interrupted _ ho | lost _ _ _ ho | cut _ _ _ ho | failed _ _ ho =>
    rw [← awaited, ho] at hweight
    exact ⟨rfl, rfl, by dsimp only at hweight ⊢; split <;> omega⟩

theorem bills_fill (hl : Attending id hook past s) (hs : s.worker.phase = .serving)
    (hd : s.worker.drained = false) :
    Bills h s s.fill := by
  obtain ⟨hfilled, -⟩ := filled hl hs hd
  obtain ⟨hsize, harrivals, hleft⟩ := left_fill hs
  have hwork := work_fill hs hd
  have hweight :=
    Inlet.weight_await s.worker.room s.worker.arrivals (s.desk.transition .waiting).link
  obtain ⟨hreceived, -⟩ := readings hl
  have hasked := awaited_farewell hl.ready
  -- one read, and no writes
  have hread : reads s.readEvents = 1 ∧ writes s.readEvents = 0 := by
    rw [readEvents, reads_append, writes_append, reads_of_isRead fun e he =>
      isRead_of_isFarewell (hasked e he), writes_of_isWrite fun e he =>
      isWrite_of_isFarewell (hasked e he)]
    exact ⟨rfl, rfl⟩
  have hsame : received s.fill.events = s.awaited.value.outcome.toOption.getD [] ∧
      reads s.fill.events = 1 ∧
      writes s.fill.events = 0 := by
    rcases hfilled.noted with heq | ⟨n, heq, -⟩
    · rw [heq]
      exact ⟨hreceived, hread⟩
    · rw [heq, received_append, reads_append, writes_append, hread.1, hread.2, hreceived,
        received_log, List.append_nil]
      exact ⟨rfl, rfl, rfl⟩
  have hrank : Worker.Phase.rank s.fill.value.worker.phase ≤ Worker.Phase.rank s.worker.phase := by
    rw [hs]
    rcases (moves_fill hs).phase with hserving | ⟨cause, hfinished⟩
    · exact Nat.le_of_eq (congrArg _ hserving)
    · rw [hfinished]
      exact Nat.le_succ 1
  refine ⟨⟨hfilled.mode, hsize⟩, hrank, .inr ⟨hs, hd, rfl⟩, .inr hfilled.messages, ?_, ?_, ?_,
    Nat.le_of_lt hwork,
    fun most _ => ?_⟩
  · rw [hfilled.messages, hfilled.buffer, List.length_append]
    exact Nat.le_of_eq (Nat.zero_add _)
  · rw [hsame.1, harrivals]
    rw [← awaited] at hweight
    generalize s.awaited.value.outcome = outcome at hweight ⊢
    cases outcome with
    | ok data => rw [Nat.add_comm]; exact hweight
    | error fault => rw [Nat.add_comm]; exact Nat.le_of_lt hweight
  · rw [hsame.2.1, harrivals, hd]
    show 1 + _ + _ ≤ _ + 1
    omega
  · have hless := Nat.mul_le_mul_left (2 * (most + 1)) (Nat.le_of_lt hwork)
    rw [hsame.2.2, hfilled.desk]
    show 0 + s.desk.outlet.script.length + _ ≤ _
    omega

/-- Out of the loop, nothing has been taken. -/
theorem bills_conclude (hs : s.worker.phase = .serving) (cause : Option Ending) :
    Bills h s (pure (s.conclude cause)) := by
  rw [conclude_eq hs]
  refine bills_quiet (by simp) rfl (by simp) ⟨_, rfl, ?_⟩ rfl
  rw [hs]
  exact Nat.le_succ 1

theorem bills_line (h : Handler σ) (hr : s.desk.Ready) (hs : s.worker.phase = .serving)
    (data : Bytes) {rest : Bytes} (hrest : rest.length < s.worker.buffer.length) :
    Bills h s (s.line h data rest) := by
  let taken : Session σ := ⟨{ s.worker with buffer := rest }, s.desk⟩
  have hwork := work_take (keeps_line h data rest s) hs hrest
  have hrank : max 1 (Worker.Phase.rank s.worker.phase) ≤ Worker.Phase.rank s.worker.phase := by
    rw [hs]
    decide
  cases hm : s.worker.mode with
  | line =>
    rw [line_line h hm] at hwork ⊢
    refine (deals_dispatch (s := taken) h hr hs data).bills hwork hrank ?_
    rw [hm]
    show 1 * 1 + _ ≤ _
    omega
  | webSocket =>
    rw [line_webSocket h hm] at hwork ⊢
    exact (deals_request (s := taken) h hr hs data).bills hwork hrank (by rw [Nat.mul_zero]; omega)

theorem bills_frame (h : Handler σ) (hr : s.desk.Ready) (hs : s.worker.phase = .serving) {f : Frame}
    {size : Nat} (hp : Frame.parse s.worker.buffer = .complete f size) :
    Bills h s (s.frame h f (s.worker.buffer.drop size)) := by
  have hsize := Frame.size_of_parse hp
  have hwork :=
    work_take (keeps_frame h f (s.worker.buffer.drop size) s) hs (by rw [List.length_drop]; omega)
  have hleast : s.worker.mode.least ≤ 6 := by cases s.worker.mode <;> decide
  have hdeals :=
    deals_frame (s := ⟨{ s.worker with buffer := s.worker.buffer.drop size }, s.desk⟩) h hr hs f
  exact hdeals.bills hwork (by rw [hs]; decide) (by rw [List.length_drop]; omega)

theorem bills_serve (h : Handler σ) (thread : Nat) (hl : Attending id hook past s)
    (hs : s.worker.phase = .serving) :
    Bills h s (s.step h thread) := by
  cases hf : s.desk.outlet.framed with
  | true =>
    rw [step_frames h thread hs hf, serveFrames_eq]
    cases hp : Frame.parse s.worker.buffer with
    | complete f size => exact bills_frame h hl.ready hs hp
    | incomplete =>
      cases hd : s.worker.drained with
      | true => exact bills_conclude hs none
      | false => exact bills_fill hl hs hd
    | close | violation => exact bills_conclude hs _
  | false =>
    rw [step_lines h thread hs hf, serveLines_eq]
    cases hnext : Telnet.next? s.worker.buffer with
    | some found => exact bills_line h hl.ready hs _ (Telnet.length_of_next? hnext)
    | none =>
      cases hd : s.worker.drained with
      | false => exact bills_fill hl hs hd
      | true =>
        cases hrest : Telnet.remainder s.worker.buffer with
        | some data => exact bills_line h hl.ready hs _ (length_of_remainder hrest)
        | none => exact bills_conclude hs none

/-- Taking a connection down costs nothing, nor does the notice before it. -/
theorem bills_takeDown (hl : Attending id hook past s) {front : List Event}
    (hfront : ∀ e ∈ front, e.isRead = false ∧ e.isInput = false ∧ e.isWrite = false)
    (misuse : Option Misuse) :
    Bills h s ⟨(s.takeDown misuse).value, front ++ (s.takeDown misuse).events⟩ := by
  have hclosing : ∀ e ∈ (s.takeDown misuse).events, e.isRead = false ∧ e.isInput = false ∧
      e.isWrite = false := by
    have htold := hl.told
    rw [← hl.number] at htold
    rw [takeDown_eq htold]
    intro e he
    rcases closing_cases e he with hfarewell | hdestroyed
    · exact ⟨isRead_of_isFarewell hfarewell, isInput_of_isFarewell hfarewell,
        isWrite_of_isFarewell hfarewell⟩
    · exact ⟨isRead_of_isDestroyed hdestroyed, isInput_of_isDestroyed hdestroyed,
        isWrite_of_isDestroyed hdestroyed⟩
  have hall := List.forall_mem_append.2 ⟨hfront, hclosing⟩
  exact bills_quiet (fun e he => (hall e he).1) (messages_of_quiet fun e he => (hall e he).2.1)
    (fun e he => (hall e he).2.2) ⟨.gone misuse, rfl, Nat.zero_le _⟩ rfl

/-- **Whatever happens to a connection is paid for.** -/
theorem bills_meet (h : Handler σ) (occasion : Occasion) (hl : Living id conn hook past s) :
    Bills h s (s.meet h occasion) := by
  have hnothing : Bills h s (pure s) :=
    bills_quiet (by simp) rfl (by simp) ⟨_, rfl, Nat.le_refl _⟩ rfl
  cases hl with
  | gone misuse hid hphase ht =>
    rw [meet_gone (.gone misuse hid hphase ht) (by rw [isGone, hphase])]
    exact hnothing
  | held hh hphase =>
    have ha := hh.toAttending
    cases occasion with
    | ask =>
      have hasked := asked_farewell ha
      exact bills_quiet (fun e he => isRead_of_isFarewell (hasked e he))
        (messages_of_quiet fun e he => isInput_of_isFarewell (hasked e he))
        (fun e he => isWrite_of_isFarewell (hasked e he)) ⟨_, worker_ask s, Nat.le_refl _⟩
        (congrArg Outlet.script (outlet_ask s))
    | drop =>
      simp only [meet]
      split
      · exact bills_takeDown ha (List.forall_mem_nil _) none
      · exact hnothing
    | work thread =>
      show Bills h s (s.step h thread)
      rcases hphase with hphase | hphase | ⟨cause, hphase⟩
      · have hg : s.isGone = false := by rw [isGone, hphase]
        have hwork := work_step h thread s hg
        have hdeals := deals_start h thread ha.ready
        rw [step_fresh h thread hphase] at hwork ⊢
        exact hdeals.bills hwork (by rw [hphase]; decide)
          (by rw [Nat.mul_zero]; exact Nat.le_of_eq (Nat.zero_add _))
      · exact bills_serve h thread ha hphase
      · rw [step_last h thread hphase]
        exact bills_takeDown ha (List.forall_mem_singleton.2 ⟨rfl, rfl, rfl⟩) none

/-- What has been done by some moment of a connection's life, and what is left to do it with. -/
structure Account (h : Handler σ) (mode : Mode) (t : Transport) (id : Nat) (past : List Event)
    (s : Session σ) : Prop where
  kind : s.worker.mode = mode
  balance : mode.least * (messages past).length + s.worker.buffer.length ≤ (received past).length
  /-- every message was paid for when it was given -/
  paid : ∀ before after, past = before ++ after →
    mode.least * (messages before).length ≤ (received before).length
  received : (received past).length + Inlet.weight s.worker.arrivals ≤ Inlet.weight t.arrivals
  reads : reads past + Inlet.weight s.worker.arrivals + (if s.worker.drained then 0 else 1) ≤
    Inlet.weight t.arrivals + 1
  work : s.worker.work ≤ 2 * Inlet.weight t.arrivals + 4
  writes : ∀ most, h.Within most →
    writes past + s.desk.outlet.script.length + 2 * (most + 1) * s.worker.work ≤
      t.acceptances.length + 2 * (most + 1) * (2 * Inlet.weight t.arrivals + 4)
  /-- no read was begun after one had found the end of the stream -/
  unread : AtReads (fun before => spent id false before = false) past
  latch : 2 ≤ Worker.Phase.rank s.worker.phase → spent id false past = s.worker.drained
  borne : 2 ≤ Worker.Phase.rank s.worker.phase → s.worker.drained = false →
    s.worker.faults < maxFaults

variable {t : Transport}

/-- A worker that serves is at its desk. -/
theorem Living.attending (hl : Living id conn hook past s) (hs : s.worker.phase = .serving) :
    Attending id hook past s := by
  cases hl with
  | held hh => exact hh.toAttending
  | gone misuse _ hphase => rw [hphase] at hs; cases hs

/-- Where nothing is read the end of the stream is not found. -/
theorem spent_of_isRead {asked : Bool} {events : List Event} (h : ∀ e ∈ events, e.isRead = false) :
    spent id asked events = false := by
  induction events generalizing asked with
  | nil => rfl
  | cons e rest ih =>
    have he := h e (List.mem_cons_self ..)
    have hrest : ∀ asked, spent id asked rest = false :=
      fun _ => ih fun e' he' => h e' (List.mem_cons_of_mem _ he')
    cases e with
    | read => cases he
    | _ => exact hrest _

/-- A read is begun only before the end of the stream, and tells the worker whether it has found
it. -/
theorem latched_fill (hl : Attending id hook past s) (hs : s.worker.phase = .serving)
    (hd : s.worker.drained = false)
    (hunread : AtReads (fun before => spent id false before = false) past)
    (hspent : spent id false past = false) :
    AtReads (fun before => spent id false before = false) (past ++ s.fill.events) ∧
      (s.fill.value.worker.phase = .serving →
        spent id false (past ++ s.fill.events) = s.fill.value.worker.drained) := by
  constructor
  · refine atReads_fill hl hs hd hunread ?_
    rw [spent_append, hspent, spent_of_isRead (isRead_awaited hl.ready)]
    rfl
  · intro hserving
    rw [spent_append, hspent]
    cases (filled hl hs hd).2 with
    | serving _ hfound => exact hfound
    | exhausted fault hphase | cut fault _ hphase => rw [hphase] at hserving; cases hserving

/-- The worker bears a failed read as long as there were few of them in a row. -/
theorem borne_fill (hl : Attending id hook past s) (hs : s.worker.phase = .serving)
    (hd : s.worker.drained = false) (hfew : s.worker.faults < maxFaults)
    (hserving : s.fill.value.worker.phase = .serving)
      (hopen : s.fill.value.worker.drained = false) :
    s.fill.value.worker.faults < maxFaults := by
  cases (filled hl hs hd).2 with
  | serving _ _ hborne => exact (hborne hopen hfew).2
  | exhausted fault hphase | cut fault _ hphase => rw [hphase] at hserving; cases hserving

/-- Whatever happens, no read is begun after the end of the stream was found, and a worker that
serves on knows whether it was, and has borne few failed reads in a row. -/
theorem latched_meet (occasion : Occasion) (hl : Living id conn hook past s)
    (ha : Account h mode t id past s) :
    AtReads (fun before => spent id false before = false) (past ++ (s.meet h occasion).events) ∧
      (2 ≤ Worker.Phase.rank (s.meet h occasion).value.worker.phase →
        spent id false (past ++ (s.meet h occasion).events) =
          (s.meet h occasion).value.worker.drained ∧
          ((s.meet h occasion).value.worker.drained = false →
            (s.meet h occasion).value.worker.faults < maxFaults)) := by
  have hb := bills_meet h occasion hl
  rcases hb.reading with ⟨hunread, hdrained, hfaults⟩ | ⟨hs, hd, hfill⟩
  · refine ⟨ha.unread.append hunread, fun hrank => ?_⟩
    have hbefore := Nat.le_trans hrank hb.rank
    rw [spent_append, spent_of_isRead hunread, Bool.or_false, hdrained, hfaults]
    exact ⟨ha.latch hbefore, ha.borne hbefore⟩
  · have hserves : 2 ≤ Worker.Phase.rank s.worker.phase := by
      rw [hs]
      exact Nat.le_refl 2
    obtain ⟨hunread, hfound⟩ :=
      latched_fill (hl.attending hs) hs hd ha.unread ((ha.latch hserves).trans hd)
    rw [hfill]
    refine ⟨hunread, fun hrank => ?_⟩
    rcases (moves_fill hs).phase with hserving | ⟨cause, hfinished⟩
    · exact ⟨hfound hserving, borne_fill (hl.attending hs) hs hd (ha.borne hserves hd) hserving⟩
    · rw [hfinished] at hrank
      exact absurd hrank (Nat.not_succ_le_self 1)

/-- Each message of a step is paid for with what was in the buffer before it. -/
theorem paid_meet (occasion : Occasion) (hl : Living id conn hook past s)
    (ha : Account h mode t id past s) :
    ∀ before after, past ++ (s.meet h occasion).events = before ++ after →
      mode.least * (messages before).length ≤ (received before).length := by
  intro before after heq
  have hb := bills_meet h occasion hl
  have hold := ha.balance
  have hbalance := hb.balance
  rw [ha.kind] at hbalance
  rcases List.append_eq_append_iff.1 heq with ⟨front, rfl, hevents⟩ | ⟨back, hpast, -⟩
  · simp only [messages_append, received_append, List.length_append, Nat.mul_add]
    rcases hb.apart with hunread | hungiven
    · -- the messages of this step were in the buffer
      have hfront : (messages front).length ≤ (messages (s.meet h occasion).events).length := by
        rw [hevents, messages_append, List.length_append]
        exact Nat.le_add_right ..
      have := Nat.mul_le_mul_left mode.least hfront
      rw [hunread] at hbalance
      simp only [List.length_nil] at hbalance
      omega
    · have hnone : messages front = [] := by
        rw [hevents, messages_append, List.append_eq_nil_iff] at hungiven
        exact hungiven.1
      rw [hnone, List.length_nil, Nat.mul_zero]
      omega
  · exact ha.paid before back hpast

/-- **The account is kept whatever happens.** -/
theorem account_meet (occasion : Occasion) (hl : Living id conn hook past s)
    (ha : Account h mode t id past s) :
    Account h mode t id (past ++ (s.meet h occasion).events) (s.meet h occasion).value := by
  have hb := bills_meet h occasion hl
  obtain ⟨hunread, hlatched⟩ := latched_meet occasion hl ha
  refine ⟨hb.config.1.trans ha.kind, ?_, paid_meet occasion hl ha, ?_, ?_,
    Nat.le_trans hb.work ha.work,
    fun most hm => ?_, hunread, fun hrank => (hlatched hrank).1, fun hrank => (hlatched hrank).2⟩
  · have := ha.balance
    have hbalance := hb.balance
    rw [ha.kind] at hbalance
    simp only [messages_append, received_append, List.length_append, Nat.mul_add]
    omega
  · have := ha.received
    have := hb.received
    rw [received_append, List.length_append]
    omega
  · have := ha.reads
    have := hb.reads
    rw [reads_append]
    omega
  · have := ha.writes most hm
    have := hb.writes most hm
    rw [writes_append]
    omega

theorem account_life (occasions : List Occasion) (hl : Living id conn hook past s)
    (ha : Account h mode t id past s) :
    Account h mode t id (past ++ (s.life h occasions).events) (s.life h occasions).value := by
  induction occasions generalizing past s with
  | nil => simpa [life] using ha
  | cons occasion rest ih =>
    have := ih (living_meet h occasion hl) (account_meet occasion hl ha)
    rw [List.append_assoc] at this
    exact this

/-- A connection that has been accepted has done nothing. -/
theorem Accepted.account {readSize : Nat} {state : σ} (ha : Accepted mode readSize state t s)
    (h : Handler σ) (hscript : s.desk.outlet.script = t.acceptances) :
    Account h mode t s.desk.id [] s := by
  have hwork : s.worker.work = 2 * Inlet.weight t.arrivals + 4 := by rw [ha.worker]; rfl
  refine ⟨by rw [ha.worker], by rw [ha.worker]; exact Nat.zero_le _, ?_,
    by rw [ha.worker]; exact Nat.zero_add _ ▸ Nat.le_refl _, ?_, Nat.le_of_eq hwork,
    fun most _ => ?_, atReads_nil, fun _ => by rw [ha.worker]; rfl,
    fun _ _ => by rw [ha.worker]; exact Nat.succ_pos 63⟩
  · intro before after heq
    obtain ⟨rfl, -⟩ := List.append_eq_nil_iff.1 heq.symm
    exact Nat.zero_le _
  · rw [ha.worker]
    exact Nat.le_of_eq (congrArg (· + 1) (Nat.zero_add _))
  · simp only [hwork, hscript, writes_nil, Nat.zero_add, Nat.le_refl]

/-! ### Runs -/

/-- A run is so many steps at most as there is work. -/
theorem run_within (h : Handler σ) (thread : Nat) (s : Session σ) :
    ∃ count, count ≤ s.worker.work ∧ s.run h thread = s.steps h thread count := by
  induction hw : s.worker.work using Nat.strongRecOn generalizing s with
  | _ work ih =>
    cases hg : s.isGone with
    | true => exact ⟨0, Nat.zero_le _, by rw [run_gone hg]; rfl⟩
    | false =>
      have hless := work_step h thread s hg
      obtain ⟨count, hcount, hrun⟩ := ih _ (hw ▸ hless) (s.step h thread).value rfl
      refine ⟨count + 1, by omega, ?_⟩
      rw [run_step hg, hrun]
      rfl

/-- What bounds the history of a connection with a transport: each message has been paid for with
bytes that were read before it, and reads and writes with what the transport's scripts hold. -/
structure Bounded (h : Handler σ) (mode : Mode) (t : Transport) (id : Nat)
    (events : List Event) : Prop where
  messages : ∀ before after, events = before ++ after →
    mode.least * (messages before).length ≤ (received before).length
  received : (received events).length ≤ Inlet.weight t.arrivals
  reads : reads events ≤ Inlet.weight t.arrivals + 1
  /-- no read is begun after one that has found the end of the stream -/
  unread : AtReads (fun before => spent id false before = false) events
  writes : ∀ most, h.Within most →
    writes events ≤ t.acceptances.length + 2 * (most + 1) * (2 * Inlet.weight t.arrivals + 4)

theorem Account.bounded (ha : Account h mode t id past s) : Bounded h mode t id past where
  messages := ha.paid
  received := Nat.le_trans (Nat.le_add_right ..) ha.received
  reads := by
    have := ha.reads
    omega
  unread := ha.unread
  writes := fun most hm => by
    have := ha.writes most hm
    omega

/-- A handler is told of its connection once, and else of messages. -/
theorem length_callbacks {readSize : Nat} {state : σ} (ha : Accepted mode readSize state t s)
    (hl : Living s.desk.id conn t.hook [] s) {occasions : List Occasion}
    (hrun : ∀ occasion ∈ occasions, occasion ≠ .drop) :
    (callbacks (s.life h occasions).events).length ≤
      (Event.messages (s.life h occasions).events).length + 1 := by
  have htalk := talk_life (h := h) occasions hrun hl
    (.unheard ha.atLines callbacks_nil (by rw [ha.worker]) (.inl (by rw [ha.worker])))
  rw [List.nil_append] at htalk
  rw [messages_callbacks]
  rcases htalk.allows with hnone | ⟨request, given, hcalls, -⟩
  · rw [hnone]
    exact Nat.zero_le _
  · rw [hcalls]
    simp [List.filterMap_map]

/-- **Every run ends, and it is bounded by what arrives.** However a connection's life has gone,
its run comes to an end within so many steps as its transport's script of arrivals allows; each
step that gives a message takes a byte at least out of the buffer, after an upgrade six, and the
whole history is bounded. -/
theorem run_bounded (h : Handler σ) (thread : Nat) {hub : Hub} (hs : hub.Sound) {readSize : Nat}
    {state : σ} {started : Int} (ha : accept? mode readSize state t { started } hub = some s)
    (occasions : List Occasion) :
    let lived := s.life h occasions
    let next := lived.value.step h thread
    let ran := lived.value.run h thread
    (∃ count, count ≤ 2 * Inlet.weight t.arrivals + 4 ∧ ran = lived.value.steps h thread count) ∧
      ran.value.isGone = true ∧
      mode.least * (messages next.events).length + next.value.worker.buffer.length ≤
        lived.value.worker.buffer.length + (received next.events).length ∧
      Bounded h mode t s.desk.id (lived.events ++ ran.events) ∧
      ((∀ occasion ∈ occasions, occasion ≠ .drop) →
        (callbacks (lived.events ++ ran.events)).length ≤
          (messages (lived.events ++ ran.events)).length + 1) := by
  intro lived next ran
  have hliving := living_of_accept? hs ha
  have haccount := (accepted_of_accept? hs ha).account h (script_of_accept? ha)
  have hlived := account_life occasions hliving haccount
  obtain ⟨count, hcount, hran⟩ := run_within h thread lived.value
  obtain ⟨steps, hsteps⟩ := run_eq_life h thread lived.value
  have hall := account_life (occasions ++ List.replicate steps (.work thread)) hliving haccount
  rw [life_append, ← hsteps] at hall
  have hnext := (bills_meet h (.work thread) (living_life h occasions hliving)).balance
  rw [hlived.kind] at hnext
  refine ⟨⟨count, Nat.le_trans hcount hlived.work, hran⟩, isGone_run h thread _, hnext,
    hall.bounded, fun hrun => ?_⟩
  have hworks : ∀ occasion ∈ List.replicate steps (.work thread), occasion ≠ Occasion.drop :=
    fun o ho => by
    rw [List.eq_of_mem_replicate ho]
    simp
  have htold :=
    length_callbacks (h := h) (accepted_of_accept? hs ha) hliving
      (List.forall_mem_append.2 ⟨hrun, hworks⟩)
  rwa [life_append, ← hsteps] at htold

/-- A run goes on after a request, a few steps and another request; the last line is what the ended
stream leaves. -/
theorem run_bounded_asked :
    let hub : Hub := { capacity := 1 }
    let h := Shell.handler { prompt := "> ", mode := .line }
    let t : Transport :=
      { arrivals := [.data [0x70, 0x0A, 0x71], .fault (.plain .timedOut), .shutdown, .finish]
        acceptances := [.upTo 1, .fault (.plain .interrupted), .upTo 0] }
    let occasions := [.work 1, .work 1, .ask]
    hub.Sound ∧ ∃ s, accept? .line 2 () t { started := 0 } hub = some s ∧
      let lived := s.life h occasions
      let next := lived.value.step h 1
      let ran := lived.value.run h 1
      (∃ count, count ≤ 2 * Inlet.weight t.arrivals + 4 ∧ ran = lived.value.steps h 1 count) ∧
        ran.value.isGone = true ∧
        Mode.line.least * (messages next.events).length + next.value.worker.buffer.length ≤
          lived.value.worker.buffer.length + (received next.events).length ∧
        Bounded h .line t s.desk.id (lived.events ++ ran.events) ∧
        ((∀ occasion ∈ occasions, occasion ≠ .drop) →
          (callbacks (lived.events ++ ran.events)).length ≤
          (messages (lived.events ++ ran.events)).length + 1) :=
  ⟨Hub.sound_empty 1, _, rfl, run_bounded _ 1 (Hub.sound_empty 1) rfl [.work 1, .work 1, .ask]⟩

end Session
end NetShell
