import NetShell.Proofs.Steps
import NetShell.Session.Admission

/-! A session from its beginning to its end.

A connection that has been accepted has its transport untouched (`Session.Accepted`). Every
step before the end takes the hub along a course and leaves the worker serving or out of
its loop (`Session.moves_step`); taking the connection down ends the transport unless a
request did so before (`Session.takeDown_eq`). What every step keeps, a run keeps
(`Session.run_invariant`). -/
namespace NetShell
open WebSocket

variable {σ : Type}

/-- An interrupted call is not a sign that the connection has gone away. -/
theorem Fault.isTeardown_of_isInterrupted {fault : Fault} (h : fault.isInterrupted = true) :
    fault.isTeardown = false := by
  have hk : fault.kind? = some .interrupted := by simpa [isInterrupted] using h
  have hne : fault ≠ closed := by
    rintro rfl
    revert hk
    decide
  simp [isTeardown, hk, hne]

/-- What a link comes to when its connection is destroyed, as its history tells. -/
theorem Link.Told.destroy {id : Nat} {hook : Hook} {past : List Event} {l : Link}
    (h : Told id hook past l) :
    l.destroy = ⟨({ l with status := .closed, torn := true, hook := none }, !Event.asked id past),
      if Event.asked id past then [] else farewell id .closed hook⟩ := by
  have hasked := h.isClosing
  cases h with
  | free number torn transport status =>
    rw [status] at hasked
    rw [destroy_open torn transport, number]
    simp [← hasked]
  | claimed number torn status =>
    rw [status] at hasked
    rw [destroy_torn torn, ← hasked]
    simp [pure, torn, Status.isClosing]

namespace Session

variable {s : Session σ}

/-! ### The beginning -/

/-- A connection as it is accepted: its worker has not started, and its transport `t` is
untouched. -/
structure Accepted (mode : Mode) (readSize : Nat) (state : σ) (t : Transport)
    (s : Session σ) : Prop where
  worker : s.worker = { mode, readSize, state, arrivals := t.arrivals }
  ready : s.desk.Ready
  told : Link.Told s.desk.id t.hook [] s.desk.link
  unframed : s.desk.outlet.framed = false
  entry : s.desk.hub.roster.get? s.desk.outlet.conn = some s.desk.id

/-- What the hub has made of a new connection. -/
theorem hub_of_accept? {hub : Hub} {mode : Mode} {readSize : Nat} {state : σ} {t : Transport}
    {started : Int} (h : accept? mode readSize state t { started } hub = some s) :
    hub.accept? { started, hook := some t.hook } =
      some (s.desk.id, s.desk.outlet.conn, s.desk.hub) := by
  obtain ⟨_, hjoined, rfl⟩ := Option.map_eq_some_iff.1 h
  exact hjoined

/-- The link of a new connection. -/
theorem link_of_accept? {hub : Hub} (hs : hub.Sound) {mode : Mode} {readSize : Nat} {state : σ}
    {t : Transport} {started : Int} (h : accept? mode readSize state t { started } hub = some s) :
    s.desk.link = { started, hook := some t.hook, id := s.desk.id } := by
  obtain ⟨⟨id, key, joined⟩, ha, he⟩ := Option.map_eq_some_iff.1 h
  obtain rfl := he
  have hj := Hub.joined_of_accept? hs (by simp) ha
  show joined.link id = _
  rw [Hub.link, hj.links, hj.number]
  simp

/-- What a new connection's transport will take. -/
theorem script_of_accept? {hub : Hub} {mode : Mode} {readSize : Nat} {state : σ} {t : Transport}
    {l : Link} (h : accept? mode readSize state t l hub = some s) :
    s.desk.outlet.script = t.acceptances := by
  obtain ⟨_, -, rfl⟩ := Option.map_eq_some_iff.1 h
  rfl

theorem accepted_of_accept? {hub : Hub} (hs : hub.Sound) {mode : Mode} {readSize : Nat} {state : σ}
    {t : Transport} {started : Int} (h : accept? mode readSize state t { started } hub = some s) :
    Accepted mode readSize state t s := by
  have hlink := link_of_accept? hs h
  obtain ⟨⟨id, key, joined⟩, ha, he⟩ := Option.map_eq_some_iff.1 h
  obtain rfl := he
  have hj := Hub.joined_of_accept? hs (by simp) ha
  have hknown : id < joined.links.length := by simp [hj.links, hj.number]
  refine ⟨rfl, ⟨hj.sound, hknown, rfl⟩, ?_, rfl, hj.entry⟩
  rw [hlink]
  exact .free rfl rfl rfl rfl rfl rfl

/-! ### The steps before the end -/

theorem course_await (Own : Event → Bool) (room : Nat) (arrivals : List Arrival) (l : Link) :
    Link.Course Own l (Inlet.await room arrivals l).events
      (Inlet.await room arrivals l).value.link := by
  induction arrivals generalizing l with
  | nil => exact .nil l
  | cons a rest ih =>
    cases a with
    | shutdown => exact .ask (ih l.shutdown.value)
    | data | finish | fault => exact .nil l

/-- What a step before the end comes to: the hub goes along a course of the worker's own, and
the worker serves on or is out of its loop. -/
structure Moves (s : Session σ) (t : Traced (Session σ)) : Prop where
  desk : Desk.Moves Event.isWork s.desk t.events t.value.desk
  phase : t.value.worker.phase = .serving ∨ ∃ cause, t.value.worker.phase = .finished cause

theorem Flow.phase_cases (flow : Flow) :
    flow.phase = .serving ∨ ∃ cause, flow.phase = .finished cause := by
  cases flow with
  | «continue» => exact .inl rfl
  | abort reason log => exact .inr ⟨_, rfl⟩

theorem moves_conclude (hs : s.worker.phase = .serving) (cause : Option Ending) :
    s.Moves (pure (s.conclude cause)) := by
  rw [conclude_eq hs]
  exact ⟨.refl _, .inr ⟨cause, rfl⟩⟩

theorem moves_dispatch (h : Handler σ) (hr : s.desk.Ready) (hs : s.worker.phase = .serving)
    (data : Bytes) :
    s.Moves (s.dispatch h data) := by
  have hrun := Desk.moves_transition Event.isWork s.desk .running rfl
  have hacts := Desk.moves_perform (hrun.ready hr) (h.message s.worker.state data).acts
  rw [dispatch_eq h hr.unreleased hs]
  exact ⟨hrun.trans ((Desk.Moves.event _ _ rfl).trans
    (hacts.mono fun _ => Event.isWork_of_isOutput)), Flow.phase_cases _⟩

theorem moves_changeOver (h : Handler σ) (hr : s.desk.Ready) (hs : s.worker.phase = .serving) :
    s.Moves (s.changeOver h) := by
  let request := s.worker.upgrade.request
  have htold :=
    Desk.Moves.event Event.isWork s.desk (e := .connected s.desk.id s.desk.link.status
      (some request)) rfl
  have hacts := htold.trans
    ((Desk.moves_perform hr (h.connected s.worker.state (some request)).acts).mono fun _ =>
    Event.isWork_of_isOutput)
  have hsend :=
    (Desk.moves_transmit (hacts.ready hr) [Bytes.ofText (switchingProtocols request.key)]
    (Bytes.ofText (switchingProtocols request.key))).mono fun _ => Event.isWork_of_isOutput
  rw [changeOver_eq h hr.unreleased hs]
  cases hflow : (h.connected s.worker.state (some s.worker.upgrade.request)).flow with
  | abort reason log => exact ⟨hacts, .inr ⟨_, rfl⟩⟩
  | «continue» =>
    dsimp only
    split
    · have hall := hacts.trans hsend
      exact ⟨⟨hall.id, hall.conn, hall.released, hall.course.trans (.event rfl (.nil _))⟩, .inl hs⟩
    · exact ⟨hacts, .inr ⟨_, rfl⟩⟩

theorem moves_request (h : Handler σ) (hr : s.desk.Ready) (hs : s.worker.phase = .serving)
    (line : Bytes) :
    s.Moves (s.request h line) := by
  rw [request_eq h hr.unreleased hs]
  cases (s.worker.upgrade.feed line).1 with
  | «continue» => exact ⟨.refl _, .inl hs⟩
  | headersDone =>
    have :=
      moves_changeOver (s := ⟨{ s.worker with upgrade := (s.worker.upgrade.feed line).2 }, s.desk⟩)
        h hr hs
    exact ⟨this.desk, this.phase⟩
  | reject cause =>
    exact ⟨(Desk.moves_transmit hr [notImplemented] notImplemented).mono fun _ =>
      Event.isWork_of_isOutput, .inr ⟨_, rfl⟩⟩

theorem moves_line (h : Handler σ) (hr : s.desk.Ready) (hs : s.worker.phase = .serving)
    (data rest : Bytes) :
    s.Moves (s.line h data rest) := by
  unfold line
  dsimp only
  split
  · have := moves_dispatch (s := ⟨{ s.worker with buffer := rest }, s.desk⟩) h hr hs data
    exact ⟨this.desk, this.phase⟩
  · have := moves_request (s := ⟨{ s.worker with buffer := rest }, s.desk⟩) h hr hs data
    exact ⟨this.desk, this.phase⟩

theorem moves_frame (h : Handler σ) (hr : s.desk.Ready) (hs : s.worker.phase = .serving) (f : Frame)
    (rest : Bytes) :
    s.Moves (s.frame h f rest) := by
  have hnoted := fun opcode => Desk.Moves.event Event.isWork s.desk
    (e := .log (.frame s.desk.outlet.conn opcode f.final f.payload.length)) rfl
  by_cases hping : f.opcode = .ping
  · rw [frame_ping h hr.unreleased hping]
    exact ⟨(hnoted _).trans ((Desk.moves_transmit hr _ f.payload).mono fun _ =>
      Event.isWork_of_isOutput), .inl hs⟩
  · by_cases hpong : f.opcode = .pong
    · rw [frame_pong h hpong]
      exact ⟨hnoted _, .inl hs⟩
    · have hdispatch :=
        moves_dispatch (s := ⟨{ s.worker with buffer := rest }, s.desk⟩) h hr hs f.payload
      rw [frame_other h hping hpong]
      exact ⟨(hnoted _).trans hdispatch.desk, hdispatch.phase⟩

theorem moves_await (s : Session σ) (Own : Event → Bool) :
    Desk.Moves Own s.desk s.awaited.events s.deskAfter := by
  have hwait := Desk.moves_transition Own s.desk .waiting rfl
  have hread := Desk.moves_update (d := s.desk.transition .waiting) Own
    (course_await Own s.worker.room s.worker.arrivals (s.desk.transition .waiting).link)
  exact hwait.trans hread

/-- While a read waits nothing comes in but requests to shut down. -/
theorem awaited_farewell (hr : s.desk.Ready) : ∀ e ∈ s.awaited.events, e.isFarewell = true :=
  (s.moves_await fun _ => false).each (by simp) (fun _ he => he) hr

/-- While a read waits nothing is read. -/
theorem isRead_awaited (hr : s.desk.Ready) : ∀ e ∈ s.awaited.events, e.isRead = false := fun e he =>
  Event.isRead_of_isFarewell (awaited_farewell hr e he)

theorem moves_read (s : Session σ) : Desk.Moves Event.isWork s.desk s.readEvents s.deskAfter :=
  (s.moves_await _).trans (.event _ _ rfl)

theorem moves_fill (hs : s.worker.phase = .serving) : s.Moves s.fill := by
  have hread := s.moves_read
  have hfill := filling hs
  generalize s.fill = t at hfill ⊢
  cases hfill with
  | finish | data | interrupted => exact ⟨hread, .inl hs⟩
  | lost => exact ⟨hread.trans (.event _ _ rfl), .inl hs⟩
  | cut => exact ⟨hread, .inr ⟨_, rfl⟩⟩
  | failed =>
    refine ⟨hread.trans (.event _ _ rfl), ?_⟩
    dsimp only
    split
    · exact .inr ⟨_, rfl⟩
    · exact .inl rfl

/-- **A step before the end takes the hub along a course of the worker's own.** -/
theorem moves_step (h : Handler σ) (thread : Nat) (hr : s.desk.Ready)
    (hs : s.worker.phase = .fresh ∨ s.worker.phase = .serving) : s.Moves (s.step h thread) := by
  unfold step
  rcases hs with hs | hs
  · have hbegin := Desk.moves_update (d := s.desk) Event.isWork (.begin thread (.nil _))
    have hnote :=
      (Desk.Moves.event _ s.desk (e := .log (.started s.desk.outlet.conn s.worker.mode)) rfl).trans
        hbegin
    rw [hs]
    dsimp only
    cases hm : s.worker.mode with
    | webSocket =>
      rw [start_webSocket h thread hm]
      rw [hm] at hnote
      exact ⟨hnote, .inl rfl⟩
    | line =>
      have hacts := Desk.moves_perform (hnote.ready hr) (h.connected s.worker.state none).acts
      rw [start_line h thread hr.unreleased hm]
      rw [hm] at hnote
      exact ⟨hnote.trans ((Desk.Moves.event _ _ rfl).trans
        (hacts.mono fun _ => Event.isWork_of_isOutput)), Flow.phase_cases _⟩
  · rw [hs]
    dsimp only
    split
    · rw [serveFrames_eq]
      cases Frame.parse s.worker.buffer with
      | complete f size => exact moves_frame h hr hs f _
      | incomplete =>
        dsimp only
        split
        · exact moves_conclude hs none
        · exact moves_fill hs
      | close => exact moves_conclude hs _
      | violation cause => exact moves_conclude hs _
    · rw [serveLines_eq]
      split
      · exact moves_line h hr hs _ _
      · split
        · split
          · exact moves_line h hr hs _ _
          · exact moves_conclude hs none
        · exact moves_fill hs

/-- The worker of a connection is at its desk, before the end, and the link is what the
history tells. -/
structure Attending (id : Nat) (hook : Hook) (past : List Event) (s : Session σ) : Prop where
  number : s.desk.id = id
  ready : s.desk.Ready
  told : Link.Told id hook past s.desk.link

theorem Attending.moves {id : Nat} {hook : Hook} {past : List Event} (ha : Attending id hook past s)
    {events : List Event} {t : Session σ} (hm : Desk.Moves Event.isWork s.desk events t.desk) :
    Attending id hook (past ++ events) t := by
  obtain ⟨rfl, hready, htold⟩ := ha
  exact ⟨hm.id, hm.ready hready, hm.told (fun _ => id) hready htold⟩

/-- A connection that has been accepted is attended to. -/
theorem Accepted.attending {mode : Mode} {readSize : Nat} {state : σ} {t : Transport}
    (ha : Accepted mode readSize state t s) : Attending s.desk.id t.hook [] s :=
  ⟨rfl, ha.ready, ha.told⟩

/-- The worker of a connection that reads lines is at its desk: the connection's mode is
`mode`, and it is not upgraded. -/
structure AtLines (mode : Mode) (id : Nat) (hook : Hook) (past : List Event) (s : Session σ) : Prop
    extends Attending id hook past s where
  mode : s.worker.mode = mode
  unframed : s.desk.outlet.framed = false

theorem Accepted.atLines {mode : Mode} {readSize : Nat} {state : σ} {t : Transport}
    (ha : Accepted mode readSize state t s) : AtLines mode s.desk.id t.hook [] s :=
  ⟨ha.attending, by rw [ha.worker], ha.unframed⟩

namespace AtLines

variable {mode : Mode} {id : Nat} {hook : Hook} {past : List Event} {t : Session σ}

theorem moves (ha : AtLines mode id hook past s) {events : List Event}
    (hm : Desk.Moves Event.isWork s.desk events t.desk) (hmode : t.worker.mode = s.worker.mode)
    (hf : t.desk.outlet.framed = s.desk.outlet.framed) : AtLines mode id hook (past ++ events) t :=
  ⟨ha.toAttending.moves hm, hmode.trans ha.mode, hf.trans ha.unframed⟩

/-- What the worker has in hand does not matter. -/
theorem stays (ha : AtLines mode id hook past s) (hdesk : t.desk = s.desk)
    (hmode : t.worker.mode = s.worker.mode) : AtLines mode id hook past t := by
  obtain ⟨worker, desk⟩ := t
  obtain rfl : desk = s.desk := hdesk
  exact ⟨⟨ha.number, ha.ready, ha.told⟩, hmode.trans ha.mode, ha.unframed⟩

end AtLines

/-! ### Reads -/

/-- What is read off the events of a read: the bytes it brings, whether it finds the end of
the stream, and whether it is borne as a fault. -/
theorem readings {id : Nat} {hook : Hook} {past : List Event} (ha : Attending id hook past s) :
    Event.received s.readEvents = s.awaited.value.outcome.toOption.getD [] ∧
      Event.messages s.readEvents = [] ∧
      Event.spent id (Event.asked id past) s.readEvents =
        Event.finds s.deskAfter.link.status.isClosing s.awaited.value.outcome ∧
      ∀ n, Event.strain n s.readEvents = Event.bears n s.awaited.value.outcome := by
  have hquiet : ∀ e ∈ s.awaited.events, e.isInput = false := fun e he =>
    Event.isInput_of_isFarewell (awaited_farewell ha.ready e he)
  have hasked := (ha.moves (t := ⟨s.worker, s.deskAfter⟩) (s.moves_await _)).told.isClosing
  rw [Event.asked_append] at hasked
  refine ⟨?_, ?_, ?_, fun n => ?_⟩
  · rw [readEvents, Event.received_append, Event.received_of_quiet hquiet]
    cases s.awaited.value.outcome <;> simp [Event.received, Except.toOption]
  · rw [readEvents, Event.messages_append, Event.messages_of_quiet hquiet]
    rfl
  · rw [readEvents, Event.spent_append, Event.spent_of_quiet hquiet, ← hasked]
    simp [Event.spent]
  · rw [readEvents, Event.strain_append, Event.strain_of_quiet hquiet]
    rfl

/-- A read that the worker has come back from: it has kept what it had, and what was brought is
at the end of its buffer. -/
structure Filled (s : Session σ) (t : Traced (Session σ)) : Prop where
  desk : t.value.desk = s.deskAfter
  mode : t.value.worker.mode = s.worker.mode
  state : t.value.worker.state = s.worker.state
  upgrade : t.value.worker.upgrade = s.worker.upgrade
  buffer : t.value.worker.buffer = s.worker.buffer ++ Event.received t.events
  messages : Event.messages t.events = []
  noted : t.events = s.readEvents ∨ ∃ n, t.events = s.readEvents ++ [.log n] ∧
    Event.isRead (.log n) = true

/-- What a read comes to: the worker serves on, and knows whether the stream has ended and how
many faults it has borne in a row; or those are too many; or the client of an upgraded
connection has gone away. -/
inductive Refilled (id : Nat) (asked : Bool) (s : Session σ) (t : Traced (Session σ)) : Prop
  | serving : t.value.worker.phase = .serving →
      Event.spent id asked t.events = t.value.worker.drained →
      (t.value.worker.drained = false → s.worker.faults < maxFaults →
        Event.strain s.worker.faults t.events = t.value.worker.faults ∧
        t.value.worker.faults < maxFaults) →
      Refilled id asked s t
  | exhausted (fault : Fault) : t.value.worker.phase = .finished (some (.exhausted fault)) →
      Event.received t.events = [] → Event.spent id asked t.events = false →
      Event.strain s.worker.faults t.events = s.worker.faults + 1 →
      maxFaults ≤ s.worker.faults + 1 →
      Refilled id asked s t
  | cut (fault : Fault) : s.desk.outlet.framed = true →
      t.value.worker.phase = .finished (some (.teardown fault)) → Event.received t.events = [] →
      Refilled id asked s t

theorem filled {id : Nat} {hook : Hook} {past : List Event} (ha : Attending id hook past s)
    (hs : s.worker.phase = .serving) (hd : s.worker.drained = false) :
    Filled s s.fill ∧ Refilled id (Event.asked id past) s s.fill := by
  obtain ⟨hreceived, hmessages, hspent, hstrain⟩ := readings ha
  have hfill := filling hs
  generalize s.fill = t at hfill ⊢
  cases hfill with
  | finish ho =>
    rw [ho] at hreceived hspent
    refine ⟨⟨rfl, rfl, rfl, rfl, ?_, hmessages, .inl rfl⟩, .serving hs hspent nofun⟩
    simp [hreceived, Except.toOption]
  | data hne ho =>
    rw [ho] at hreceived hspent hstrain
    refine ⟨⟨rfl, rfl, rfl, rfl, ?_, hmessages, .inl rfl⟩, .serving hs ?_ fun _ _ => ?_⟩
    · simp [hreceived, Except.toOption]
    · rw [hspent, hd]
      simp [Event.finds, hne]
    · rw [hstrain]
      simp [Event.bears, hne, maxFaults]
  | interrupted hi ho =>
    rw [ho] at hreceived hspent hstrain
    have ht := Fault.isTeardown_of_isInterrupted hi
    refine ⟨⟨rfl, rfl, rfl, rfl, ?_, hmessages, .inl rfl⟩, .serving hs ?_ fun _ hfew => ?_⟩
    · simp [hreceived, Except.toOption]
    · rw [hspent, hd]
      simp [Event.finds, hi, ht]
    · rw [hstrain]
      simpa [Event.bears, hi] using hfew
  | lost hi hl hf ho =>
    rw [ho] at hreceived hspent
    have hnone : Event.received s.readEvents = [] := hreceived
    refine ⟨⟨rfl, rfl, rfl, rfl, ?_, ?_, .inr ⟨_, rfl, rfl⟩⟩, .serving hs ?_ nofun⟩
    · simp [hnone]
    · simp [hmessages]
    · simpa [Event.spent_append, hspent, Event.finds, hi] using hl
  | cut hi hl hf ho =>
    rw [ho] at hreceived
    have hnone : Event.received s.readEvents = [] := hreceived
    refine ⟨⟨rfl, rfl, rfl, rfl, ?_, hmessages, .inl rfl⟩, .cut _ hf rfl hnone⟩
    simp [hnone]
  | @failed fault hi hl ho =>
    rw [ho] at hreceived hspent hstrain
    rw [Bool.or_eq_false_iff] at hl
    have hnone : Event.received s.readEvents = [] := hreceived
    have hread : Event.received (s.readEvents ++ [.log (.readFailed s.desk.outlet.conn fault)]) =
        [] := by
      simp [hnone]
    have hgoes : Event.spent id (Event.asked id past)
        (s.readEvents ++ [.log (.readFailed s.desk.outlet.conn fault)]) = false := by
      simp [Event.spent_append, hspent, Event.finds, hl.1, hl.2]
    have hmore : ∀ n, Event.strain n (s.readEvents ++
        [.log (.readFailed s.desk.outlet.conn fault)]) = n + 1 := by
      intro n
      simp [Event.strain_append, hstrain, Event.bears, hi, hl.1]
    refine ⟨⟨rfl, rfl, rfl, rfl, ?_, ?_, .inr ⟨_, rfl, rfl⟩⟩, ?_⟩
    · simp [hnone]
    · simp [hmessages]
    · by_cases hmax : maxFaults ≤ s.worker.faults + 1
      · exact .exhausted fault (by simp [hmax]) hread hgoes (hmore _) hmax
      · refine .serving (by simp [hmax]) (hgoes.trans hd.symm) fun _ _ => ⟨hmore _, ?_⟩
        show s.worker.faults + 1 < maxFaults
        omega

/-- A read is one more, begun when the worker has waited for it. -/
theorem atReads_fill {P : List Event → Prop} {id : Nat} {hook : Hook} {told past : List Event}
    (ha : Attending id hook told s) (hs : s.worker.phase = .serving) (hd : s.worker.drained = false)
    (hreads : Event.AtReads P past) (hwaited : P (past ++ s.awaited.events)) :
    Event.AtReads P (past ++ s.fill.events) := by
  have hread : Event.AtReads P (past ++ s.readEvents) := by
    rw [readEvents, ← List.append_assoc]
    exact (hreads.append (isRead_awaited ha.ready)).read hwaited _ _ _ _
  rcases (filled ha hs hd).1.noted with hevents | ⟨note, hevents, -⟩
  · rwa [hevents]
  · rw [hevents, ← List.append_assoc]
    exact hread.append_log note

/-! ### The end -/

/-- The events of taking a connection down, as its history tells. -/
def closing (id : Nat) (hook : Hook) (conn : Nat) (asked : Bool) : List Event :=
  (if asked then [] else Link.farewell id .closed hook) ++ [.log (.destroyed conn !asked)]

theorem takeDown_eq {hook : Hook} {past : List Event}
    (ht : Link.Told s.desk.id hook past s.desk.link) (misuse : Option Misuse) :
    s.takeDown misuse =
      ⟨⟨{ s.worker with phase := .gone misuse },
          { s.desk with
            outlet := { s.desk.outlet with released := true }
            hub := (s.desk.hub.setLink { s.desk.link with status := .closed, torn := true, hook :=
              none }).deregister
              s.desk.outlet.conn }⟩,
        closing s.desk.id hook s.desk.outlet.conn (Event.asked s.desk.id past)⟩ := by
  simp only [takeDown, bind, pure, ht.destroy, Outlet.release, Traced.note, Traced.record, closing,
    List.append_nil]

/-- The last step of a worker whose loop is over. -/
theorem step_last (h : Handler σ) (thread : Nat) {cause : Option Ending}
    (hs : s.worker.phase = .finished cause) :
    s.step h thread =
      ⟨(s.takeDown none).value, [.log (.ended s.desk.outlet.conn cause)] ++
        (s.takeDown none).events⟩ := by
  simp only [step, hs, bind, Traced.note, Traced.record]

theorem step_finished (h : Handler σ) (thread : Nat) {cause : Option Ending} {hook : Hook}
    {past : List Event} (ht : Link.Told s.desk.id hook past s.desk.link)
    (hs : s.worker.phase = .finished cause) :
    s.step h thread = ⟨(s.takeDown none).value, .log (.ended s.desk.outlet.conn cause) ::
      closing s.desk.id hook s.desk.outlet.conn (Event.asked s.desk.id past)⟩ := by
  rw [step_last h thread hs, takeDown_eq ht]
  rfl

theorem closing_cases {id : Nat} {hook : Hook} {conn : Nat} {asked : Bool} :
    ∀ e ∈ closing id hook conn asked, e.isFarewell = true ∨ e.isDestroyed = true := by
  intro e he
  rcases List.mem_append.1 he with he | he
  · cases asked with
    | true => cases he
    | false => exact .inl (Link.isFarewell_of_farewell e he)
  · rw [List.mem_singleton.1 he]
    exact .inr rfl

theorem isRead_closing {id : Nat} {hook : Hook} {conn : Nat} {asked : Bool} :
    ∀ e ∈ closing id hook conn asked, e.isRead = false := by
  intro e he
  rcases closing_cases e he with hfarewell | hdestroyed
  · exact Event.isRead_of_isFarewell hfarewell
  · exact Event.isRead_of_isDestroyed hdestroyed

theorem isInput_closing {id : Nat} {hook : Hook} {conn : Nat} {asked : Bool} :
    ∀ e ∈ closing id hook conn asked, e.isInput = false := by
  intro e he
  rcases closing_cases e he with hfarewell | hdestroyed
  · exact Event.isInput_of_isFarewell hfarewell
  · exact Event.isInput_of_isDestroyed hdestroyed

/-! ### Runs -/

theorem run_gone {h : Handler σ} {thread : Nat} (hg : s.isGone = true) :
    s.run h thread = pure s := by
  rw [run, dif_pos hg]

theorem run_step {h : Handler σ} {thread : Nat} (hg : s.isGone = false) :
    s.run h thread = ⟨((s.step h thread).value.run h thread).value,
      (s.step h thread).events ++ ((s.step h thread).value.run h thread).events⟩ := by
  rw [run, dif_neg (by simp [hg])]

/-- So many steps, a connection that is gone taking none. -/
def steps (h : Handler σ) (thread : Nat) : (count : Nat) → Session σ → Traced (Session σ)
  | 0, s => pure s
  | count + 1, s => do
    let s ← s.step h thread
    steps h thread count s

theorem steps_gone {h : Handler σ} {thread : Nat} (hg : s.isGone = true) (count : Nat) :
    s.steps h thread count = pure s := by
  have hstep : s.step h thread = pure s := by
    unfold isGone at hg
    unfold step
    split at hg
    · rw [‹s.worker.phase = _›]
    · cases hg
  induction count with
  | zero => rfl
  | succ count ih =>
    simp only [steps, hstep, bind, Traced.value_pure, Traced.events_pure, ih, List.append_nil]
    rfl

/-- A run goes on from where steps have come to. -/
theorem run_steps (h : Handler σ) (thread count : Nat) (s : Session σ) :
    s.run h thread =
      ⟨((s.steps h thread count).value.run h thread).value,
        (s.steps h thread count).events ++
          ((s.steps h thread count).value.run h thread).events⟩ := by
  induction count generalizing s with
  | zero => rfl
  | succ count ih =>
    cases hs : s.isGone with
    | true =>
      rw [steps_gone hs]
      rfl
    | false =>
      rw [run_step hs, ih]
      simp [steps, bind]

/-- Steps to the end are the run. -/
theorem run_eq_steps {h : Handler σ} {thread : Nat} (count : Nat)
    (hg : (s.steps h thread count).value.isGone = true) :
    s.run h thread = s.steps h thread count := by
  rw [run_steps h thread count, run_gone hg]
  simp

/-- **What every step keeps of a session and its history, a run keeps, and it comes to an
end.** -/
theorem run_invariant (h : Handler σ) (thread : Nat) {I : List Event → Session σ → Prop}
    (hstep : ∀ past s, s.isGone = false → I past s →
      I (past ++ (s.step h thread).events) (s.step h thread).value)
    {past : List Event} {s : Session σ} (hs : I past s) :
    I (past ++ (s.run h thread).events) (s.run h thread).value ∧
      (s.run h thread).value.isGone = true := by
  induction hw : s.worker.work using Nat.strongRecOn generalizing past s with
  | _ work ih =>
    cases hg : s.isGone with
    | true =>
      rw [run_gone hg]
      exact ⟨by simpa using hs, hg⟩
    | false =>
      have hlt := work_step h thread s hg
      have := ih _ (hw ▸ hlt) (hstep past s hg hs) rfl
      rw [run_step hg, ← List.append_assoc]
      exact this

/-- A run comes to an end. -/
theorem isGone_run (h : Handler σ) (thread : Nat) (s : Session σ) :
    (s.run h thread).value.isGone = true :=
  (@run_invariant _ h thread (fun _ _ => True) (fun _ _ _ _ => trivial) [] s trivial).2

end Session
end NetShell
