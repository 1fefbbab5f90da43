import NetShell.Proofs.Header
import NetShell.Proofs.Outbound
import NetShell.Shell

/-! After the upgrade, every frame is dealt with, once and in order.

Let `u` be a connection whose upgrade is complete, and `F` its buffer followed by all that
its reads bring from then on. What happens to it, besides reading, is what the frames of `F`
come to one after another, with the requests to shut down that come in between, and then its
end. The frames are those that `Frame.parseAll` cuts `F` into, all of them unless the handler
ends the connection at one (`Session.Settled`); and a read is begun only when every frame of
the bytes so far has been dealt with and neither a close nor a violation stands after them
(`Session.Through`). A ping that is dealt with is answered by a pong with its payload
(`Session.Ponged`).

`Session.framed_phase` says so of every connection that completes its upgrade, and that `F`
begins right after the empty line that ends the header. -/
namespace NetShell
open WebSocket Event

variable {σ : Type}

namespace Session

/-! ### What is said of the framed phase -/

/-- The frames of a byte string. -/
def framesOf (data : Bytes) : List Frame := (Frame.parseAll data).1.map Prod.fst

/-- What stands after the frames of a byte string. -/
def lastOf (data : Bytes) : Parsed := (Frame.parseAll data).2.1

/-- A connection that was `u` is through with all that has come in: what has happened is what
`turns` come to, they are the frames of the bytes so far, and no more can be taken. -/
structure Through (h : Handler σ) (u : Session σ) (turns : List Turn)
    (past : List Event) : Prop where
  ending : (Turn.play h turns u.worker.state u.desk).value.ending = none
  deeds : deeds past = (Turn.play h turns u.worker.state u.desk).events
  frames : Turn.frames turns = framesOf (u.worker.buffer ++ received past)
  last : lastOf (u.worker.buffer ++ received past) = .incomplete

/-- How a connection that was `u` ends, having dealt with `turns`; `data` is all that came in.
The handler ends it at a frame, or all frames have been dealt with: then the cause is what
stands after them, or else that the stream is over, its transport has gone, or reads keep
failing. -/
inductive Settled (h : Handler σ) (u : Session σ) (turns : List Turn) (data : Bytes) :
    Option Ending → Prop
  | aborted {front : List Turn} {f : Frame} {ending : Ending} : turns = front ++ [.frame f] →
      (Turn.play h front u.worker.state u.desk).value.ending = none →
      (Turn.play h turns u.worker.state u.desk).value.ending = some ending →
      Turn.frames turns <+: framesOf data → Settled h u turns data (some ending)
  | closed : (Turn.play h turns u.worker.state u.desk).value.ending = none →
      Turn.frames turns = framesOf data →
      lastOf data = .close → Settled h u turns data (some .peerClosed)
  | violated {cause : Violation} : (Turn.play h turns u.worker.state u.desk).value.ending = none →
      Turn.frames turns = framesOf data → lastOf data = .violation cause →
      Settled h u turns data (some (.violation cause))
  | starved {cause : Option Ending} :
      (Turn.play h turns u.worker.state u.desk).value.ending = none →
      Turn.frames turns = framesOf data → lastOf data = .incomplete →
      (cause = none ∨ ∃ fault, cause = some (.teardown fault) ∨ cause = some (.exhausted fault)) →
      Settled h u turns data cause

/-- A ping that a connection that was `u` comes to, after the frames and requests of `turns`, is
noted and answered once: the parts of the answer are written in order, up to the first refusal. -/
def Ponged (h : Handler σ) (u : Session σ) (turns : List Turn) (f : Frame) : Prop :=
  ∃ sent, (Turn.play h (turns ++ [.frame f]) u.worker.state u.desk).events =
      (Turn.play h turns u.worker.state u.desk).events ++
        .log (.frame u.desk.outlet.conn .ping f.final f.payload.length) :: sent ∧
    Outlet.Sent u.desk.outlet.conn u.desk.id (pongParts f.payload) f.payload sent

/-- What happens to a connection that was `u`, from then on. -/
structure FramedPhase (h : Handler σ) (u : Session σ) (events : List Event) : Prop where
  settled : ∃ turns cause rest, Settled h u turns (u.worker.buffer ++ received events) cause ∧
    deeds events = (Turn.play h turns u.worker.state u.desk).events ++
      .log (.ended u.desk.outlet.conn cause) :: rest ∧
    ∀ e ∈ rest, e.isFarewell = true ∨ e.isDestroyed = true
  reads : AtReads (fun before => ∃ turns, Through h u turns before) events

/-! ### What holds after any number of steps -/

/-- The frames of all that came in are those dealt with and those to come. -/
structure Dealt (h : Handler σ) (u : Session σ) (turns : List Turn) (past : List Event)
    (s : Session σ) : Prop where
  ending : (Turn.play h turns u.worker.state u.desk).value.ending = none
  state : (Turn.play h turns u.worker.state u.desk).value.state = s.worker.state
  desk : (Turn.play h turns u.worker.state u.desk).value.desk.Alike s.desk
  deeds : deeds past = (Turn.play h turns u.worker.state u.desk).events
  frames (more : Bytes) : framesOf (u.worker.buffer ++ received past ++ more) =
    Turn.frames turns ++ framesOf (s.worker.buffer ++ more)
  last (more : Bytes) : lastOf (u.worker.buffer ++ received past ++ more) =
    lastOf (s.worker.buffer ++ more)

/-- The worker of an upgraded connection at its desk; `before` is the history up to the
upgrade. -/
structure AtSocket (u : Session σ) (id : Nat) (hook : Hook) (before past : List Event)
    (s : Session σ) : Prop
    extends Attending id hook (before ++ past) s where
  framed : s.desk.outlet.framed = true
  conn : s.desk.outlet.conn = u.desk.outlet.conn

/-- What holds of an upgraded connection and its history after any number of steps. -/
inductive Phased (h : Handler σ) (u : Session σ) (id : Nat) (hook : Hook) (before past : List Event)
    (s : Session σ) :
    Prop
  | serving (turns : List Turn) : AtSocket u id hook before past s → s.worker.phase = .serving →
      Dealt h u turns past s → AtReads (fun front => ∃ turns, Through h u turns front) past →
      Phased h u id hook before past s
  | finished (turns : List Turn) (cause : Option Ending) : AtSocket u id hook before past s →
      s.worker.phase = .finished cause →
      Settled h u turns (u.worker.buffer ++ received past) cause →
      deeds past = (Turn.play h turns u.worker.state u.desk).events →
      AtReads (fun front => ∃ turns, Through h u turns front) past →
      Phased h u id hook before past s
  | gone : s.isGone = true → FramedPhase h u past → Phased h u id hook before past s

variable {h : Handler σ} {u s : Session σ} {id : Nat} {hook : Hook} {before past : List Event}
  {turns : List Turn}

theorem framesOf_complete {data : Bytes} {f : Frame} {size : Nat}
    (hp : Frame.parse data = .complete f size) (more : Bytes) :
    framesOf (data ++ more) = f :: framesOf (data.drop size ++ more) ∧
      lastOf (data ++ more) = lastOf (data.drop size ++ more) := by
  rw [framesOf, lastOf, Frame.parseAll_append hp]
  exact ⟨rfl, rfl⟩

theorem framesOf_other {data : Bytes} (hp : ∀ f size, Frame.parse data ≠ .complete f size) :
    framesOf data = [] ∧ lastOf data = Frame.parse data := by
  rw [framesOf, lastOf, Frame.parseAll_other hp]
  exact ⟨rfl, rfl⟩

/-- When the buffer holds no whole frame, all frames have been dealt with, and what stands at
the front of the buffer stands after them. -/
theorem Dealt.all (hd : Dealt h u turns past s)
    (hp : ∀ f size, Frame.parse s.worker.buffer ≠ .complete f size) :
    Turn.frames turns = framesOf (u.worker.buffer ++ received past) ∧
      lastOf (u.worker.buffer ++ received past) = Frame.parse s.worker.buffer := by
  have hframes := hd.frames []
  have hlast := hd.last []
  obtain ⟨hnone, hsame⟩ := framesOf_other hp
  simp only [List.append_nil] at hframes hlast
  rw [hnone, List.append_nil] at hframes
  exact ⟨hframes.symm, hlast.trans hsame⟩

theorem AtSocket.moves (ha : AtSocket u id hook before past s) {events : List Event} {t : Session σ}
    (hm : Desk.Moves isWork s.desk events t.desk)
      (hf : t.desk.outlet.framed = s.desk.outlet.framed) :
    AtSocket u id hook before (past ++ events) t := by
  have hat := ha.toAttending.moves hm
  rw [List.append_assoc] at hat
  exact ⟨hat, hf.trans ha.framed, hm.conn.trans ha.conn⟩

/-! ### One step -/

/-- The frame at the front of the buffer is dealt with. -/
theorem phased_frame {f : Frame} {size : Nat} (hu : u.desk.Ready)
    (ha : AtSocket u id hook before past s) (hs : s.worker.phase = .serving)
    (hd : Dealt h u turns past s)
    (hreads : AtReads (fun front => ∃ turns, Through h u turns front) past)
    (hp : Frame.parse s.worker.buffer = .complete f size) :
    Phased h u id hook before (past ++ (s.frame h f (s.worker.buffer.drop size)).events)
      (s.frame h f (s.worker.buffer.drop size)).value := by
  let p := Turn.deal h s.worker.state s.desk (.frame f)
  have hplayed := (Turn.moves_play h u.worker.state hu turns).ready hu
  obtain ⟨hevents, hstate, hending, hdesk⟩ := Turn.deal_alike h
    (Turn.play h turns u.worker.state u.desk).value.state hd.desk hplayed ha.ready (.frame f)
  rw [hd.state] at hevents hstate hending hdesk
  have hnext := Turn.play_append h _ hd.ending [.frame f]
  rw [Turn.play_one, hd.state] at hnext
  have hquiet := Turn.isRead_of_deal h s.worker.state ha.ready (.frame f)
  rw [frame_deals h ha.ready.unreleased hs (Frame.opcode_of_parse hp)]
  have hframed : p.value.desk.outlet.framed = s.desk.outlet.framed :=
    Turn.framed_deal _ _ ha.ready.unreleased (.frame f)
  have hat := ha.moves (t := ⟨{ s.worker with
    buffer := s.worker.buffer.drop size, state := p.value.state, phase :=
      phaseAfter p.value.ending }, p.value.desk⟩)
    ((Turn.moves_deal _ _ ha.ready (.frame f)).mono fun _ => isWork_of_isDeed) hframed
  have hread : received (past ++ p.events) = received past := received_unread hquiet
  have hdeeds : deeds (past ++ p.events) =
      (Turn.play h (turns ++ [.frame f]) u.worker.state u.desk).events := by
    rw [deeds_append, deeds_of_isRead hquiet, hd.deeds, hnext]
    exact congrArg _ hevents.symm
  have hbefore := hreads.append hquiet
  have hplay : (Turn.play h (turns ++ [.frame f]) u.worker.state u.desk).value.ending =
      p.value.ending := by
    rw [hnext]
    exact hending
  have hframes : ∀ more, framesOf (u.worker.buffer ++ received (past ++ p.events) ++ more) =
      Turn.frames (turns ++ [.frame f]) ++ framesOf (s.worker.buffer.drop size ++ more) := by
    intro more
    rw [hread, hd.frames, (framesOf_complete hp more).1, Turn.frames_append]
    simp [Turn.frames]
  cases he : p.value.ending with
  | none =>
    rw [he] at hplay
    refine .serving (turns ++ [.frame f]) (he ▸ hat) rfl ⟨hplay, ?_, ?_, hdeeds, hframes,
      fun more => ?_⟩ hbefore
    · rw [hnext]
      exact hstate
    · rw [hnext]
      exact hdesk
    · rw [hread, hd.last, (framesOf_complete hp more).2]
  | some ending =>
    rw [he] at hplay
    refine .finished (turns ++ [.frame f]) (some ending) (he ▸ hat) rfl
      (.aborted rfl hd.ending hplay ?_) hdeeds hbefore
    have := hframes []
    rw [List.append_nil] at this
    rw [this]
    exact List.prefix_append ..

/-- With no whole frame at the front of the buffer, the loop ends for a cause that fits. -/
theorem phased_conclude {cause : Option Ending} (ha : AtSocket u id hook before past s)
    (hs : s.worker.phase = .serving) (hd : Dealt h u turns past s)
    (hreads : AtReads (fun front => ∃ turns, Through h u turns front) past)
    (hsettled : Settled h u turns (u.worker.buffer ++ received past) cause) :
    Phased h u id hook before past (s.conclude cause) := by
  rw [conclude_eq hs]
  exact .finished turns cause ⟨⟨ha.number, ha.ready, ha.told⟩, ha.framed, ha.conn⟩ rfl hsettled
    hd.deeds hreads

/-- The requests that come in while a read waits are turns; with them, the connection is
through with all that has come in. -/
theorem through_await (hu : u.desk.Ready) (ha : AtSocket u id hook before past s)
    (hd : Dealt h u turns past s) (hp : Frame.parse s.worker.buffer = .incomplete) :
    ∃ n, Through h u (turns ++ List.replicate n .ask) (past ++ s.awaited.events) ∧
      (Turn.play h (turns ++ List.replicate n .ask) u.worker.state u.desk).value.state =
        s.worker.state ∧
      (Turn.play h (turns ++ List.replicate n .ask) u.worker.state u.desk).value.desk.Alike
        s.deskAfter := by
  let played := Turn.play h turns u.worker.state u.desk
  have hplayed : played.value.desk.Ready := (Turn.moves_play _ _ hu turns).ready hu
  obtain ⟨n, hending, hstate, hevents, hdesk⟩ := Turn.await_asks h played.value.state hplayed
    s.worker.room s.worker.arrivals
  have hwait : played.value.desk.transition .waiting = s.desk.transition .waiting := hd.desk
  have hafter : s.deskAfter =
      (played.value.desk.transition .waiting).update played.value.desk.outlet
      s.awaited.value.link := by
    rw [deskAfter, hwait, hd.desk.outlet]
  rw [hwait] at hevents hdesk
  have hnext := Turn.play_append h _ hd.ending (List.replicate n .ask)
  have hquiet := isRead_awaited ha.ready
  have hread : received (past ++ s.awaited.events) = received past := received_unread hquiet
  obtain ⟨hall, hlast⟩ := hd.all (by simp [hp])
  refine ⟨n, ⟨?_, ?_, ?_, ?_⟩, ?_, ?_⟩
  · rw [hnext]
    exact hending
  · rw [deeds_append, deeds_of_isRead hquiet, hd.deeds, hnext]
    exact congrArg _ hevents
  · rw [hread, Turn.frames_append, Turn.frames_asks, List.append_nil]
    exact hall
  · rw [hread, hlast, hp]
  · rw [hnext]
    exact hstate.trans hd.state
  · rw [hnext, hafter, hwait]
    exact hdesk.symm

theorem phased_fill (hu : u.desk.Ready) (ha : AtSocket u id hook before past s)
    (hs : s.worker.phase = .serving) (hdrained : s.worker.drained = false)
    (hd : Dealt h u turns past s)
    (hreads : AtReads (fun front => ∃ turns, Through h u turns front) past)
    (hp : Frame.parse s.worker.buffer = .incomplete) :
    Phased h u id hook before (past ++ s.fill.events) s.fill.value := by
  obtain ⟨n, hthrough, hstate, hdesk⟩ := through_await hu ha hd hp
  obtain ⟨hfilled, hrefilled⟩ := filled ha.toAttending hs hdrained
  obtain ⟨hall, hlast⟩ := hd.all (by simp [hp])
  have hat := ha.moves (moves_fill hs).desk (congrArg (·.outlet.framed) hfilled.desk)
  have hdeeds : deeds (past ++ s.fill.events) =
      (Turn.play h (turns ++ List.replicate n .ask) u.worker.state u.desk).events := by
    have hread : deeds (past ++ s.readEvents) = deeds (past ++ s.awaited.events) := by
      rw [readEvents, ← List.append_assoc, deeds_append]
      exact List.append_nil _
    rcases hfilled.noted with hevents | ⟨note, hevents, hnote⟩
    · rw [hevents, hread, hthrough.deeds]
    · rw [hevents, ← List.append_assoc, deeds_append, hread, hthrough.deeds]
      simp [deeds, hnote]
  have hbefore : AtReads (fun front => ∃ turns, Through h u turns front) (past ++ s.fill.events) :=
    atReads_fill ha.toAttending hs hdrained hreads ⟨_, hthrough⟩
  have hstarved : ∀ {cause : Option Ending}, received s.fill.events = [] →
      (cause = none ∨ ∃ fault, cause = some (.teardown fault) ∨ cause = some (.exhausted fault)) →
      Settled h u (turns ++ List.replicate n .ask) (u.worker.buffer ++
      received (past ++ s.fill.events)) cause := by
    intro cause hnone hcause
    rw [received_append, hnone, List.append_nil]
    refine .starved hthrough.ending ?_ (hlast.trans hp) hcause
    rw [Turn.frames_append, Turn.frames_asks, List.append_nil, hall]
  cases hrefilled with
  | serving hphase =>
    -- what the read has brought is added to the buffer, and to all that has come in
    have hmore : ∀ more, u.worker.buffer ++ received (past ++ s.fill.events) ++ more =
        u.worker.buffer ++ received past ++ (received s.fill.events ++ more) := by
      simp
    refine .serving _ hat hphase ⟨hthrough.ending, hstate.trans hfilled.state.symm,
      hfilled.desk ▸ hdesk, hdeeds,
      fun more => ?_, fun more => ?_⟩ hbefore
    · rw [hmore, hd.frames, hfilled.buffer,
        Turn.frames_append, Turn.frames_asks, List.append_nil, List.append_assoc]
    · rw [hmore, hd.last, hfilled.buffer, List.append_assoc]
  | exhausted fault hphase hnone =>
    exact .finished _ _ hat hphase (hstarved hnone (.inr ⟨fault, .inr rfl⟩)) hdeeds hbefore
  | cut fault _ hphase hnone =>
    exact .finished _ _ hat hphase (hstarved hnone (.inr ⟨fault, .inl rfl⟩)) hdeeds hbefore

theorem phased_finished {cause : Option Ending} (thread : Nat)
    (ha : AtSocket u id hook before past s) (hs : s.worker.phase = .finished cause)
    (hsettled : Settled h u turns (u.worker.buffer ++ received past) cause)
    (hdeeds : deeds past = (Turn.play h turns u.worker.state u.desk).events)
    (hreads : AtReads (fun front => ∃ turns, Through h u turns front) past) :
    FramedPhase h u (past ++ (s.step h thread).events) := by
  obtain rfl := ha.number
  let rest := closing s.desk.id hook s.desk.outlet.conn (asked s.desk.id (before ++ past))
  have hquiet : ∀ e ∈ .log (.ended s.desk.outlet.conn cause) :: rest, e.isRead = false := by
    refine List.forall_mem_cons.2 ⟨rfl, fun e he => ?_⟩
    exact (closing_cases e he).elim isRead_of_isFarewell isRead_of_isDestroyed
  rw [step_finished h thread ha.told hs]
  refine ⟨⟨turns, cause, rest, ?_, ?_, closing_cases⟩, hreads.append hquiet⟩
  · rw [received_unread hquiet]
    exact hsettled
  · rw [deeds_append, deeds_of_isRead hquiet, hdeeds, ← ha.conn]

/-- **One step keeps what holds of an upgraded connection.** -/
theorem phased_step (thread : Nat) (hu : u.desk.Ready) (hphased : Phased h u id hook before past s)
    (hg : s.isGone = false) :
    Phased h u id hook before (past ++ (s.step h thread).events) (s.step h thread).value := by
  cases hphased with
  | serving turns ha hs hd hreads =>
    rw [step_frames h thread hs ha.framed, serveFrames_eq]
    cases hp : Frame.parse s.worker.buffer with
    | complete f size => exact phased_frame hu ha hs hd hreads hp
    | incomplete =>
      obtain ⟨hframes, hlast⟩ := hd.all (by simp [hp])
      cases hdrained : s.worker.drained with
      | true =>
        have hstarved := Settled.starved hd.ending hframes (hlast.trans hp) (.inl rfl)
        simpa using phased_conclude ha hs hd hreads hstarved
      | false => exact phased_fill hu ha hs hdrained hd hreads hp
    | close =>
      obtain ⟨hframes, hlast⟩ := hd.all (by simp [hp])
      simpa using phased_conclude ha hs hd hreads (.closed hd.ending hframes (hlast.trans hp))
    | violation cause =>
      obtain ⟨hframes, hlast⟩ := hd.all (by simp [hp])
      simpa using phased_conclude ha hs hd hreads (.violated hd.ending hframes (hlast.trans hp))
  | finished turns cause ha hs hsettled hdeeds hreads =>
    have hdone := phased_finished thread ha hs hsettled hdeeds hreads
    refine .gone ?_ hdone
    simp [step, hs, bind, takeDown, isGone]
  | gone hgone =>
    rw [hgone] at hg
    cases hg

/-- From the upgrade on, every frame is dealt with. -/
theorem framed_run (thread : Nat) (ha : Attending id hook before u)
    (hframed : u.desk.outlet.framed = true) (hs : u.worker.phase = .serving) :
    FramedPhase h u (u.run h thread).events := by
  have hat : AtSocket u id hook before [] u := ⟨by simpa using ha, hframed, rfl⟩
  have hd : Dealt h u [] [] u := ⟨rfl, rfl, rfl, rfl, by simp [Turn.frames], by simp⟩
  obtain ⟨hend, hgone⟩ := run_invariant h thread
    (fun past s hg hphased => phased_step thread ha.ready hphased hg)
    (.serving [] hat hs hd atReads_nil)
  rw [List.nil_append] at hend
  cases hend with
  | serving _ _ hphase => simp [isGone, hphase] at hgone
  | finished _ _ _ hphase => simp [isGone, hphase] at hgone
  | gone _ hdone => exact hdone

/-- The answer to a ping is sent from where the turns before it have come to. -/
theorem ponged_ping (h : Handler σ) (hu : u.desk.Ready)
    (hending : (Turn.play h turns u.worker.state u.desk).value.ending = none) {f : Frame}
    (hf : f.opcode = .ping) : Ponged h u turns f := by
  have hmoves := Turn.moves_play h u.worker.state hu turns
  have hready := hmoves.ready hu
  let d := (Turn.play h turns u.worker.state u.desk).value.desk
  obtain ⟨horderly, -⟩ := Outlet.orderly_drainAll (pongParts f.payload) d.outlet.script d.link
  rw [Desk.link_id hready, hmoves.id] at horderly
  refine ⟨_, ?_, horderly.sent u.desk.outlet.conn f.payload⟩
  rw [Turn.play_append h _ hending, Turn.play_one]
  simp [Turn.deal, hf, bind, Traced.note, Traced.record, Desk.transmit_eq hready.unreleased,
    hmoves.conn, d]

/-- **After the upgrade every frame is dealt with, once and in order.** A connection that is
upgraded is so at one moment: after so many steps it is `u`, and what it has received is a
header and its buffer. What happens from then on is what the frames of the rest come to, and what
a ping comes to is its answer. -/
theorem framed_phase (h : Handler σ) (thread : Nat) {hub : Hub} (hs : hub.Sound) {readSize : Nat}
    {state : σ} {t : Transport} {started : Int} {s : Session σ}
    (ha : accept? .webSocket readSize state t { started } hub = some s)
    (hup : (s.run h thread).events.any isUpgraded = true) :
    ∃ count u before head, s.steps h thread count = ⟨u, before⟩ ∧
      (∃ path stage, before.getLast? = some (.log (.upgraded u.desk.outlet.conn path stage))) ∧
      u.worker.phase = .serving ∧ u.desk.outlet.framed = true ∧
      IsHeader head ∧ received before = head ++ u.worker.buffer ∧
      s.run h thread = ⟨(u.run h thread).value, before ++ (u.run h thread).events⟩ ∧
      FramedPhase h u (u.run h thread).events ∧
      ∀ turns f, (Turn.play h turns u.worker.state u.desk).value.ending = none → f.opcode = .ping →
        Ponged h u turns f := by
  have haccepted := accepted_of_accept? hs ha
  have hfresh : Heading s.desk.id t.hook [] s :=
    .fresh readSize state t.arrivals haccepted.atLines rfl haccepted.worker
  obtain ⟨count, u, before, hsteps, hu⟩ := upgraded_run thread hfresh (List.any_eq_true.1 hup)
  rw [List.nil_append] at hu
  obtain ⟨head, hhead, hreceived⟩ := hu.header
  have hrun := run_steps h thread count s
  rw [hsteps] at hrun
  exact ⟨count, u, before, head, hsteps, hu.noted, hu.phase, hu.framed, hhead, hreceived, hrun,
    framed_run thread hu.toAttending hu.framed hu.phase,
    fun _ _ hending hping => ponged_ping h hu.ready hending hping⟩

/-- A client sends its first ping along with the end of its header. -/
theorem framed_phase_pinged :
    let hub : Hub := { capacity := 1 }
    let h := Shell.handler { prompt := "> ", mode := .webSocket }
    let header := Bytes.ofText "GET / HTTP/1.1\r\nUpgrade: websocket\r\n\r\n"
    let t : Transport := { arrivals := [.data (header ++ [0x89, 0x80]), .data [0, 0, 0, 0]] }
    hub.Sound ∧ ∃ s, accept? .webSocket 128 () t { started := 0 } hub = some s ∧
      (s.run h 1).events.any isUpgraded = true ∧
      ∃ count u before head, s.steps h 1 count = ⟨u, before⟩ ∧
        (∃ path stage, before.getLast? = some (.log (.upgraded u.desk.outlet.conn path stage))) ∧
        u.worker.phase = .serving ∧ u.desk.outlet.framed = true ∧
        IsHeader head ∧ received before = head ++ u.worker.buffer ∧
        s.run h 1 = ⟨(u.run h 1).value, before ++ (u.run h 1).events⟩ ∧
        FramedPhase h u (u.run h 1).events ∧
        ∀ turns f, (Turn.play h turns u.worker.state u.desk).value.ending = none →
          f.opcode = .ping → Ponged h u turns f := by
  intro hub h header t
  have hs : hub.Sound := Hub.sound_empty 1
  have hup : ∀ s, accept? .webSocket 128 () t { started := 0 } hub = some s →
      (s.run h 1).events.any isUpgraded = true := by
    intro s ha
    cases ha
    rw [run_eq_steps 10]
    · decide +kernel
    · decide +kernel
  exact ⟨hs, _, rfl, hup _ rfl, framed_phase h 1 hs rfl (hup _ rfl)⟩

end Session
end NetShell
