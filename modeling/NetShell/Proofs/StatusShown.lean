import NetShell.Proofs.Teardown

/-! The status says what a connection does.

The status is a label that others see: the report of connections, and whoever looks on at a
call of the transport or of the handler. It is never behind: as long as nobody has asked for a
connection's end, it is what the history shows the worker to have turned to last
(`Event.doing`); from the first request on, wherever it comes in (`Session.requested`), it is
closing, whatever the worker does; and a connection is closed just when it is destroyed
(`Session.status_shown`). -/
namespace NetShell
open WebSocket Event

variable {σ : Type}

/-! ### What the history shows -/

/-- What a worker has turned to last, `now` if nothing of the history says otherwise: it waits
from the beginning of a read on, and is at a message from the moment that the handler is given
it. -/
def Event.doing (now : Status) : List Event → Status
  | [] => now
  | .read .. :: rest => doing .waiting rest
  | .message .. :: rest => doing .running rest
  | _ :: rest => doing now rest

theorem Event.doing_append (now : Status) (a b : List Event) :
    doing now (a ++ b) = doing (doing now a) b := by
  induction a generalizing now with
  | nil => rfl
  | cons e rest ih => cases e <;> exact ih _

theorem Event.doing_of_quiet (now : Status) {events : List Event}
    (h : ∀ e ∈ events, e.isInput = false) :
    doing now events = now := by
  induction events with
  | nil => rfl
  | cons e rest ih =>
    have he := h e (List.mem_cons_self ..)
    have hrest := ih fun e' he' => h e' (List.mem_cons_of_mem _ he')
    cases e with
    | read | message => cases he
    | _ => exact hrest

theorem Event.isClosing_doing {now : Status} (h : now.isClosing = false) (events : List Event) :
    (doing now events).isClosing = false := by
  induction events generalizing now with
  | nil => exact h
  | cons e rest ih =>
    cases e with
    | read | message => exact ih rfl
    | _ => exact ih h

theorem Event.doing_read (now : Status) {front back : List Event}
    (hback : ∀ e ∈ back, e.isInput = false) (link : Nat) (status : Status) (room : Nat)
    (outcome : Except Fault Bytes) :
    doing now (front ++ .read link status room outcome :: back) = .waiting := by
  rw [doing_append]
  exact doing_of_quiet .waiting hback

theorem Event.doing_message (now : Status) {front back : List Event}
    (hback : ∀ e ∈ back, e.isInput = false) (link : Nat) (status : Status) (data : Bytes) :
    doing now (front ++ .message link status data :: back) = .running := by
  rw [doing_append]
  exact doing_of_quiet .running hback

/-- What an event of one occasion shows of a connection, `requested` saying whether someone had
asked for its end on an earlier one, and `ended` whether this one leaves it destroyed. What comes
in on the same occasion is too late to be shown: a read is shown as it is begun, and a callback
before the handler does anything in it. -/
def Event.Shows (mode : Mode) (id : Nat) (requested ended : Bool) : Event → Prop
  | .read link status _ _ => link = id ∧ status = if requested then .closing else .waiting
  | .message link status _ => link = id ∧ status = if requested then .closing else .running
  | .connected link status _ =>
    link = id ∧ status = if requested then .closing else
      match mode with
      | .line => .start
      | .webSocket => .waiting
  | .shutdown link status _ | .close link status _ => link = id →
    status = if ended then .closed else .closing
  | .write .. | .log _ => True

/-! ### Who changes a status -/

/-- A status stays as it is, unless a request claims it. -/
def Status.Stays (now next : Status) : Prop := next = now ∨ next.isClosing = true

theorem Status.Stays.refl (now : Status) : now.Stays now := .inl rfl

theorem Status.Stays.trans {a b c : Status} (h : a.Stays b) (h' : b.Stays c) : a.Stays c := by
  rcases h' with rfl | hclosing
  · exact h
  · exact .inr hclosing

/-- A status that no request has claimed has stayed. -/
theorem Status.Stays.of_free {now next : Status} (h : now.Stays next)
    (hfree : next.isClosing = false) : next = now :=
  h.resolve_right (by simp [hfree])

theorem Link.stays_shutdown (l : Link) : l.status.Stays l.shutdown.value.status :=
  .inr (isClosing_shutdown l)

theorem Inlet.stays_await (room : Nat) (arrivals : List Arrival) (l : Link) :
    l.status.Stays (await room arrivals l).value.link.status := by
  induction arrivals generalizing l with
  | nil => exact .refl _
  | cons a rest ih =>
    cases a with
    | shutdown => exact l.stays_shutdown.trans (ih _)
    | data | finish | fault => exact .refl _

theorem Link.Told.moved {id : Nat} {hook : Hook} {past : List Event} {l : Link}
    (ht : Told id hook past l) (next : Status) :
    l.status.moved next = if asked id past then .closing else next := by
  rw [← ht.isClosing]
  cases ht with
  | free _ _ _ status => simp [Status.moved, status]
  | claimed _ _ status => simp [Status.moved, status, Status.isClosing]

/-- What the status comes to, if it is free, and what a request makes of it. -/
theorem Link.Told.stayed {id : Nat} {hook : Hook} {past : List Event} {l : Link}
    (ht : Told id hook past l) {next : Status}
    (hfree : l.status.isClosing = false → l.status = next) :
    l.status = if asked id past then .closing else next := by
  rw [← ht.isClosing]
  cases ht with
  | free _ _ _ status =>
    rw [status]
    exact hfree status
  | claimed _ _ status => simp [status, Status.isClosing]

/-- The worker has moved a status on that has stayed free. -/
theorem Link.Told.turned {id : Nat} {hook : Hook} {past : List Event} {l : Link}
    (ht : Told id hook past l) {next status : Status} (hs : (l.status.moved next).Stays status)
    (hfree : status.isClosing = false) :
    status = next := by
  have hstayed := hs.of_free hfree
  rw [ht.moved] at hstayed
  split at hstayed
  · rw [hstayed] at hfree
    cases hfree
  · exact hstayed

/-- Writing does not move the status. -/
theorem Outlet.stays_drainAll (parts : List Bytes) (script : List Acceptance) (l : Link) :
    l.status.Stays (drainAll parts script l).value.link.status := by
  cases hc : l.status.isClosing with
  | true => exact .inr ((course_drainAll parts script l).isClosing hc)
  | false =>
    -- to move a free status to what it is changes nothing, before the writes and so after them
    have hsame : l.transition l.status = l := by
      simp only [Link.transition, Status.moved, hc, Bool.false_eq_true, if_false]
    have hmoved := congrArg (·.value.link.status) (drainAll_transition hc parts script l)
    rw [hsame] at hmoved
    cases hafter : (drainAll parts script l).value.link.status.isClosing with
    | true => exact .inr hafter
    | false =>
      exact .inl (by simpa [Drained.transition, Link.transition, Status.moved, hafter] using hmoved)

namespace Hub

theorem stays_shutdown {hub : Hub} (hs : hub.Sound) {id j : Nat} (hj : j < hub.links.length) :
    (hub.link id).status.Stays ((hub.shutdown j).value.link id).status := by
  have hnumber : (hub.link j).shutdown.value.id = j := Link.id_shutdown.trans (hs.link_id hj)
  rw [shutdown_eq]
  by_cases hid : j = id
  · subst hid
    rw [link_setLink hnumber hj]
    exact Link.stays_shutdown _
  · rw [link_setLink_ne (by rw [hnumber]; exact hid)]
    exact .refl _

theorem stays_shutdownAll {hub : Hub} (hs : hub.Sound) (id : Nat) (ids : List Nat)
    (hknown : ∀ j ∈ ids, j < hub.links.length) :
    (hub.link id).status.Stays ((hub.shutdownAll ids).value.link id).status := by
  induction ids generalizing hub with
  | nil => exact .refl _
  | cons j rest ih =>
    have hj := hknown j (List.mem_cons_self ..)
    refine (stays_shutdown hs hj).trans (ih (sound_shutdown hs hj) fun k hk => ?_)
    simpa [shutdown_eq] using hknown k (List.mem_cons_of_mem _ hk)

theorem stays_stop {hub : Hub} (hs : hub.Sound) (id : Nat) :
    (hub.link id).status.Stays (hub.stop.value.link id).status := by
  cases h : hub.stopping with
  | true =>
    simp only [stop, h, if_true]
    exact .refl _
  | false =>
    rw [stop_eq h]
    exact stays_shutdownAll (sound_stopping hs) id _ fun j hj =>
      hs.known j (List.mem_of_mem_filter hj)

end Hub

namespace Desk

variable {d : Desk}

theorem stays_transmit (hr : d.Ready) (parts : List Bytes) (data : Bytes) :
    d.link.status.Stays (d.transmit (Outlet.transmit parts data)).value.desk.link.status := by
  have hnumber : (Outlet.drainAll parts d.outlet.script d.link).value.link.id = d.id :=
    (Outlet.course_drainAll parts d.outlet.script d.link).id_eq.trans (link_id hr)
  rw [transmit_eq hr.unreleased, link_update hr hnumber]
  exact Outlet.stays_drainAll ..

theorem stays_act (hr : d.Ready) (a : Act) :
    d.link.status.Stays (d.act a).value.desk.link.status := by
  rcases act_cases d a with ⟨parts, data, -, h⟩ | ⟨hub, rfl | rfl, h⟩
  · rw [h]
    exact stays_transmit hr parts data
  · rw [h]
    exact Hub.stays_shutdown hr.sound hr.known
  · rw [h]
    exact Hub.stays_stop hr.sound d.id

/-- **What a handler asks for does not move the status**, but it may be a request that claims
it. -/
theorem stays_perform (hr : d.Ready) (acts : List Act) :
    d.link.status.Stays (d.perform acts).value.desk.link.status := by
  induction acts generalizing d with
  | nil => exact .refl _
  | cons a rest ih =>
    rw [perform_cons hr.unreleased]
    exact (stays_act hr a).trans (ih ((moves_act hr a).ready hr))

end Desk

namespace Session

variable {h : Handler σ} {mode : Mode} {id conn : Nat} {hook : Hook} {past : List Event}
  {s : Session σ}

/-! ### One step -/

/-- What the worker turns to in a step: nothing, a read, a message, or telling the handler of the
connection. The status is shown as it is then, and stays. -/
inductive Turning (s : Session σ) (t : Traced (Session σ)) : Prop
  | still : (∀ e ∈ t.events, e.isInput = false) →
      s.desk.link.status.Stays t.value.desk.link.status →
      (t.value.desk.outlet.framed = false → s.desk.outlet.framed = false) →
      (t.value.worker.buffer ≠ [] → s.worker.buffer ≠ []) → Turning s t
  | read (front back : List Event) (room : Nat) (outcome : Except Fault Bytes) :
      t.events = front ++ .read s.desk.id (s.desk.link.status.moved .waiting) room outcome :: back →
      (∀ e ∈ front, e.isInput = false) → (∀ e ∈ back, e.isInput = false) →
      (s.desk.link.status.moved .waiting).Stays t.value.desk.link.status → Turning s t
  | message (front back : List Event) (data : Bytes) :
      t.events = front ++ .message s.desk.id (s.desk.link.status.moved .running) data :: back →
      (∀ e ∈ front, e.isInput = false) → (∀ e ∈ back, e.isInput = false) →
      (s.desk.link.status.moved .running).Stays t.value.desk.link.status →
      (s.worker.mode = .line ∨ t.value.desk.outlet.framed = true) → Turning s t
  | connected (front back : List Event) (request : Option Request) :
      t.events = front ++ .connected s.desk.id s.desk.link.status request :: back →
      (∀ e ∈ front, e.isInput = false) → (∀ e ∈ back, e.isInput = false) →
      s.desk.link.status.Stays t.value.desk.link.status →
      (s.worker.mode = .line ∧ s.worker.phase = .fresh ∨
        s.worker.mode = .webSocket ∧ s.worker.phase = .serving ∧ s.desk.outlet.framed = false ∧
          s.worker.buffer ≠ [] ∧ (t.value.worker.phase = .serving →
          t.value.desk.outlet.framed = true)) →
      Turning s t

/-- What a step comes to as its events show it. -/
structure Shown (s : Session σ) (t : Traced (Session σ)) : Prop where
  mode : t.value.worker.mode = s.worker.mode
  turning : s.Turning t

/-- A notice before all else shows nothing more. -/
theorem Shown.noted {t : Traced (Session σ)} (ht : s.Shown t) (n : Notice) :
    s.Shown ⟨t.value, .log n :: t.events⟩ := by
  have hfront : ∀ {front : List Event}, (∀ e ∈ front, e.isInput = false) →
      ∀ e ∈ .log n :: front, e.isInput = false := fun h => List.forall_mem_cons.2 ⟨rfl, h⟩
  refine ⟨ht.mode, ?_⟩
  cases ht.turning with
  | still hquiet hstays hframed hbuffer =>
    exact .still (hfront hquiet) hstays hframed hbuffer
  | read front back _ _ hevents hquiet hback hstays =>
    exact .read (.log n :: front) back _ _ (congrArg _ hevents) (hfront hquiet) hback hstays
  | message front back _ hevents hquiet hback hstays hframed =>
    exact .message (.log n :: front) back _ (congrArg _ hevents) (hfront hquiet) hback
      hstays hframed
  | connected front back _ hevents hquiet hback hstays hplace =>
    exact .connected (.log n :: front) back _ (congrArg _ hevents) (hfront hquiet) hback
      hstays hplace

/-- What is given to the handler: lines of a terminal, and the texts of an upgraded client. -/
theorem shown_dispatch (hr : s.desk.Ready) (hs : s.worker.phase = .serving)
    (hm : s.worker.mode = .line ∨ s.desk.outlet.framed = true) (data rest : Bytes) :
    s.Shown (dispatch h data ⟨{ s.worker with buffer := rest }, s.desk⟩) := by
  have hready := (Desk.moves_transition isWork s.desk .running rfl).ready hr
  have hlink := Desk.link_transition hr .running
  have hacts := Desk.moves_perform hready (h.message s.worker.state data).acts
  have hstays := Desk.stays_perform hready (h.message s.worker.state data).acts
  rw [hlink] at hstays
  rw [dispatch_eq (s := ⟨{ s.worker with buffer := rest }, s.desk⟩) h hr.unreleased hs]
  refine ⟨rfl, .message [] _ data ?_ (List.forall_mem_nil _)
    (hacts.quiet (fun _ => isInput_of_isOutput) hready) hstays ?_⟩
  · rw [hlink]
    rfl
  · refine hm.imp_right fun hframed => ?_
    exact (Desk.kept_perform hready.unreleased (h.message s.worker.state data).acts).framed.trans
      hframed

/-- The end of a header: the handler is told, and the client is upgraded or the connection ends. -/
theorem shown_changeOver (hr : s.desk.Ready) (hs : s.worker.phase = .serving)
    (hm : s.worker.mode = .webSocket) (hf : s.desk.outlet.framed = false)
    (hb : s.worker.buffer ≠ []) (rest : Bytes) (up : Upgrade) :
    s.Shown (changeOver h ⟨{ s.worker with buffer := rest, upgrade := up }, s.desk⟩) := by
  let r := h.connected s.worker.state (some up.request)
  have hacts := Desk.moves_perform hr r.acts
  have hready := hacts.ready hr
  have hquiet := hacts.quiet (fun _ => isInput_of_isOutput) hr
  have hstays := Desk.stays_perform hr r.acts
  rw [changeOver_eq (s := ⟨{ s.worker with buffer := rest, upgrade := up }, s.desk⟩) h
    hr.unreleased hs]
  cases hflow : (h.connected s.worker.state (some up.request)).flow with
  | abort reason log =>
    exact ⟨rfl, .connected [] _ _ rfl (List.forall_mem_nil _) hquiet hstays
      (.inr ⟨hm, hs, hf, hb, fun h => by cases h⟩)⟩
  | «continue» =>
    dsimp only
    split
    · let reply := Bytes.ofText (switchingProtocols up.request.key)
      have hsent :=
        (Desk.moves_transmit hready [reply] reply).quiet (fun _ => isInput_of_isOutput) hready
      refine ⟨rfl, .connected [] _ _ (by rw [List.cons_append, List.cons_append]; rfl)
        (List.forall_mem_nil _) ?_
        (hstays.trans (Desk.stays_transmit hready [reply] reply))
        (.inr ⟨hm, hs, hf, hb, fun _ => rfl⟩)⟩
      exact List.forall_mem_append.2 ⟨List.forall_mem_append.2 ⟨hquiet, hsent⟩, by simp [isInput]⟩
    · exact ⟨rfl, .connected [] _ _ rfl (List.forall_mem_nil _) hquiet hstays
        (.inr ⟨hm, hs, hf, hb, fun h => by cases h⟩)⟩

theorem shown_line (hr : s.desk.Ready) (hs : s.worker.phase = .serving)
    (hf : s.desk.outlet.framed = false) (hb : s.worker.buffer ≠ []) (data rest : Bytes) :
    s.Shown (s.line h data rest) := by
  cases hm : s.worker.mode with
  | line =>
    rw [line_line h hm]
    exact shown_dispatch hr hs (.inl hm) data rest
  | webSocket =>
    rw [line_webSocket h hm,
      request_eq (s := ⟨{ s.worker with buffer := rest }, s.desk⟩) h hr.unreleased hs]
    cases (s.worker.upgrade.feed data).1 with
    | «continue» => exact ⟨rfl, .still (by simp) (.refl _) id fun _ => hb⟩
    | headersDone => exact shown_changeOver hr hs hm hf hb rest _
    | reject cause =>
      have hsent :=
        (Desk.moves_transmit hr [notImplemented] notImplemented).quiet
          (fun _ => isInput_of_isOutput) hr
      have hkept := (Desk.kept_transmit hr.unreleased [notImplemented] notImplemented).framed
      exact ⟨rfl, .still hsent (Desk.stays_transmit hr [notImplemented] notImplemented)
        hkept.symm.trans fun _ => hb⟩

theorem shown_frame (hr : s.desk.Ready) (hs : s.worker.phase = .serving)
    (hf : s.desk.outlet.framed = true) (hb : s.worker.buffer ≠ []) (f : Frame) (rest : Bytes) :
    s.Shown (s.frame h f rest) := by
  by_cases hping : f.opcode = .ping
  · have hsent :=
      (Desk.moves_transmit hr [Frame.header (UInt8.ofNat Opcode.pong.code) f.payload.length,
        f.payload]
      f.payload).quiet (fun _ => isInput_of_isOutput) hr
    rw [frame_ping h hr.unreleased hping]
    have hkept :=
      (Desk.kept_transmit hr.unreleased [Frame.header (UInt8.ofNat Opcode.pong.code)
        f.payload.length,
      f.payload] f.payload).framed
    exact ⟨rfl, .still (List.forall_mem_cons.2 ⟨rfl, hsent⟩) (Desk.stays_transmit hr _ f.payload)
      hkept.symm.trans
      fun _ => hb⟩
  · by_cases hpong : f.opcode = .pong
    · rw [frame_pong h hpong]
      exact ⟨rfl, .still (by simp [isInput]) (.refl _) id fun _ => hb⟩
    · rw [frame_other h hping hpong]
      exact (shown_dispatch hr hs (.inr hf) f.payload rest).noted _

theorem shown_conclude (hs : s.worker.phase = .serving) (cause : Option Ending) :
    s.Shown (pure (s.conclude cause)) := by
  rw [conclude_eq hs]
  exact ⟨rfl, .still (by simp) (.refl _) id id⟩

/-- A read is begun as the worker's status moves to waiting. -/
theorem shown_fill (ha : Attending id hook past s) (hs : s.worker.phase = .serving)
    (hd : s.worker.drained = false) :
    s.Shown s.fill := by
  have hfilled := (filled ha hs hd).1
  have hquiet : ∀ e ∈ s.awaited.events, e.isInput = false := fun e he =>
    isInput_of_isFarewell (awaited_farewell ha.ready e he)
  have hlink := Desk.link_transition ha.ready .waiting
  have hnumber : (s.desk.transition .waiting).link.id = s.desk.id := by
    rw [hlink]
    exact Desk.link_id ha.ready
  have hstatus : (s.desk.transition .waiting).link.status = s.desk.link.status.moved .waiting := by
    rw [hlink]
    rfl
  have hstays : (s.desk.link.status.moved .waiting).Stays s.fill.value.desk.link.status := by
    have hawaited :=
      Inlet.stays_await s.worker.room s.worker.arrivals (s.desk.transition .waiting).link
    have hback : s.awaited.value.link.id = s.desk.id :=
      (course_await isWork s.worker.room s.worker.arrivals
        (s.desk.transition .waiting).link).id_eq.trans hnumber
    have hready := (Desk.moves_transition isWork s.desk .waiting rfl).ready ha.ready
    rw [hfilled.desk, deskAfter, Desk.link_update hready hback]
    rwa [hstatus] at hawaited
  have hread : s.readEvents = s.awaited.events ++
      [.read s.desk.id (s.desk.link.status.moved .waiting) s.worker.room
        s.awaited.value.outcome] := by
    rw [readEvents, hnumber, hstatus]
  rcases hfilled.noted with hevents | ⟨n, hevents, -⟩
  · exact ⟨hfilled.mode, .read _ [] _ _ (hevents.trans hread) hquiet (by simp) hstays⟩
  · refine ⟨hfilled.mode, .read _ [.log n] s.worker.room s.awaited.value.outcome ?_ hquiet
      (by simp [isInput]) hstays⟩
    rw [hevents, hread, List.append_assoc]
    rfl

theorem shown_start (thread : Nat) (hr : s.desk.Ready) (hs : s.worker.phase = .fresh) :
    s.Shown (s.start h thread) := by
  have hbegin := Desk.moves_update (d := s.desk) isWork (.begin thread (.nil _))
  have hready := hbegin.ready hr
  have hlink :
      (s.desk.update s.desk.outlet { s.desk.link with thread }).link = { s.desk.link with thread } :=
    Desk.link_update hr (l := { s.desk.link with thread }) (Desk.link_id hr) _
  cases hm : s.worker.mode with
  | webSocket =>
    rw [start_webSocket h thread hm]
    refine ⟨rfl, .still (by simp [isInput]) ?_ id id⟩
    dsimp only
    rw [hlink]
    exact .refl _
  | line =>
    let acts := (h.connected s.worker.state none).acts
    have hquiet := (Desk.moves_perform hready acts).quiet (fun _ => isInput_of_isOutput) hready
    have hstays := Desk.stays_perform hready acts
    rw [start_line h thread hr.unreleased hm]
    rw [hlink] at hstays ⊢
    exact ⟨rfl, .connected [.log _] _ none rfl (by simp [isInput]) hquiet hstays (.inl ⟨hm, hs⟩)⟩

/-- **A step shows the status as it is** at whatever its worker turns to. -/
theorem shown_step (thread : Nat) (ha : Attending id hook past s)
    (hs : s.worker.phase = .fresh ∨ s.worker.phase = .serving) : s.Shown (s.step h thread) := by
  rcases hs with hs | hs
  · rw [step_fresh h thread hs]
    exact shown_start thread ha.ready hs
  · cases hf : s.desk.outlet.framed with
    | true =>
      rw [step_frames h thread hs hf, serveFrames_eq]
      cases hp : Frame.parse s.worker.buffer with
      | complete f size =>
        have hb : s.worker.buffer ≠ [] := fun hnil => by simp [hnil, Frame.parse] at hp
        exact shown_frame ha.ready hs hf hb f _
      | incomplete =>
        cases hd : s.worker.drained with
        | true => exact shown_conclude hs none
        | false => exact shown_fill ha hs hd
      | close => exact shown_conclude hs _
      | violation cause => exact shown_conclude hs _
    | false =>
      rw [step_lines h thread hs hf, serveLines_eq]
      cases hnext : Telnet.next? s.worker.buffer with
      | some found =>
        have hb : s.worker.buffer ≠ [] := by
          rintro hnil
          rw [hnil] at hnext
          cases hnext
        exact shown_line ha.ready hs hf hb found.1 found.2
      | none =>
        cases hd : s.worker.drained with
        | false => exact shown_fill ha hs hd
        | true =>
          cases hrest : Telnet.remainder s.worker.buffer with
          | some data =>
            have hb : s.worker.buffer ≠ [] := by
              rintro hnil
              rw [hnil] at hrest
              cases hrest
            exact shown_line ha.ready hs hf hb data []
          | none => exact shown_conclude hs none

/-! ### What holds at any time -/

/-- The status is what the history shows. A connection whose worker has not begun has turned to
nothing; and before the upgrade of a WebSocket client nothing is in the buffer that no read has
brought. -/
structure Watched (mode : Mode) (id : Nat) (past : List Event) (s : Session σ) : Prop where
  mode : s.worker.mode = mode
  status : s.desk.link.status = if asked id past then .closing else doing .start past
  fresh : s.worker.phase = .fresh → doing .start past = .start
  lines : s.worker.mode = .webSocket → s.worker.phase = .fresh ∨ s.worker.phase = .serving →
    s.desk.outlet.framed = false →
    doing .start past = .waiting ∨ doing .start past = .start ∧ s.worker.buffer = []

/-- The events of one occasion, each with what is true of the connection just then. -/
def AllShow (mode : Mode) (id : Nat) (past events : List Event) (ended : Bool) : Prop :=
  ∀ e ∈ events, e.Shows mode id (asked id past) ended

/-- Of the calls that end the transport, those made before the connection is destroyed show that
the status is claimed. -/
theorem shows_told {l : Link} (ht : Link.Told id hook past l) {e : Event} (he : e ∈ past)
    (hi : e.isInput = false) (requested : Bool) : e.Shows mode id requested false := by
  have hclosing : ∀ e, e.ends id = true → e ∈ past → e.Shows mode id requested false := by
    intro e hends hmem
    have hcall : e ∈ calls id past := List.mem_filter.2 ⟨hmem, hends⟩
    cases ht with
    | free _ _ _ _ hnone =>
      rw [hnone] at hcall
      cases hcall
    | claimed _ _ _ hboth =>
      rw [hboth] at hcall
      rcases List.mem_pair.1 hcall with rfl | rfl
      · exact fun _ => rfl
      · exact fun _ => rfl
  cases e with
  | read | message | connected => cases hi
  | write | log => trivial
  | shutdown | close =>
    intro hlink
    exact hclosing _ (by simp [ends, hlink]) he hlink

/-- Those made by the worker's own end of it show that it is closed. -/
theorem shows_closing {asked : Bool} {e : Event} (he : e ∈ closing id hook conn asked)
    (requested : Bool) :
    e.Shows mode id requested true := by
  have hnoted : ∀ {failure}, e ∈ (Link.noteFailure failure).events →
      e.Shows mode id requested true := by
    intro failure hmem
    have hwork := Link.isWork_of_noteFailure e hmem
    have hfarewell := Link.isFarewell_of_noteFailure e hmem
    cases e with
    | log => trivial
    | shutdown | close => cases hwork
    | _ => cases hfarewell
  rcases List.mem_append.1 he with he | he
  · split at he
    · cases he
    · simp only [Link.farewell, List.cons_append, List.mem_cons, List.mem_append] at he
      rcases he with rfl | he | rfl | he
      · exact fun _ => rfl
      · exact hnoted he
      · exact fun _ => rfl
      · exact hnoted he
  · rw [List.mem_singleton.1 he]
    trivial

/-- The one input among events that are none. -/
theorem input_eq {front back : List Event} {i e : Event} (hfront : ∀ e ∈ front, e.isInput = false)
    (hback : ∀ e ∈ back, e.isInput = false) (he : e ∈ front ++ i :: back)
    (hinput : e.isInput = true) : e = i := by
  rcases List.mem_append.1 he with hmem | hmem
  · cases (hfront e hmem).symm.trans hinput
  · rcases List.mem_cons.1 hmem with rfl | hmem
    · rfl
    · cases (hback e hmem).symm.trans hinput

/-- **What a connection turns to keeps its status what the history shows.** -/
theorem watched_shown {t : Traced (Session σ)} (ha : Attending id hook past s)
    (hw : Watched mode id past s) (ht : s.Shown t)
    (hat : Attending id hook (past ++ t.events) t.value)
    (hfresh : t.value.worker.phase = .fresh → s.worker.phase = .fresh ∧ ∀ e ∈ t.events,
      e.isInput = false)
    (hserving : t.value.worker.phase = .serving → s.worker.phase = .fresh ∨
      s.worker.phase = .serving) :
    Watched mode id (past ++ t.events) t.value := by
  have hstart : t.value.worker.phase = .fresh → doing .start (past ++ t.events) = .start :=
    fun h => by
    rw [doing_append, doing_of_quiet _ (hfresh h).2]
    exact hw.fresh (hfresh h).1
  -- a status that the worker has not moved is still the one that the past shows
  have hkept : s.desk.link.status.Stays t.value.desk.link.status →
      t.value.desk.link.status.isClosing = false →
      t.value.desk.link.status = doing .start past := fun hstays hfree => by
    have hsame := hstays.of_free hfree
    rw [hsame, ha.told.isClosing] at hfree
    rw [hsame, hw.status, hfree]
    rfl
  have hmode := ht.mode.trans hw.mode
  cases ht.turning with
  | still hquiet hstays hframed hbuffer =>
    have hdoing : doing .start (past ++ t.events) = doing .start past := by
      rw [doing_append, doing_of_quiet _ hquiet]
    refine ⟨hmode, hdoing ▸ hat.told.stayed (hkept hstays), hstart, fun hm hphase hf => ?_⟩
    have hopen : s.worker.phase = .fresh ∨ s.worker.phase = .serving :=
      hphase.elim (fun h => .inl (hfresh h).1) hserving
    rw [hdoing]
    refine (hw.lines (ht.mode.symm.trans hm) hopen (hframed hf)).imp_right fun ⟨hnone, hempty⟩ =>
      ⟨hnone, ?_⟩
    by_contra hne
    exact hbuffer hne hempty
  | read front back room outcome hevents _ hback hstays =>
    have hdoing : doing .start (past ++ t.events) = .waiting := by
      rw [hevents, ← List.append_assoc]
      exact doing_read _ hback _ _ _ _
    exact ⟨hmode, hdoing ▸ hat.told.stayed (ha.told.turned hstays), hstart,
      fun _ _ _ => .inl hdoing⟩
  | message front back data hevents _ hback hstays hplace =>
    have hdoing : doing .start (past ++ t.events) = .running := by
      rw [hevents, ← List.append_assoc]
      exact doing_message _ hback _ _ _
    refine ⟨hmode, hdoing ▸ hat.told.stayed (ha.told.turned hstays), hstart, fun hm _ hf => ?_⟩
    rcases hplace with hline | hframed
    · cases hline.symm.trans (ht.mode.symm.trans hm)
    · cases hframed.symm.trans hf
  | connected front back request hevents hquiet hback hstays hplace =>
    have hdoing : doing .start (past ++ t.events) = doing .start past := by
      rw [doing_append, hevents, doing_append, doing_of_quiet _ hquiet]
      show doing (doing .start past) back = _
      exact doing_of_quiet _ hback
    refine ⟨hmode, hdoing ▸ hat.told.stayed (hkept hstays), hstart, fun hm hphase hf => ?_⟩
    rcases hplace with ⟨hline, -⟩ | ⟨-, hopen, -, -, hframed⟩
    · cases hline.symm.trans (ht.mode.symm.trans hm)
    · rcases hphase with hphase | hphase
      · cases (hfresh hphase).1.symm.trans hopen
      · cases (hframed hphase).symm.trans hf

/-- **Whatever a connection turns to is shown with its status.** -/
theorem allShow_shown {t : Traced (Session σ)} (ha : Attending id hook past s)
    (hw : Watched mode id past s) (ht : s.Shown t)
    (hat : Attending id hook (past ++ t.events) t.value) : AllShow mode id past t.events false := by
  intro e he
  have hmoved := ha.told.moved
  cases hi : e.isInput with
  | false => exact shows_told hat.told (List.mem_append_right _ he) hi _
  | true =>
    cases ht.turning with
    | still hquiet => cases (hquiet e he).symm.trans hi
    | read front back room outcome hevents hquiet hback =>
      rw [hevents] at he
      obtain rfl := input_eq hquiet hback he hi
      exact ⟨ha.number, hmoved _⟩
    | message front back data hevents hquiet hback =>
      rw [hevents] at he
      obtain rfl := input_eq hquiet hback he hi
      exact ⟨ha.number, hmoved _⟩
    | connected front back request hevents hquiet hback _ hplace =>
      rw [hevents] at he
      obtain rfl := input_eq hquiet hback he hi
      refine ⟨ha.number, ?_⟩
      rw [hw.status]
      rcases hplace with ⟨hline, hphase⟩ | ⟨hweb, hserving, hf, hbuffer, -⟩
      · rw [hw.fresh hphase, ← hw.mode, hline]
      · obtain hwaiting | ⟨-, hempty⟩ := hw.lines hweb (.inr hserving) hf
        · rw [hwaiting, ← hw.mode, hweb]
        · exact absurd hempty hbuffer

/-! ### Occasions -/

theorem shown_ask (ha : Attending id hook past s) : s.Shown s.ask := by
  have hquiet : ∀ e ∈ s.ask.events, e.isInput = false :=
    fun e he => isInput_of_isFarewell (asked_farewell ha e he)
  rw [ask_eq] at hquiet ⊢
  exact ⟨rfl, .still hquiet (Hub.stays_shutdown ha.ready.sound ha.ready.known) (fun hf => hf)
    fun hb => hb⟩

/-- The worker's own end of a connection. -/
theorem allShow_ended {front : List Event} (hfront : ∀ e ∈ front, ∃ n, e = .log n) (asked : Bool) :
    AllShow mode id past (front ++ closing id hook conn asked) true := by
  refine List.forall_mem_append.2 ⟨fun e he => ?_, fun e he => shows_closing he _⟩
  obtain ⟨n, rfl⟩ := hfront e he
  trivial

/-- An occasion has left a connection's status what the history shows, and is shown with it. -/
structure Showing (mode : Mode) (id : Nat) (past : List Event) (t : Traced (Session σ)) : Prop where
  watched : t.value.isGone = false → Watched mode id (past ++ t.events) t.value
  shows : AllShow mode id past t.events t.value.isGone

theorem showing_ask (ha : Attending id hook past s) (hw : Watched mode id past s)
    (hg : s.isGone = false) :
    Showing mode id past s.ask := by
  have hat : Attending id hook (past ++ s.ask.events) s.ask.value :=
    ha.moves (moves_asked ha isWork)
  have hshown := shown_ask ha
  have hopen : s.ask.value.isGone = false := by
    rw [isGone, worker_ask]
    exact hg
  refine ⟨fun _ => watched_shown ha hw hshown hat (fun h => ?_) (fun h => ?_), ?_⟩
  · rw [worker_ask] at h
    exact ⟨h, fun e he => isInput_of_isFarewell (asked_farewell ha e he)⟩
  · rw [worker_ask] at h
    exact .inr h
  · rw [hopen]
    exact allShow_shown ha hw hshown hat

theorem showing_step (thread : Nat) (ha : Attending id hook past s) (hw : Watched mode id past s)
    (hs : s.worker.phase = .fresh ∨ s.worker.phase = .serving) :
    Showing mode id past (s.step h thread) := by
  have hmoves := moves_step h thread ha.ready hs
  have hat : Attending id hook (past ++ (s.step h thread).events) (s.step h thread).value :=
    ha.moves hmoves.desk
  have hshown : s.Shown (s.step h thread) := shown_step thread ha hs
  have hopen : (s.step h thread).value.isGone = false := by
    rcases hmoves.phase with hphase | ⟨cause, hphase⟩ <;> rw [isGone, hphase]
  refine ⟨fun _ => watched_shown ha hw hshown hat (fun hfresh => ?_) fun _ => hs, ?_⟩
  · rcases hmoves.phase with hphase | ⟨cause, hphase⟩ <;> cases hphase.symm.trans hfresh
  · rw [hopen]
    exact allShow_shown ha hw hshown hat

/-- **Whatever happens next** keeps the status what the history shows, and is shown with it. -/
theorem showing_meet (hl : Living id conn hook past s)
    (hw : s.isGone = false → Watched mode id past s) (occasion : Occasion) :
    Showing mode id past (s.meet h occasion) := by
  cases hg : s.isGone with
  | true =>
    rw [meet_gone hl hg]
    exact ⟨fun hnot => (by cases hg.symm.trans hnot), List.forall_mem_nil _⟩
  | false =>
    cases hl with
    | gone misuse _ hphase => simp [isGone, hphase] at hg
    | held hh hphase =>
      obtain rfl := hh.number
      have hended : ∀ front : List Event, (∀ e ∈ front, ∃ n, e = .log n) →
          Showing mode s.desk.id past
          ⟨(s.takeDown none).value, front ++ (s.takeDown none).events⟩ := fun front hfront => by
        rw [takeDown_eq hh.told]
        exact ⟨fun h => (by cases h), allShow_ended hfront _⟩
      cases occasion with
      | ask => exact showing_ask hh.toAttending (hw hg) hg
      | work thread =>
        rcases hphase with hphase | hphase | ⟨cause, hphase⟩
        · exact showing_step thread hh.toAttending (hw hg) (.inl hphase)
        · exact showing_step thread hh.toAttending (hw hg) (.inr hphase)
        · have hstep : s.step h thread = ⟨(s.takeDown none).value,
              [.log (.ended s.desk.outlet.conn cause)] ++ (s.takeDown none).events⟩ := by
            simp [step, hphase, bind, Traced.note, Traced.record]
          simp only [meet]
          rw [hstep]
          exact hended _ (by simp)
      | drop =>
        simp only [meet]
        split
        · exact hended [] (List.forall_mem_nil _)
        · refine ⟨fun _ => ?_, List.forall_mem_nil _⟩
          simpa using hw hg

theorem showing_life (h : Handler σ) (hl : Living id conn hook past s)
    (hw : s.isGone = false → Watched mode id past s) (occasions : List Occasion)
    (hopen : (s.life h occasions).value.isGone = false) :
    Watched mode id (past ++ (s.life h occasions).events) (s.life h occasions).value := by
  induction occasions generalizing past s with
  | nil => simpa [life] using hw hopen
  | cons occasion rest ih =>
    have hnext := (showing_meet (h := h) hl hw occasion).watched
    have := ih (living_meet h occasion hl) hnext hopen
    rw [List.append_assoc] at this
    exact this

/-! ### Whole lives -/

/-- A new connection has turned to nothing. -/
theorem watched_of_accept? {hub : Hub} (hs : hub.Sound) {readSize : Nat} {state : σ} {t : Transport}
    {started : Int} (ha : accept? mode readSize state t { started } hub = some s) :
    Watched mode s.desk.id [] s := by
  have hworker := (accepted_of_accept? hs ha).worker
  refine ⟨by rw [hworker], ?_, fun _ => rfl, fun _ _ _ => .inr ⟨rfl, by rw [hworker]⟩⟩
  rw [link_of_accept? hs ha]
  rfl

/-- What a connection's status is after a part of its life. -/
theorem status_life (h : Handler σ) (hl : Living id conn hook [] s) (hw : Watched mode id [] s)
    (occasions : List Occasion) :
    let v := (s.life h occasions).value
    let past := (s.life h occasions).events
    v.desk.link.status = if v.isGone then .closed else if asked id past then .closing else doing
      .start past := by
  have hliving := living_life h occasions hl
  have hwatched := showing_life h hl (fun _ => hw) occasions
  rw [List.nil_append] at hliving hwatched
  dsimp only
  cases hg : (s.life h occasions).value.isGone with
  | false => exact (hwatched hg).status
  | true =>
    cases hliving with
    | held _ hphase =>
      rcases hphase with hphase | hphase | ⟨cause, hphase⟩ <;> simp [isGone, hphase] at hg
    | gone misuse hid _ htorn =>
      have hstatus := htorn.status
      rw [← hid] at hstatus
      exact hstatus

/-- A status that is closing is so because of a request, and one that is closed because the
connection is destroyed. -/
theorem status_cases {gone asked : Bool} {now status : Status} (hnow : now.isClosing = false)
    (h : status = if gone then .closed else if asked then .closing else now) :
    (status = .closing → asked = true) ∧ (status = .closed → gone = true) := by
  subst h
  cases gone with
  | true => simp
  | false =>
    cases asked with
    | true => simp
    | false =>
      refine ⟨fun h => ?_, fun h => ?_⟩
      all_goals
        subst h
        cases hnow

/-- The status of a connection that is asked to end, or destroyed, lasts. -/
theorem status_lasts (h : Handler σ) (hl : Living id conn hook [] s) (hw : Watched mode id [] s)
    (occasions more : List Occasion) :
    let status := (s.life h occasions).value.desk.link.status
    let later := ((s.life h occasions).value.life h more).value.desk.link.status
    (status = .closing → later = .closing ∨ later = .closed) ∧
      (status = .closed → later = .closed) := by
  obtain ⟨hasked, hgone⟩ := status_cases (isClosing_doing rfl _) (status_life h hl hw occasions)
  refine ⟨fun hclosing => ?_, fun hclosed => ?_⟩
  · have hlater := status_life h hl hw (occasions ++ more)
    simp only [life_append, asked_append, hasked hclosing, Bool.true_or, if_true] at hlater
    rw [hlater]
    split
    · exact .inr rfl
    · exact .inl rfl
  · have hliving := living_life h occasions hl
    rw [life_gone hliving (hgone hclosed)]
    exact hclosed

/-- **The status says what a connection does**, at any time of its life, before its worker has
begun and after it is destroyed: it is closed if the connection is destroyed; else closing if
someone has asked for its end, from outside or while its worker was at work; else what its worker
has turned to last. So it goes from closing to nothing but closed, and stays closed; and at each
call of the transport or the handler it is shown as it is. -/
theorem status_shown (h : Handler σ) {hub : Hub} (hs : hub.Sound) {readSize : Nat} {state : σ}
    {t : Transport} {started : Int} (ha : accept? mode readSize state t { started } hub = some s)
    (occasions : List Occasion) :
    let v := (s.life h occasions).value
    let requested := s.requested h occasions
    v.desk.link.status =
        (if v.isGone then .closed else if requested then .closing
          else doing .start (s.life h occasions).events) ∧
      (∀ more, let later := (v.life h more).value.desk.link.status
        (v.desk.link.status = .closing → later = .closing ∨ later = .closed) ∧
          (v.desk.link.status = .closed → later = .closed)) ∧
      ∀ occasion, ∀ e ∈ (v.meet h occasion).events,
        e.Shows mode s.desk.id requested (v.meet h occasion).value.isGone := by
  have hl := living_of_accept? hs ha
  have hw := watched_of_accept? hs ha
  have hasked : asked s.desk.id (s.life h occasions).events = s.requested h occasions :=
    asked_life h hl occasions
  have hstatus := status_life h hl hw occasions
  have hshowing := fun occasion =>
    (showing_meet (h := h) (living_life h occasions hl) (showing_life h hl (fun _ => hw) occasions)
      occasion).shows
  simp only [List.nil_append, AllShow, hasked] at hstatus hshowing
  exact ⟨hstatus, status_lasts h hl hw occasions, hshowing⟩

/-- A terminal asks for the connection's end before its worker begins; the line that it has sent is
given to the handler nevertheless, and someone asks once more when all is over. -/
theorem status_shown_asked :
    let hub : Hub := { capacity := 1 }
    let h := Shell.handler { prompt := "> ", mode := .line }
    let t : Transport := { arrivals := [.data (Bytes.ofText "hi\n")] }
    let occasions : List Occasion :=
      [.ask, .work 1, .work 1, .work 1, .work 1, .work 1, .work 1, .ask]
    hub.Sound ∧ ∃ s, accept? .line 16 () t { started := 0 } hub = some s ∧
      let v := (s.life h occasions).value
      let requested := s.requested h occasions
      (v.isGone = true ∧ requested = true) ∧
      v.desk.link.status =
          (if v.isGone then .closed else if requested then .closing
            else doing .start (s.life h occasions).events) ∧
        (∀ more, let later := (v.life h more).value.desk.link.status
          (v.desk.link.status = .closing → later = .closing ∨ later = .closed) ∧
            (v.desk.link.status = .closed → later = .closed)) ∧
        ∀ occasion, ∀ e ∈ (v.meet h occasion).events,
          e.Shows .line s.desk.id requested (v.meet h occasion).value.isGone := by
  intro hub h t occasions
  have hs : hub.Sound := Hub.sound_empty 1
  refine ⟨hs, _, rfl, ?_, status_shown h hs rfl occasions⟩
  decide +kernel

end Session
end NetShell
