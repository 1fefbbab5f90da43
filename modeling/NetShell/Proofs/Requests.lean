import NetShell.Proofs.Runs
import NetShell.Proofs.Waiting

/-! Who asks for a connection's end in a step of its worker.

A request may come in while the transport reads or writes, where its scripts say so, and a handler
may ask for one in a callback, or stop the server. Which of these have come in is told from what
the scripts still hold and from what the handler has done (`Session.hears`), without a look at
what a request comes to. Each of them claims the connection's status, and nothing else does
(`Session.heard_step`). -/
namespace NetShell
open WebSocket

variable {σ : Type}

/-! ### Where requests are told from -/

def Arrival.isRequest : Arrival → Bool
  | .shutdown => true
  | _ => false

def Acceptance.isRequest : Acceptance → Bool
  | .shutdown => true
  | _ => false

/-- Whether a handler that has something done asks for its connection's end by that. A stop does,
if the server has not been stopped before. -/
def Act.asks (stopping : Bool) : Act → Bool
  | .shutdown => true
  | .stop => !stopping
  | _ => false

/-- What a handler has done in its callbacks, being in a state when it is called. -/
def Event.wishes (h : Handler σ) (state : σ) (events : List Event) : List Act :=
  events.flatMap fun
    | .connected _ _ request => (h.connected state request).acts
    | .message _ _ data => (h.message state data).acts
    | _ => []

/-- The requests that are still to come in while the transport writes. -/
def Desk.pending (d : Desk) : Nat := d.outlet.script.countP Acceptance.isRequest

namespace Session

/-- The requests that are still to come in while the transport reads or writes. -/
def pending (s : Session σ) : Nat := s.worker.arrivals.countP Arrival.isRequest + s.desk.pending

/-- Whether someone asks for the connection's end in a step: while a read or a write waits, so that
fewer requests are still to come in, or in a callback. -/
def hears (h : Handler σ) (thread : Nat) (s : Session σ) : Bool :=
  let t := s.step h thread
  decide (t.value.pending < s.pending) ||
    (Event.wishes h s.worker.state t.events).any (Act.asks s.desk.hub.stopping)

end Session

/-! ### Reads and writes -/

/-- Some have come in if some have come in first or later. -/
theorem decide_lt_of_le {before after last : Nat} (hle : after ≤ before) (hle' : last ≤ after) :
    decide (last < before) = (decide (after < before) || decide (last < after)) := by
  rw [Bool.eq_iff_iff, Bool.or_eq_true, decide_eq_true_iff, decide_eq_true_iff,
    decide_eq_true_iff]
  omega

namespace Link

/-- Of so many requests that were to come in before, so many are to come in after; the others have
claimed the status. -/
structure Heard (before after : Nat) (l l' : Link) : Prop where
  fewer : after ≤ before
  claimed : l'.status.isClosing = (l.status.isClosing || decide (after < before))

namespace Heard

variable {l l' l'' : Link} {before after last : Nat}

theorem refl (l : Link) (n : Nat) : Heard n n l l := ⟨Nat.le_refl n, by simp⟩

theorem trans (h : Heard before after l l') (h' : Heard after last l' l'') :
    Heard before last l l'' := by
  refine ⟨Nat.le_trans h'.fewer h.fewer, ?_⟩
  rw [h'.claimed, h.claimed, decide_lt_of_le h.fewer h'.fewer, Bool.or_assoc]

/-- A request comes in. -/
theorem ask (h : Heard before after l.shutdown.value l') : Heard (before + 1) after l l' := by
  have hle := h.fewer
  have hnow : after < before + 1 := by omega
  exact ⟨Nat.le_of_lt hnow, by simp [h.claimed, isClosing_shutdown, hnow]⟩

end Heard
end Link

theorem Inlet.heard_await (room : Nat) (arrivals : List Arrival) (l : Link) :
    let r := (await room arrivals l).value
    l.Heard (arrivals.countP Arrival.isRequest) (r.left.countP Arrival.isRequest) r.link := by
  induction arrivals generalizing l with
  | nil => exact .refl l 0
  | cons a rest ih =>
    cases a with
    | shutdown =>
      rw [List.countP_cons_of_pos rfl]
      exact (ih l.shutdown.value).ask
    | finish | fault =>
      rw [List.countP_cons_of_neg (by simp [Arrival.isRequest])]
      exact .refl l _
    | data chunk =>
      rw [List.countP_cons_of_neg (by simp [Arrival.isRequest])]
      simp only [await, Traced.value_pure]
      split
      · exact .refl l _
      · rw [List.countP_cons_of_neg (by simp [Arrival.isRequest])]
        exact .refl l _

namespace Outlet

theorem heard_drain (script : List Acceptance) (data : Bytes) (l : Link) :
    let d := (drain script data l).value
    l.Heard (script.countP Acceptance.isRequest) (d.left.countP Acceptance.isRequest) d.link := by
  induction script generalizing data l with
  | nil =>
    cases data with
    | nil => exact .refl l 0
    | cons b data =>
      simp only [drain]
      split <;> exact .refl l 0
  | cons a rest ih =>
    cases data with
    | nil => exact .refl l _
    | cons b data =>
      simp only [drain]
      split
      · cases a with
        | shutdown =>
          rw [List.countP_cons_of_pos rfl]
          exact (ih (b :: data) l.shutdown.value).ask
        | fault fault =>
          rw [List.countP_cons_of_neg (by simp [Acceptance.isRequest])]
          simp only [Traced.value_bind]
          split
          · exact ih (b :: data) l
          · exact .refl l _
        | upTo count =>
          rw [List.countP_cons_of_neg (by simp [Acceptance.isRequest])]
          simp only [Traced.value_bind]
          split
          · exact .refl l _
          · exact ih _ l
      · exact .refl l _

theorem heard_drainAll (parts : List Bytes) (script : List Acceptance) (l : Link) :
    let d := (drainAll parts script l).value
    l.Heard (script.countP Acceptance.isRequest) (d.left.countP Acceptance.isRequest) d.link := by
  induction parts generalizing script l with
  | nil => exact .refl l _
  | cons part parts ih =>
    have hpart := heard_drain script part l
    simp only [drainAll, Traced.value_bind]
    split
    · exact hpart.trans (ih ..)
    · exact hpart

end Outlet

/-! ### Callbacks -/

namespace Desk

variable {d d' d'' : Desk}

/-- A handler has had `acts` done at a desk: the requests among them, and those that came in
meanwhile, have claimed the status. -/
structure Heard (acts : List Act) (d d' : Desk) : Prop where
  fewer : d'.pending ≤ d.pending
  claimed : d'.link.status.isClosing =
    (d.link.status.isClosing ||
      (decide (d'.pending < d.pending) || acts.any (Act.asks d.hub.stopping)))
  stopping : acts.any (Act.asks d.hub.stopping) = true ∨ d'.hub.stopping = d.hub.stopping

theorem Heard.refl (d : Desk) : Heard [] d d := ⟨Nat.le_refl _, by simp, .inr rfl⟩

theorem Heard.trans {a b : List Act} (h : Heard a d d') (h' : Heard b d' d'') :
    Heard (a ++ b) d d'' := by
  refine ⟨Nat.le_trans h'.fewer h.fewer, ?_, ?_⟩
  · rw [h'.claimed, h.claimed, decide_lt_of_le h.fewer h'.fewer, List.any_append]
    -- once the first acts have asked, it does not matter what the others find of the server
    rcases h.stopping with hasked | hsame
    · simp [hasked]
    · rw [hsame]
      cases d.link.status.isClosing <;> cases decide (d'.pending < d.pending) <;>
        cases decide (d''.pending < d'.pending) <;> simp
  · rw [List.any_append]
    rcases h.stopping with hasked | hsame
    · exact .inl (by rw [hasked, Bool.true_or])
    · rw [← hsame]
      exact h'.stopping.imp_left fun hasked => by rw [hasked, Bool.or_true]

theorem heard_transmit (hr : d.Ready) (parts : List Bytes) (data : Bytes) :
    Heard [] d (d.transmit (Outlet.transmit parts data)).value.desk := by
  have hsent : d.link.Heard _ _ _ := Outlet.heard_drainAll parts d.outlet.script d.link
  have hnumber : (Outlet.drainAll parts d.outlet.script d.link).value.link.id = d.id :=
    (Outlet.course_drainAll parts d.outlet.script d.link).id_eq.trans (link_id hr)
  rw [transmit_eq hr.unreleased]
  refine ⟨hsent.fewer, ?_, .inr rfl⟩
  rw [link_update hr hnumber, hsent.claimed, List.any_nil, Bool.or_false]
  rfl

/-- The worker's own doings are no requests. -/
theorem heard_update (hr : d.Ready) {l : Link} (hnumber : l.id = d.id)
    (hstatus : l.status.isClosing = d.link.status.isClosing) :
    Heard [] d (d.update d.outlet l) := by
  refine ⟨Nat.le_refl _, ?_, .inr rfl⟩
  rw [link_update hr hnumber, hstatus]
  simp [pending]

theorem heard_transition (hr : d.Ready) {next : Status} (hn : next.isClosing = false) :
    Heard [] d (d.transition next) :=
  heard_update hr (link_id hr) (Link.isClosing_transition hn)

/-- Sending is no request. -/
theorem heard_sends (hr : d.Ready) {a : Act} (hshutdown : a ≠ .shutdown) (hstop : a ≠ .stop) :
    Heard [a] d (d.act a).value.desk := by
  obtain ⟨parts, data, -, hact⟩ := d.act_sends hshutdown hstop
  have hsent := heard_transmit hr parts data
  rw [hact]
  cases a with
  | shutdown => exact absurd rfl hshutdown
  | stop => exact absurd rfl hstop
  | _ => exact ⟨hsent.fewer, hsent.claimed, hsent.stopping⟩

/-- A handler asks for the end of its connection, by a request or a stop. -/
theorem heard_claimed {a : Act} {hub : Hub} (ha : a.asks d.hub.stopping = true)
    (hclosing : (hub.link d.id).status.isClosing = true) : Heard [a] d { d with hub } := by
  have hasked : [a].any (Act.asks d.hub.stopping) = true := by simp [ha]
  exact ⟨Nat.le_refl _, by rw [hasked, Bool.or_true, Bool.or_true]; exact hclosing, .inl hasked⟩

/-- A stop reaches the connection, for it is live while a callback runs. -/
theorem heard_stop (hr : d.Ready) (hlive : d.id ∈ d.hub.live) :
    Heard [.stop] d { d with hub := d.hub.stop.value } := by
  cases hstop : d.hub.stopping with
  | true =>
    have hnone : [Act.stop].any (Act.asks d.hub.stopping) = false := by simp [Act.asks, hstop]
    have hsame : d.hub.stop.value = d.hub := by simp [Hub.stop, hstop]
    rw [hsame]
    exact ⟨Nat.le_refl _, by rw [hnone]; simp, .inr rfl⟩
  | false =>
    refine heard_claimed (by simp [Act.asks, hstop]) ?_
    rw [Hub.stop_eq hstop]
    exact Hub.isClosing_shutdownAll (Hub.sound_stopping hr.sound) hr.sound.live_known hlive

theorem heard_act (hr : d.Ready) (hlive : d.id ∈ d.hub.live) (a : Act) :
    Heard [a] d (d.act a).value.desk := by
  cases a with
  | shutdown =>
    rw [act_shutdown]
    exact heard_claimed rfl (Hub.isClosing_shutdown hr.sound hr.known)
  | stop =>
    rw [act_stop]
    exact heard_stop hr hlive
  | _ => exact heard_sends hr nofun nofun

/-- **What a handler has done claims its connection's status by the requests among it**, and by
those that come in while it is done. -/
theorem heard_perform (hr : d.Ready) (hlive : d.id ∈ d.hub.live) (acts : List Act) :
    Heard acts d (d.perform acts).value.desk := by
  induction acts generalizing d with
  | nil => exact .refl d
  | cons a rest ih =>
    have hmoves := moves_act hr a
    have hlater : (d.act a).value.desk.id ∈ (d.act a).value.desk.hub.live := by
      rw [hmoves.id]
      exact hmoves.course.live hr.sound hlive
    rw [perform_cons hr.unreleased]
    exact (heard_act hr hlive a).trans (ih (hmoves.ready hr) hlater)

end Desk

/-! ### Steps -/

theorem Event.wishes_append (h : Handler σ) (state : σ) (a b : List Event) :
    wishes h state (a ++ b) = wishes h state a ++ wishes h state b := by
  simp only [wishes, List.flatMap_append]

/-- The handler is called where the events show it. -/
theorem Event.wishes_of_quiet (h : Handler σ) (state : σ) {events : List Event}
    (hquiet : ∀ e ∈ events, e.isInput = false) : wishes h state events = [] := by
  refine List.flatMap_eq_nil_iff.2 fun e he => ?_
  cases e with
  | connected | message => cases hquiet _ he
  | _ => rfl

namespace Session

variable {h : Handler σ} {s : Session σ} {t : Traced (Session σ)}

/-- What the worker does claims the connection's status by the requests that are made
meanwhile. -/
structure Heard (h : Handler σ) (s : Session σ) (t : Traced (Session σ)) : Prop where
  fewer : t.value.pending ≤ s.pending
  claimed : t.value.desk.link.status.isClosing =
    (s.desk.link.status.isClosing || (decide (t.value.pending < s.pending) ||
      (Event.wishes h s.worker.state t.events).any (Act.asks s.desk.hub.stopping)))

/-- What the worker does otherwise than by reading. -/
theorem heard_of_desk {acts : List Act} (harrivals : t.value.worker.arrivals = s.worker.arrivals)
    (hwishes : Event.wishes h s.worker.state t.events = acts)
    (hd : Desk.Heard acts s.desk t.value.desk) :
    Heard h s t := by
  have hle := hd.fewer
  refine ⟨?_, ?_⟩
  · simp only [pending, harrivals]
    omega
  · simp only [pending, harrivals, hwishes, Nat.add_lt_add_iff_left]
    exact hd.claimed

/-- Nothing at all is done at the desk. -/
theorem heard_still (harrivals : t.value.worker.arrivals = s.worker.arrivals)
    (hdesk : t.value.desk = s.desk) (hquiet : ∀ e ∈ t.events, e.isInput = false) : Heard h s t :=
  heard_of_desk harrivals (Event.wishes_of_quiet h _ hquiet) (hdesk ▸ .refl s.desk)

theorem heard_conclude (hs : s.worker.phase = .serving) (cause : Option Ending) :
    Heard h s (pure (s.conclude cause)) := by
  rw [conclude_eq hs]
  exact heard_still rfl rfl (by simp)

theorem heard_dispatch (hr : s.desk.Ready) (hlive : s.desk.id ∈ s.desk.hub.live)
    (hs : s.worker.phase = .serving) (data : Bytes) : Heard h s (s.dispatch h data) := by
  let r := h.message s.worker.state data
  have hmoves := Desk.moves_transition Event.isWork s.desk .running rfl
  have hready := hmoves.ready hr
  have hacts := Desk.heard_perform hready (hmoves.course.live hr.sound hlive) r.acts
  have hquiet :=
    (Desk.moves_perform hready r.acts).quiet (fun _ => Event.isInput_of_isOutput) hready
  rw [dispatch_eq h hr.unreleased hs]
  refine heard_of_desk rfl ?_ ((Desk.heard_transition hr rfl).trans hacts)
  have hrest := Event.wishes_of_quiet h s.worker.state hquiet
  show r.acts ++ Event.wishes h s.worker.state _ = _
  rw [hrest]
  simp

theorem heard_changeOver (hr : s.desk.Ready) (hlive : s.desk.id ∈ s.desk.hub.live)
    (hs : s.worker.phase = .serving) :
    Heard h s (s.changeOver h) := by
  let r := h.connected s.worker.state (some s.worker.upgrade.request)
  let reply := Bytes.ofText (switchingProtocols s.worker.upgrade.request.key)
  have hacts := Desk.heard_perform hr hlive r.acts
  have hmoves := Desk.moves_perform hr r.acts
  have hready := hmoves.ready hr
  have hquiet := hmoves.quiet (fun _ => Event.isInput_of_isOutput) hr
  have hasked : ∀ {rest : List Event}, (∀ e ∈ rest, e.isInput = false) →
      Event.wishes h s.worker.state
      (.connected s.desk.id s.desk.link.status (some s.worker.upgrade.request) :: rest) =
      r.acts := by
    intro rest hrest
    have hnone := Event.wishes_of_quiet h s.worker.state hrest
    show r.acts ++ Event.wishes h s.worker.state rest = r.acts
    rw [hnone, List.append_nil]
  rw [changeOver_eq h hr.unreleased hs]
  cases hflow : (h.connected s.worker.state (some s.worker.upgrade.request)).flow with
  | abort reason log => exact heard_of_desk rfl (hasked hquiet) hacts
  | «continue» =>
    dsimp only
    split
    · have hanswer := Desk.heard_transmit hready [reply] reply
      have hsent :=
        (Desk.moves_transmit hready [reply] reply).quiet (fun _ => Event.isInput_of_isOutput) hready
      have hboth := hacts.trans hanswer
      rw [List.append_nil] at hboth
      refine heard_of_desk rfl ?_ ⟨hboth.fewer, hboth.claimed, hboth.stopping⟩
      rw [List.cons_append, List.cons_append]
      exact hasked (List.forall_mem_append.2 ⟨List.forall_mem_append.2 ⟨hquiet, hsent⟩,
        by simp [Event.isInput]⟩)
    · exact heard_of_desk rfl (hasked hquiet) hacts

theorem heard_request (hr : s.desk.Ready) (hlive : s.desk.id ∈ s.desk.hub.live)
    (hs : s.worker.phase = .serving) (line : Bytes) : Heard h s (s.request h line) := by
  rw [request_eq h hr.unreleased hs]
  cases (s.worker.upgrade.feed line).1 with
  | «continue» => exact heard_still rfl rfl (by simp)
  | headersDone =>
    have hover :=
      heard_changeOver (h := h)
        (s := ⟨{ s.worker with upgrade := (s.worker.upgrade.feed line).2 }, s.desk⟩)
      hr hlive hs
    exact ⟨hover.fewer, hover.claimed⟩
  | reject cause =>
    have hquiet :=
      (Desk.moves_transmit hr [notImplemented] notImplemented).quiet
        (fun _ => Event.isInput_of_isOutput) hr
    exact heard_of_desk rfl (Event.wishes_of_quiet h _ hquiet) (Desk.heard_transmit hr _ _)

theorem heard_line (hr : s.desk.Ready) (hlive : s.desk.id ∈ s.desk.hub.live)
    (hs : s.worker.phase = .serving) (data rest : Bytes) : Heard h s (s.line h data rest) := by
  let cut : Session σ := ⟨{ s.worker with buffer := rest }, s.desk⟩
  cases hm : s.worker.mode with
  | line =>
    have hgiven := heard_dispatch (h := h) (s := cut) hr hlive hs data
    rw [line_line h hm]
    exact ⟨hgiven.fewer, hgiven.claimed⟩
  | webSocket =>
    have hfed := heard_request (h := h) (s := cut) hr hlive hs data
    rw [line_webSocket h hm]
    exact ⟨hfed.fewer, hfed.claimed⟩

theorem heard_frame (hr : s.desk.Ready) (hlive : s.desk.id ∈ s.desk.hub.live)
    (hs : s.worker.phase = .serving) (f : Frame) (rest : Bytes) : Heard h s (s.frame h f rest) := by
  by_cases hping : f.opcode = .ping
  · let parts := [Frame.header (UInt8.ofNat Opcode.pong.code) f.payload.length, f.payload]
    have hquiet :=
      (Desk.moves_transmit hr parts f.payload).quiet (fun _ => Event.isInput_of_isOutput) hr
    rw [frame_ping h hr.unreleased hping]
    exact heard_of_desk rfl (Event.wishes_of_quiet h _ (List.forall_mem_cons.2 ⟨rfl, hquiet⟩))
      (Desk.heard_transmit hr _ f.payload)
  · by_cases hpong : f.opcode = .pong
    · rw [frame_pong h hpong]
      exact heard_still rfl rfl (by simp [Event.isInput])
    · have hgiven :=
        heard_dispatch (h := h) (s := ⟨{ s.worker with buffer := rest }, s.desk⟩) hr hlive
          hs f.payload
      rw [frame_other h hping hpong]
      exact ⟨hgiven.fewer, hgiven.claimed⟩

/-- A read calls no handler. -/
theorem wishes_fill {id : Nat} {hook : Hook} {past : List Event} (ha : Attending id hook past s)
    (hs : s.worker.phase = .serving) (hd : s.worker.drained = false) :
    Event.wishes h s.worker.state s.fill.events = [] := by
  have hquiet : ∀ e ∈ s.awaited.events, e.isInput = false := fun e he =>
    Event.isInput_of_isFarewell (awaited_farewell ha.ready e he)
  have hread : Event.wishes h s.worker.state s.readEvents = [] := by
    rw [readEvents, Event.wishes_append, Event.wishes_of_quiet h _ hquiet]
    rfl
  rcases (filled ha hs hd).1.noted with hevents | ⟨n, hevents, -⟩
  · rw [hevents, hread]
  · rw [hevents, Event.wishes_append, hread]
    rfl

/-- What comes in while a read waits. -/
theorem heard_fill {id : Nat} {hook : Hook} {past : List Event} (ha : Attending id hook past s)
    (hs : s.worker.phase = .serving) (hd : s.worker.drained = false) : Heard h s s.fill := by
  have hread : (s.desk.transition .waiting).link.Heard _ _ _ :=
    Inlet.heard_await s.worker.room s.worker.arrivals (s.desk.transition .waiting).link
  have hwaiting : (s.desk.transition .waiting).link.status.isClosing =
      s.desk.link.status.isClosing := by
    rw [Desk.link_transition ha.ready]
    exact Link.isClosing_transition rfl
  have hafter : s.deskAfter.link = s.awaited.value.link := by
    have hready := (Desk.moves_transition Event.isWork s.desk .waiting rfl).ready ha.ready
    have hcourse :=
      course_await Event.isWork s.worker.room s.worker.arrivals (s.desk.transition .waiting).link
    exact Desk.link_update hready (l := s.awaited.value.link)
      (hcourse.id_eq.trans (Desk.link_id hready)) _
  have harrivals : s.fill.value.worker.arrivals = s.awaited.value.left := by
    have hfill := filling hs
    generalize s.fill = t at hfill
    cases hfill <;> rfl
  have hdesk := (filled ha hs hd).1.desk
  have hle := hread.fewer
  refine ⟨?_, ?_⟩
  · simp only [pending, harrivals, hdesk]
    exact Nat.add_le_add_right hle _
  · have hpending : s.deskAfter.pending = s.desk.pending := rfl
    rw [wishes_fill ha hs hd, List.any_nil, Bool.or_false, hdesk, hafter, ← hwaiting]
    simp only [pending, harrivals, hdesk, hpending, Nat.add_lt_add_iff_right]
    exact hread.claimed

theorem heard_start (thread : Nat) (hr : s.desk.Ready) (hlive : s.desk.id ∈ s.desk.hub.live) :
    Heard h s (s.start h thread) := by
  have hbegin := Desk.moves_update (d := s.desk) Event.isWork (.begin thread (.nil _))
  have hready := hbegin.ready hr
  have hheard := Desk.heard_update hr (l := { s.desk.link with thread }) (Desk.link_id hr) rfl
  cases hm : s.worker.mode with
  | webSocket =>
    rw [start_webSocket h thread hm]
    exact heard_of_desk rfl rfl hheard
  | line =>
    let r := h.connected s.worker.state none
    have hacts := Desk.heard_perform hready (hbegin.course.live hr.sound hlive) r.acts
    have hquiet :=
      (Desk.moves_perform hready r.acts).quiet (fun _ => Event.isInput_of_isOutput) hready
    have hrest := Event.wishes_of_quiet h s.worker.state hquiet
    rw [start_line h thread hr.unreleased hm]
    refine heard_of_desk rfl ?_ (hheard.trans hacts)
    show r.acts ++ Event.wishes h s.worker.state _ = _
    rw [hrest, List.append_nil]
    rfl

/-- **Before the end, what a step does to the connection's status is said by who asks for its end
meanwhile**: a request during a read or a write, or in a callback, or a stop. -/
theorem heard_step (thread : Nat) {id : Nat} {hook : Hook} {past : List Event}
    (ha : Attending id hook past s) (hlive : s.desk.id ∈ s.desk.hub.live)
    (hs : s.worker.phase = .fresh ∨ s.worker.phase = .serving) :
    Heard h s (s.step h thread) := by
  rcases hs with hs | hs
  · rw [step_fresh h thread hs]
    exact heard_start thread ha.ready hlive
  · cases hf : s.desk.outlet.framed with
    | true =>
      rw [step_frames h thread hs hf, serveFrames_eq]
      cases Frame.parse s.worker.buffer with
      | complete f size => exact heard_frame ha.ready hlive hs f _
      | incomplete =>
        cases hd : s.worker.drained with
        | true => exact heard_conclude hs none
        | false => exact heard_fill ha hs hd
      | close => exact heard_conclude hs _
      | violation cause => exact heard_conclude hs _
    | false =>
      rw [step_lines h thread hs hf, serveLines_eq]
      cases Telnet.next? s.worker.buffer with
      | some found => exact heard_line ha.ready hlive hs found.1 found.2
      | none =>
        cases hd : s.worker.drained with
        | false => exact heard_fill ha hs hd
        | true =>
          cases Telnet.remainder s.worker.buffer with
          | some data => exact heard_line ha.ready hlive hs data []
          | none => exact heard_conclude hs none

end Session
end NetShell
