import NetShell.Proofs.Frames
import NetShell.Proofs.Runs
import NetShell.Proofs.Waiting

/-! What an upgraded connection does with its input, turn by turn.

`Turn.play` is the meaning of frames, and of requests to shut down that come in between: a
text frame is given to the handler, and what that asks for is done; a ping is answered by
one pong with its payload; a pong is passed over. It knows of no reads and no buffer. Turns
are played one after another until the handler ends the connection (`Turn.play_append`). -/
namespace NetShell
open WebSocket

variable {σ : Type}

/-! ### Pongs -/

/-- The length of a server frame as it is written after the first byte. -/
def lengthField (length : Nat) : Bytes :=
  if length < 126 then [UInt8.ofNat length]
  else if length < 65536 then 126 :: Bytes.ofNat 2 length
  else 127 :: Bytes.ofNat 8 length

/-- The parts of the answer to a ping: the front of a pong frame, and the payload of the ping. -/
def pongParts (payload : Bytes) : List Bytes := [0x8A :: lengthField payload.length, payload]

/-- The front of a server frame: the opcode, marked as final, and the length. -/
theorem header_eq (opcode : UInt8) (length : Nat) :
    Frame.header opcode length = (0x80 ||| (opcode &&& 0x0F)) :: lengthField length := by
  simp only [Frame.header, lengthField]
  split
  · rfl
  · split <;> rfl

theorem sendPong_eq (payload : Bytes) :
    Outlet.sendPong payload = Outlet.transmit (pongParts payload) payload := by
  rw [Outlet.sendPong, Outlet.sendAs, header_eq]
  rfl

theorem sendFrame_eq (payload : Bytes) :
    Outlet.sendFrame payload = Outlet.transmit [0x81 :: lengthField payload.length, payload]
      payload := by
  rw [Outlet.sendFrame, Outlet.sendAs, header_eq]
  rfl

/-! ### Turns -/

/-- Something that an upgraded connection deals with. -/
inductive Turn
  | frame (f : Frame)
  /-- someone asks for the connection's end -/
  | ask

namespace Turn

/-- Where turns have come to. -/
structure Played (σ : Type) where
  /-- the handler's state -/
  state : σ
  desk : Desk
  /-- the handler has ended the connection -/
  ending : Option Ending := none

/-- The end that a callback's answer puts to a connection. -/
def ending : Flow → Option Ending
  | .continue => none
  | .abort reason log => some (.aborted reason log)

/-- Deal with one turn. -/
def deal (h : Handler σ) (state : σ) (d : Desk) : Turn → Traced (Played σ)
  | .ask => do
    let d ← d.ask
    pure { state, desk := d }
  | .frame f => do
    Traced.note (.frame d.outlet.conn f.opcode f.final f.payload.length)
    match f.opcode with
    | .text => do
      let d := d.transition .running
      Traced.record (.message d.id d.link.status f.payload)
      let r := h.message state f.payload
      let w ← d.perform r.acts
      pure { state := r.state, desk := w.desk, ending := ending r.flow }
    | .ping => do
      let w ← d.transmit (Outlet.transmit (pongParts f.payload) f.payload)
      pure { state, desk := w.desk }
    | _ => pure { state, desk := d }

/-- Deal with turns one after another, until the handler ends the connection. -/
def play (h : Handler σ) : List Turn → σ → Desk → Traced (Played σ)
  | [], state, desk => pure { state, desk }
  | turn :: rest, state, d => do
    let p ← deal h state d turn
    match p.ending with
    | none => play h rest p.state p.desk
    | some _ => pure p

/-- The frames among turns. -/
def frames (turns : List Turn) : List Frame :=
  turns.filterMap fun
    | .frame f => some f
    | .ask => none

@[simp] theorem frames_append (a b : List Turn) : frames (a ++ b) = frames a ++ frames b :=
  List.filterMap_append

@[simp] theorem frames_asks (n : Nat) : frames (List.replicate n .ask) = [] := by
  induction n with
  | zero => rfl
  | succ n ih => exact ih

variable (h : Handler σ) (state : σ) {d : Desk}

/-- Turns after others are dealt with where those have come to. -/
theorem play_append {a : List Turn} (ha : (play h a state d).value.ending = none) (b : List Turn) :
    play h (a ++ b) state d =
      ⟨(play h b (play h a state d).value.state (play h a state d).value.desk).value,
        (play h a state d).events ++
          (play h b (play h a state d).value.state (play h a state d).value.desk).events⟩ := by
  induction a generalizing state d with
  | nil => rfl
  | cons turn rest ih =>
    simp only [List.cons_append, play, bind] at ha ⊢
    cases he : (deal h state d turn).value.ending with
    | none =>
      rw [he] at ha
      simp only [ih _ ha, List.append_assoc]
    | some ending =>
      simp [he] at ha

theorem play_one (turn : Turn) : play h [turn] state d = deal h state d turn := by
  simp only [play, bind]
  cases he : (deal h state d turn).value.ending with
  | none =>
    have hp : (deal h state d turn).value = { (deal h state d turn).value with ending := none } :=
      by rw [← he]
    rw [Traced.value_pure, Traced.events_pure, List.append_nil, ← hp]
  | some _ => simp

/-- Dealing with a turn takes the hub along a course. -/
theorem moves_deal (hr : d.Ready) (turn : Turn) :
    Desk.Moves Event.isDeed d (deal h state d turn).events (deal h state d turn).value.desk := by
  cases turn with
  | ask => simpa [deal] using Desk.moves_ask _ hr
  | frame f =>
    have hnoted := Desk.Moves.event Event.isDeed d
      (e := .log (.frame d.outlet.conn f.opcode f.final f.payload.length)) rfl
    simp only [deal, bind, Traced.note, Traced.record]
    split
    · have hrun := Desk.moves_transition Event.isDeed d .running rfl
      have hacts := Desk.moves_perform (hrun.ready hr) (h.message state f.payload).acts
      have hgiven := Desk.Moves.event Event.isDeed (d.transition .running)
        (e := .message (d.transition .running).id (d.transition .running).link.status f.payload) rfl
      have hall :=
        hnoted.trans (hrun.trans (hgiven.trans (hacts.mono fun _ => Event.isDeed_of_isOutput)))
      simpa using hall
    · have hsent := Desk.moves_transmit hr (pongParts f.payload) f.payload
      simpa using hnoted.trans (hsent.mono fun _ => Event.isDeed_of_isOutput)
    · simpa using hnoted

theorem moves_play (hr : d.Ready) (turns : List Turn) :
    Desk.Moves Event.isDeed d (play h turns state d).events (play h turns state d).value.desk := by
  induction turns generalizing state d with
  | nil => exact .refl d
  | cons turn rest ih =>
    have hm := moves_deal h state hr turn
    simp only [play, bind]
    split
    · exact hm.trans (ih _ (hm.ready hr))
    · simpa using hm

/-- Turns do not change how replies are sent. -/
theorem framed_deal (hr : d.outlet.released = false) (turn : Turn) :
    (deal h state d turn).value.desk.outlet.framed = d.outlet.framed := by
  cases turn with
  | ask => rfl
  | frame f =>
    simp only [deal, bind, Traced.note, Traced.record]
    split
    · exact (Desk.kept_perform (d := d.transition .running) hr _).framed
    · exact (Desk.kept_transmit hr _ _).framed
    · rfl

/-- Turns read nothing. -/
theorem isRead_of_deal (hr : d.Ready) (turn : Turn) :
    ∀ e ∈ (deal h state d turn).events, e.isRead = false :=
  (moves_deal h state hr turn).each (fun _ => Event.isRead_of_isDeed)
    (fun _ => Event.isRead_of_isFarewell) hr

/-- A turn does the same from two desks that differ in the status alone. -/
theorem deal_alike {d' : Desk} (hd : d.Alike d') (hr : d.Ready) (hr' : d'.Ready) (turn : Turn) :
    (deal h state d turn).events = (deal h state d' turn).events ∧
      (deal h state d turn).value.state = (deal h state d' turn).value.state ∧
      (deal h state d turn).value.ending = (deal h state d' turn).value.ending ∧
      (deal h state d turn).value.desk.Alike (deal h state d' turn).value.desk := by
  cases turn with
  | ask =>
    simp only [deal, hd.ask hr hr']
    exact ⟨trivial, trivial, trivial, rfl⟩
  | frame f =>
    obtain ⟨hevents, hsent⟩ := hd.transmit hr hr' (pongParts f.payload) f.payload
    simp only [deal, bind, Traced.note, Traced.record, hd.outlet, hd.transition hr hr' .running]
    split
    · exact ⟨rfl, rfl, rfl, rfl⟩
    · exact ⟨by simp [hevents], rfl, rfl, hsent⟩
    · exact ⟨rfl, rfl, rfl, hd⟩

/-- The requests that come in while a read waits are turns of their own. -/
theorem await_asks (hr : d.Ready) (room : Nat) (arrivals : List Arrival) :
    ∃ n, let p := play h (List.replicate n .ask) state d
      let r := Inlet.await room arrivals (d.transition .waiting).link
      p.value.ending = none ∧ p.value.state = state ∧ r.events = p.events ∧
        ((d.transition .waiting).update d.outlet r.value.link).Alike p.value.desk := by
  have hnone : ∀ {d : Desk}, d.Ready →
      ((d.transition .waiting).update d.outlet (d.transition .waiting).link).Alike d := by
    intro d hr
    have hsame :=
      Desk.update_update (d := d) (l := d.link.transition .waiting) rfl d.outlet d.outlet
    rw [Desk.link_transition hr]
    exact (congrArg (Desk.Alike · d) hsame).mpr (Desk.alike_waiting hr)
  induction arrivals generalizing d with
  | nil => exact ⟨0, rfl, rfl, rfl, hnone hr⟩
  | cons a rest ih =>
    cases a with
    | shutdown =>
      have hready := (Desk.moves_ask Event.isWork hr).ready hr
      have hid : d.link.shutdown.value.id = d.id := Link.id_shutdown.trans (Desk.link_id hr)
      have hlink : (d.ask.value.transition .waiting).link = d.link.shutdown.value := by
        rw [Desk.transition_ask hr, Desk.ask_eq]
        exact Desk.link_update hr hid _
      have hawait : Inlet.await room (.shutdown :: rest) (d.transition .waiting).link =
          ⟨(Inlet.await room rest d.link.shutdown.value).value,
            d.link.shutdown.events ++ (Inlet.await room rest d.link.shutdown.value).events⟩ := by
        rw [Desk.link_transition hr]
        simp [Inlet.await, bind, Link.shutdown_transition .waiting rfl]
      obtain ⟨n, hending, hstate, hevents, hdesk⟩ := ih hready
      rw [hlink] at hevents hdesk
      refine ⟨n + 1, hending, hstate, ?_, ?_⟩
      · rw [hawait, hevents, List.replicate_succ]
        simp [play, deal, bind, Desk.ask_eq]
      · have hleft : (Inlet.await room rest d.link.shutdown.value).value.link.id = d.id :=
          (Session.course_await Event.isWork room rest d.link.shutdown.value).id_eq.trans hid
        have hover := Desk.update_update (d := d) (l := d.link.transition .waiting)
          (m := (Inlet.await room rest d.link.shutdown.value).value.link)
          ((Desk.link_id hr).trans hleft.symm) d.outlet
        have hover' := Desk.update_update (d := d) (l := d.link.shutdown.value)
          (m := (Inlet.await room rest d.link.shutdown.value).value.link)
          (hid.trans hleft.symm) d.outlet
        have hsame := (hover d.outlet).trans (hover' d.outlet).symm
        rw [Desk.transition_ask hr] at hdesk
        rw [hawait]
        simp only [Desk.ask_eq] at hdesk
        refine (congrArg (Desk.Alike · _) hsame).mpr ?_
        simpa [List.replicate_succ, play, deal, bind, Desk.ask_eq] using hdesk
    | data | finish | fault => exact ⟨0, rfl, rfl, rfl, hnone hr⟩

end Turn

/-! ### A session's turns -/

namespace Session

variable {s : Session σ}

/-- Where a worker is after a turn. -/
def phaseAfter : Option Ending → Phase
  | none => .serving
  | some ending => .finished (some ending)

/-- A frame that has been taken is dealt with as a turn. -/
theorem frame_deals (h : Handler σ) (hr : s.desk.outlet.released = false)
    (hs : s.worker.phase = .serving) {f : Frame}
    (hf : f.opcode = .text ∨ f.opcode = .ping ∨ f.opcode = .pong) (rest : Bytes) :
    let p := Turn.deal h s.worker.state s.desk (.frame f)
    s.frame h f rest =
      ⟨⟨{ s.worker with
            buffer := rest, state := p.value.state, phase := phaseAfter p.value.ending },
          p.value.desk⟩, p.events⟩ := by
  obtain ⟨⟨mode, readSize, state, arrivals, upgrade, buffer, drained, faults, phase⟩, desk⟩ := s
  obtain rfl : phase = .serving := hs
  rcases hf with hf | hf | hf
  · have hflow : ∀ flow : Flow, flow.phase = phaseAfter (Turn.ending flow) := by
      intro flow
      cases flow <;> rfl
    have hdispatch := dispatch_eq
      (s := ⟨⟨mode, readSize, state, arrivals, upgrade, rest, drained, faults, .serving⟩, desk⟩) h
      hr rfl f.payload
    rw [frame_other h (by simp [hf]) (by simp [hf]), hdispatch]
    simp [Turn.deal, bind, pure, hf, Traced.note, Traced.record, hflow]
  · rw [frame_ping h hr hf, sendPong_eq]
    simp [Turn.deal, bind, pure, hf, Traced.note, Traced.record, phaseAfter]
  · rw [frame_pong h hf]
    simp [Turn.deal, bind, pure, hf, Traced.note, Traced.record, phaseAfter]

end Session
end NetShell
