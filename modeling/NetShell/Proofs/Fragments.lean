import NetShell.Proofs.Approach
import NetShell.Proofs.FramedPhase

/-! Fragments are taken for messages.

A client may send a message in fragments: a text frame that is not final, and continuation
frames. Of the first byte of a frame the final bit decides nothing, it is only noted
(`Frame.parse_final`); so the first fragment of a message is dealt with as if it were all of
it, and the handler is given its payload. The messages of an upgraded connection are the
payloads of its text frames, final or not, and they are those of the final ones just if
none of the frames dealt with is a fragment (`Session.messages_whole_iff`). -/
namespace NetShell
open WebSocket Event

namespace WebSocket

/-! ### The final bit -/

/-- What stands at the front of a buffer, a frame having been sent as final or not. -/
def Parsed.marked (final : Bool) : Parsed → Parsed
  | .complete f size => .complete { f with final } size
  | other => other

namespace Frame

theorem parseBody_marked (opcode : Opcode) (final final' : Bool) (length start : Nat)
    (data : Bytes) :
    parseBody opcode final' length start data =
      (parseBody opcode final length start data).marked final' := by
  unfold parseBody
  split
  · dsimp only
    split <;> rfl
  · rfl

theorem parseLength_marked (opcode : Opcode) (final final' : Bool) (data : Bytes) :
    parseLength opcode final' data = (parseLength opcode final data).marked final' := by
  cases data with
  | nil => rfl
  | cons b rest =>
    simp only [parseLength]
    cases announced b rest with
    | none => rfl
    | some length =>
      dsimp only
      split
      · rfl
      · split
        · rfl
        · exact parseBody_marked ..

/-- **Of the first byte of a frame only the opcode decides anything**; whether the frame is final
is noted and does not matter. -/
theorem parse_final {b b' : UInt8} (h : Opcode.ofByte b' = Opcode.ofByte b) (rest : Bytes) :
    parse (b' :: rest) = (parse (b :: rest)).marked (128 ≤ b'.toNat) := by
  simp only [parse, h]
  cases Opcode.ofByte b with
  | text | ping | pong => exact parseLength_marked ..
  | _ => rfl

/-! ### Texts and fragments -/

/-- A frame whose payload is given to the handler. -/
def isText (f : Frame) : Bool := f.opcode == .text

/-- A text frame after which its message goes on. -/
def isFragment (f : Frame) : Bool := f.isText && !f.final

/-- A text frame that is the whole of its message. -/
def isWhole (f : Frame) : Bool := f.isText && f.final

/-- The payloads of the text frames among frames. -/
def texts (frames : List Frame) : List Bytes := (frames.filter isText).map (·.payload)

/-- The payloads of those that are final. -/
def wholes (frames : List Frame) : List Bytes := (frames.filter isWhole).map (·.payload)

@[simp] theorem texts_append (a b : List Frame) : texts (a ++ b) = texts a ++ texts b := by
  simp [texts]

theorem length_texts (frames : List Frame) :
    (texts frames).length = (wholes frames).length + (frames.filter isFragment).length := by
  induction frames with
  | nil => rfl
  | cons f rest ih =>
    simp only [texts, wholes, List.length_map] at ih ⊢
    cases ht : f.isText <;> cases hf : f.final <;> simp [isFragment, isWhole, ht, hf, ih] <;> omega

/-- The texts are those of final frames just if there is no fragment. -/
theorem texts_eq_wholes_iff (frames : List Frame) :
    texts frames = wholes frames ↔ ∀ f ∈ frames, f.isFragment = false := by
  constructor
  · intro h f hf
    have hlen := length_texts frames
    have hnone : frames.filter isFragment = [] := by
      rw [← List.length_eq_zero_iff]
      rw [h] at hlen
      omega
    simpa using List.filter_eq_nil_iff.1 hnone f hf
  · intro h
    have hsame : ∀ f ∈ frames, f.isText = f.isWhole := by
      intro f hf
      have := h f hf
      cases ht : f.isText <;> cases hfin : f.final <;> simp_all [isFragment, isWhole]
    rw [texts, wholes, List.filter_congr hsame]

end Frame
end WebSocket

variable {σ : Type}

/-! ### The messages of turns -/

namespace Turn

variable (h : Handler σ) (state : σ) {d : Desk}

/-- A text frame is a message, and no other turn is. -/
theorem messages_deal (hr : d.Ready) (turn : Turn) :
    messages (deal h state d turn).events = Frame.texts (frames [turn]) := by
  cases turn with
  | ask =>
    have hasked :=
      (Desk.moves_ask (fun _ => false) hr).each (P := fun e => e.isInput = false) (by simp)
      (fun _ => isInput_of_isFarewell) hr
    simpa [deal, frames, Frame.texts] using messages_of_quiet hasked
  | frame f =>
    have hone : frames [.frame f] = [f] := rfl
    rw [hone]
    by_cases ht : f.opcode = .text
    · have hready := (Desk.moves_transition isWork d .running rfl).ready hr
      have hacts := messages_of_quiet
        ((Desk.moves_perform hready (h.message state f.payload).acts).quiet
        (fun _ => isInput_of_isOutput) hready)
      have hgiven : Frame.texts [f] = [f.payload] := by simp [Frame.texts, Frame.isText, ht]
      rw [hgiven]
      simp only [deal, ht, bind, Traced.note, Traced.record, Traced.events_pure, List.append_nil]
      exact congrArg (f.payload :: ·) hacts
    · have hnone : Frame.texts [f] = [] := by simp [Frame.texts, Frame.isText, ht]
      have hsent := messages_of_quiet
        ((Desk.moves_transmit hr (pongParts f.payload) f.payload).quiet
        (fun _ => isInput_of_isOutput) hr)
      rw [hnone]
      simp only [deal, bind, Traced.note, Traced.record]
      split
      · exact absurd ‹_› ht
      · rw [messages_append, Traced.events_pure, List.append_nil, hsent]
        rfl
      · rfl

theorem messages_play (hr : d.Ready) {turns : List Turn}
    (hnone : (play h turns state d).value.ending = none) :
    messages (play h turns state d).events = Frame.texts (frames turns) := by
  induction turns generalizing state d with
  | nil => rfl
  | cons turn rest ih =>
    have hdeal := messages_deal h state hr turn
    have hready := (moves_deal h state hr turn).ready hr
    have hsplit : frames (turn :: rest) = frames [turn] ++ frames rest := frames_append [turn] rest
    simp only [play, bind] at hnone ⊢
    cases he : (deal h state d turn).value.ending with
    | none =>
      rw [he] at hnone
      rw [messages_append, hdeal, ih _ hready hnone, hsplit, Frame.texts_append]
    | some ending => simp [he] at hnone

/-- It is the handler that ends turns. -/
theorem ending_play {turns : List Turn} {cause : Ending}
    (hc : (play h turns state d).value.ending = some cause) :
    ∃ reason log, cause = .aborted reason log := by
  induction turns generalizing state d with
  | nil => cases hc
  | cons turn rest ih =>
    simp only [play, bind] at hc
    cases he : (deal h state d turn).value.ending with
    | none =>
      rw [he] at hc
      exact ih _ hc
    | some ended =>
      simp only [he, Traced.value_pure] at hc
      obtain rfl : ended = cause := Option.some.inj hc
      cases turn with
      | ask => cases he
      | frame f =>
        simp only [deal, bind] at he
        split at he
        · cases hflow : (h.message state f.payload).flow with
          | «continue» => simp [hflow, ending] at he
          | abort reason log => exact ⟨reason, log, by simpa [hflow, ending] using he.symm⟩
        · cases he
        · cases he

end Turn

namespace Session

/-- The messages of turns with which a connection has come to its end. -/
theorem Settled.messages {h : Handler σ} {u : Session σ} {turns : List Turn} {data : Bytes}
    {cause : Option Ending} (hs : Settled h u turns data cause) (hr : u.desk.Ready) :
    messages (Turn.play h turns u.worker.state u.desk).events =
      Frame.texts (Turn.frames turns) := by
  cases hs with
  | @aborted front f ending hturns hfront =>
    subst hturns
    have hready := (Turn.moves_play h u.worker.state hr front).ready hr
    rw [Turn.play_append h _ hfront, messages_append, Turn.messages_play h _ hr hfront,
      Turn.play_one, Turn.messages_deal h _ hready, Turn.frames_append, Frame.texts_append]
  | closed hnone | violated hnone | starved hnone => exact Turn.messages_play h _ hr hnone

theorem messages_of_leave {events : List Event}
    (h : ∀ e ∈ events, e.isFarewell = true ∨ e.isDestroyed = true) :
    Event.messages events = [] :=
  messages_of_quiet fun e he => (h e he).elim isInput_of_isFarewell isInput_of_isDestroyed

/-- What an upgraded connection makes of `data`, all that came in from then on: it deals with
frames from its front, all of them unless the handler ends the connection at one, and its
messages are their texts. -/
structure Dealing (data : Bytes) (events : List Event) (frames : List Frame) : Prop where
  front : frames <+: framesOf data
  whole : frames = framesOf data ∨ ∃ conn reason log,
    .log (.ended conn (some (.aborted reason log))) ∈ events
  messages : Event.messages events = Frame.texts frames

theorem FramedPhase.dealing {h : Handler σ} {u : Session σ} {events : List Event}
    (hp : FramedPhase h u events) (hr : u.desk.Ready) :
    ∃ frames, Dealing (u.worker.buffer ++ received events) events frames := by
  obtain ⟨turns, cause, rest, hsettled, hdeeds, hrest⟩ := hp.settled
  have hmessages : Event.messages events = Frame.texts (Turn.frames turns) := by
    rw [← messages_deeds, hdeeds, messages_append, hsettled.messages hr, ← List.singleton_append,
      messages_append, messages_of_leave hrest]
    simp
  refine ⟨Turn.frames turns, ?_, ?_, hmessages⟩
  · cases hsettled with
    | aborted _ _ _ hfront => exact hfront
    | closed _ hall | violated _ hall | starved _ hall => exact hall ▸ List.prefix_rfl
  · cases hsettled with
    | aborted _ _ hending =>
      obtain ⟨reason, log, rfl⟩ := Turn.ending_play h _ hending
      refine .inr ⟨u.desk.outlet.conn, reason, log, ?_⟩
      have hmem : .log (.ended u.desk.outlet.conn (some (.aborted reason log))) ∈ deeds events := by
        rw [hdeeds]
        simp
      exact List.mem_of_mem_filter hmem
    | closed _ hall | violated _ hall | starved _ hall => exact .inl hall

/-! ### Whole runs -/

/-- **The messages of an upgraded connection are the payloads of its text frames**, whether they
are final or not. They are those of its final text frames, each the whole of a message, just if
none of the frames that it deals with is a fragment. -/
theorem messages_whole_iff (h : Handler σ) (thread : Nat) {hub : Hub} (hs : hub.Sound)
    {readSize : Nat} {state : σ} {t : Transport} {started : Int} {s : Session σ}
    (ha : accept? .webSocket readSize state t { started } hub = some s)
    (hup : (s.run h thread).events.any isUpgraded = true) :
    ∃ head data frames, IsHeader head ∧ received (s.run h thread).events = head ++ data ∧
      Dealing data (s.run h thread).events frames ∧
      (messages (s.run h thread).events = Frame.wholes frames ↔
        ∀ f ∈ frames, f.isFragment = false) := by
  have hreading := (accepted_of_accept? hs ha).reading
  obtain ⟨front, v, request, hat, hu, hrun⟩ :=
    upgrade_in_run thread (living_of_accept? hs ha) hreading hup
  obtain ⟨hattending, hframed, hserving, head, hheader, hreceived⟩ := hat.framed hu thread
  obtain ⟨frames, hdealing⟩ :=
    (framed_run (h := h) thread hattending hframed hserving).dealing hattending.ready
  let u := (v.step h thread).value
  have hevents : (s.run h thread).events = (front ++ (v.step h thread).events) ++
      (u.run h thread).events := by
    rw [hrun, List.append_assoc]
  have hgiven : messages (s.run h thread).events = Frame.texts frames := by
    rw [hevents, messages_append, messages_append, (hat.answer_quiet hu thread).2,
      hdealing.messages, messages_of_isIdle hat.quiet]
    rfl
  refine ⟨head, _, frames, hheader.isHeader, ?_, ⟨hdealing.front, ?_, hgiven⟩, ?_⟩
  · rw [hevents, received_append, hreceived, List.append_assoc]
  · refine hdealing.whole.imp_right ?_
    rintro ⟨conn, reason, log, hmem⟩
    exact ⟨conn, reason, log, by rw [hevents]; exact List.mem_append_right _ hmem⟩
  · rw [hgiven]
    exact Frame.texts_eq_wholes_iff frames

/-- A client sends one text, and then a ping. -/
theorem messages_whole_greeted :
    let hub : Hub := { capacity := 1 }
    let h := Shell.handler { prompt := "> ", mode := .webSocket }
    let header := Bytes.ofText "GET / HTTP/1.1\r\nUpgrade: websocket\r\n\r\n"
    let t : Transport :=
      { arrivals := [.data (header ++ [0x81, 0x82, 0, 0, 0, 0, 0x68, 0x69]),
          .data [0x89, 0x80, 0, 0, 0, 0]] }
    hub.Sound ∧ ∃ s, accept? .webSocket 128 () t { started := 0 } hub = some s ∧
      (s.run h 1).events.any isUpgraded = true ∧
      ∃ head data frames, IsHeader head ∧ received (s.run h 1).events = head ++ data ∧
        Dealing data (s.run h 1).events frames ∧
        (messages (s.run h 1).events = Frame.wholes frames ↔
          ∀ f ∈ frames, f.isFragment = false) := by
  intro hub h header t
  have hs : hub.Sound := Hub.sound_empty 1
  have hup : ∀ s, accept? .webSocket 128 () t { started := 0 } hub = some s →
      (s.run h 1).events.any isUpgraded = true := by
    intro s ha
    cases ha
    rw [run_eq_steps 12]
    · decide +kernel
    · decide +kernel
  exact ⟨hs, _, rfl, hup _ rfl, messages_whole_iff h 1 hs rfl (hup _ rfl)⟩

/-- A client sends a text in two fragments: the handler is given the first of them as a message,
and the second, a continuation, ends the connection. -/
theorem fragment_delivered :
    let hub : Hub := { capacity := 1 }
    let h := Shell.handler { prompt := "> ", mode := .webSocket }
    let header := Bytes.ofText "GET / HTTP/1.1\r\nUpgrade: websocket\r\n\r\n"
    let first : Bytes := [0x01, 0x82, 0, 0, 0, 0, 0x68, 0x69]
    let second : Bytes := [0x80, 0x81, 0, 0, 0, 0, 0x21]
    let t : Transport := { arrivals := [.data (header ++ first), .data second] }
    Frame.parse first = .complete ⟨.text, false, ⟨0, 0, 0, 0⟩, [0x68, 0x69]⟩ 8 ∧
      Frame.parse second = .violation (.unsupportedOpcode 0) ∧
      ∃ s, accept? .webSocket 128 () t { started := 0 } hub = some s ∧
        (s.run h 1).events.any isUpgraded = true ∧ messages (s.run h 1).events =
          [[0x68, 0x69]] := by
  intro hub h header first second t
  refine ⟨by decide, by decide, _, rfl, ?_⟩
  rw [run_eq_steps 12]
  · decide +kernel
  · decide +kernel

end Session
end NetShell
