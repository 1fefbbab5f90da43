import NetShell.Proofs.Approach
import NetShell.Proofs.LineDelivery

/-! In what order a handler is called.

Whatever happens to a connection, its handler is told of it first and at most once, is then
given messages, and is told nothing more once it has ended the connection (`Session.Talk`).
A terminal is announced before anything is read. A WebSocket client is announced when its
header has come in, with what the header asks for; it is answered if the handler goes on
and the upgrade was asked for, and only then there are messages (`Session.conversation`). -/
namespace NetShell
open WebSocket Event Telnet

variable {σ : Type}

/-- What a handler is told. -/
inductive Callback
  | connected (request : Option Request)
  | message (data : Bytes)
  deriving DecidableEq, Repr

/-- What the handler was told, in order. -/
def Event.callbacks (events : List Event) : List Callback :=
  events.filterMap fun
    | .connected _ _ request => some (.connected request)
    | .message _ _ data => some (.message data)
    | _ => none

namespace Event

@[simp] theorem callbacks_nil : callbacks [] = [] := rfl

@[simp] theorem callbacks_append (a b : List Event) :
    callbacks (a ++ b) = callbacks a ++ callbacks b :=
  List.filterMap_append

theorem callbacks_of_quiet {events : List Event} (h : ∀ e ∈ events, e.isInput = false) :
    callbacks events = [] := by
  rw [callbacks, List.filterMap_eq_nil_iff]
  intro e he
  have := h e he
  cases e with
  | connected | message => cases this
  | _ => rfl

theorem callbacks_of_offers {part : Bytes} {events : List Event}
    (h : ∀ e ∈ events, Outlet.Offers part e) :
    callbacks events = [] := by
  rw [callbacks, List.filterMap_eq_nil_iff]
  intro e he
  rcases h e he with hidle | ⟨_, _, _, rfl, -⟩
  · cases e with
    | connected | message => cases hidle
    | _ => rfl
  · rfl

theorem callbacks_of_isIdle {events : List Event} (h : ∀ e ∈ events, e.isIdle = true) :
    callbacks events = [] :=
  @callbacks_of_offers [] events fun e he => .inl (h e he)

end Event

/-- What a handler may be told, as its answers go: of the connection first, then messages, and
nothing after it has ended the connection. -/
def Handler.Allows (h : Handler σ) (state : σ) (calls : List Callback) : Prop :=
  calls = [] ∨ ∃ request messages, calls = .connected request :: messages.map .message ∧
    messages = h.hears state request messages

namespace Session

variable {h : Handler σ} {mode : Mode} {state : σ} {d : Desk} {id conn : Nat} {hook : Hook}
  {past : List Event}
  {request : Request} {s : Session σ}

/-! ### What holds at any time -/

/-- What the handler of a connection has been told: nothing yet; or of the connection and some
messages, and it goes on; or as much as it may be, and the connection ends. -/
inductive Talk (h : Handler σ) (mode : Mode) (state : σ) (id : Nat) (hook : Hook)
    (past : List Event) (s : Session σ) :
    Prop
  | unheard : AtLines mode id hook past s → callbacks past = [] → s.worker.state = state →
      s.worker.phase = .fresh ∨ s.worker.phase = .serving ∧ mode = .webSocket →
      Talk h mode state id hook past s
  | heard (request : Option Request) (messages : List Bytes) : Attending id hook past s →
      s.worker.phase = .serving →
      (s.desk.outlet.framed = false → s.worker.mode = .line) →
      callbacks past = .connected request :: messages.map .message →
      h.Heard state request messages s.worker.state → Talk h mode state id hook past s
  | leaving : Parting s → h.Allows state (callbacks past) → Talk h mode state id hook past s

theorem Talk.allows (ht : Talk h mode state id hook past s) : h.Allows state (callbacks past) := by
  cases ht with
  | unheard _ hcalls => exact .inl hcalls
  | heard request messages _ _ _ hcalls hheard => exact .inr ⟨request, messages, hcalls, hheard.all⟩
  | leaving _ hallowed => exact hallowed

/-! ### One step -/

theorem callbacks_perform {d : Desk} (hr : d.Ready) (acts : List Act) :
    callbacks (d.perform acts).events = [] :=
  callbacks_of_quiet ((Desk.moves_perform hr acts).quiet (fun _ => isInput_of_isOutput) hr)

theorem callbacks_transmit {d : Desk} (hr : d.Ready) (parts : List Bytes) (data : Bytes) :
    callbacks (d.transmit (Outlet.transmit parts data)).events = [] :=
  callbacks_of_quiet ((Desk.moves_transmit hr parts data).quiet (fun _ => isInput_of_isOutput) hr)

/-- A message for a handler that goes on. -/
theorem talk_dispatch {request : Option Request} {messages : List Bytes}
    (ha : Attending id hook past s) (hs : s.worker.phase = .serving)
    (hm : s.desk.outlet.framed = false → s.worker.mode = .line)
    (hcalls : callbacks past = .connected request :: messages.map .message)
    (hheard : h.Heard state request messages s.worker.state) (data : Bytes) :
    Talk h mode state id hook (past ++ (s.dispatch h data).events) (s.dispatch h data).value := by
  have hmoves := moves_dispatch h ha.ready hs data
  have hready := (Desk.moves_transition isWork s.desk .running rfl).ready ha.ready
  have hkept := Desk.kept_perform hready.unreleased (h.message s.worker.state data).acts
  have hnothing := callbacks_perform hready (h.message s.worker.state data).acts
  rw [dispatch_eq h ha.ready.unreleased hs] at hmoves ⊢
  let d := s.desk.transition .running
  have hgiven : callbacks (past ++ .message d.id d.link.status data ::
      (d.perform (h.message s.worker.state data).acts).events) =
      .connected request :: (messages ++ [data]).map .message := by
    rw [← List.singleton_append, callbacks_append, callbacks_append, hnothing, hcalls]
    simp [callbacks]
  cases hf : (h.message s.worker.state data).flow with
  | «continue» =>
    exact .heard request (messages ++ [data]) (ha.moves hmoves.desk) rfl
      (fun hunframed => hm (hkept.framed ▸ hunframed)) hgiven (.message hheard hf)
  | abort reason log =>
    refine .leaving (.finished _ rfl) (.inr ⟨request, messages ++ [data], hgiven, ?_⟩)
    rw [hheard.hears]
    simp [Handler.takes, hf]

/-- A frame for a handler that goes on: it hears of texts only. -/
theorem talk_frame {request : Option Request} {messages : List Bytes}
    (ha : Attending id hook past s) (hs : s.worker.phase = .serving)
    (hf : s.desk.outlet.framed = true)
    (hcalls : callbacks past = .connected request :: messages.map .message)
    (hheard : h.Heard state request messages s.worker.state) (f : Frame) (rest : Bytes) :
    Talk h mode state id hook (past ++ (s.frame h f rest).events) (s.frame h f rest).value := by
  have hmoves := moves_frame h ha.ready hs f rest
  by_cases hping : f.opcode = .ping
  · rw [frame_ping h ha.ready.unreleased hping] at hmoves ⊢
    refine .heard request messages (ha.moves hmoves.desk) hs (fun hunframed => ?_) ?_ hheard
    · have hkept := (Desk.kept_transmit ha.ready.unreleased
        [Frame.header (UInt8.ofNat Opcode.pong.code) f.payload.length, f.payload] f.payload).framed
      cases (hkept.trans hf).symm.trans hunframed
    · rw [callbacks_append, hcalls]
      exact (congrArg _ (callbacks_transmit ha.ready _ f.payload)).trans (List.append_nil _)
  · by_cases hpong : f.opcode = .pong
    · rw [frame_pong h hpong] at hmoves ⊢
      refine .heard request messages (ha.moves hmoves.desk) hs (fun hunframed => ?_) ?_ hheard
      · cases hf.symm.trans hunframed
      · rw [callbacks_append, hcalls]
        exact List.append_nil _
    · rw [frame_other h hping hpong]
      let note : Event := .log (.frame s.desk.outlet.conn f.opcode f.final f.payload.length)
      have hnoted : Attending id hook (past ++ [note])
          (⟨{ s.worker with buffer := rest }, s.desk⟩ : Session σ) :=
        ha.moves (.event isWork s.desk rfl)
      have hgiven : callbacks (past ++ [note]) = .connected request :: messages.map .message := by
        rw [callbacks_append, hcalls]
        exact List.append_nil _
      rw [← List.singleton_append, ← List.append_assoc]
      exact talk_dispatch hnoted hs (fun hunframed => by cases hf.symm.trans hunframed) hgiven
        hheard f.payload

theorem callbacks_fill (ha : Attending id hook past s) (hs : s.worker.phase = .serving)
    (hd : s.worker.drained = false) : callbacks (past ++ s.fill.events) = callbacks past := by
  rw [callbacks_append, callbacks_of_isIdle (idle_fill ha hs hd), List.append_nil]

/-- A handler that goes on hears the next line, or the next frame if it is a text. -/
theorem talk_heard {request : Option Request} {messages : List Bytes} (thread : Nat)
    (ha : Attending id hook past s) (hs : s.worker.phase = .serving)
    (hm : s.desk.outlet.framed = false → s.worker.mode = .line)
    (hcalls : callbacks past = .connected request :: messages.map .message)
    (hheard : h.Heard state request messages s.worker.state) :
    Talk h mode state id hook (past ++ (s.step h thread).events) (s.step h thread).value := by
  have hallowed : h.Allows state (callbacks past) := .inr ⟨request, messages, hcalls, hheard.all⟩
  have hconclude : ∀ cause,
      Talk h mode state id hook (past ++ (pure (s.conclude cause) : Traced (Session σ)).events)
      (pure (s.conclude cause) : Traced (Session σ)).value := by
    intro cause
    rw [conclude_eq hs, Traced.events_pure, List.append_nil]
    exact .leaving (.finished cause rfl) hallowed
  have hfill : s.worker.drained = false → Talk h mode state id hook (past ++ s.fill.events)
      s.fill.value := by
    intro hd
    obtain ⟨hfilled, hrefilled⟩ := filled ha hs hd
    rw [← callbacks_fill ha hs hd] at hcalls hallowed
    cases hrefilled with
    | serving hserving =>
      refine .heard request messages (ha.moves (moves_fill hs).desk) hserving (fun hf => ?_) hcalls
        (hfilled.state ▸ hheard)
      rw [hfilled.mode]
      exact hm ((congrArg (·.outlet.framed) hfilled.desk) ▸ hf)
    | exhausted fault hfinished => exact .leaving (.finished _ hfinished) hallowed
    | cut fault _ hfinished => exact .leaving (.finished _ hfinished) hallowed
  cases hf : s.desk.outlet.framed with
  | false =>
    have hline : ∀ data rest, Talk h mode state id hook (past ++ (s.line h data rest).events)
        (s.line h data rest).value := by
      intro data rest
      rw [line_line h (hm hf)]
      exact talk_dispatch (s := ⟨{ s.worker with buffer := rest }, s.desk⟩) ⟨ha.number, ha.ready,
        ha.told⟩ hs hm hcalls
        hheard data
    rw [step_lines h thread hs hf, serveLines_eq]
    split
    · exact hline _ _
    · split
      · split
        · exact hline _ _
        · exact hconclude none
      · exact hfill (by simpa using ‹¬ s.worker.drained = true›)
  | true =>
    rw [step_frames h thread hs hf, serveFrames_eq]
    cases hp : Frame.parse s.worker.buffer with
    | complete f size => exact talk_frame ha hs hf hcalls hheard f _
    | incomplete =>
      dsimp only
      split
      · exact hconclude none
      · exact hfill (by simpa using ‹¬ s.worker.drained = true›)
    | close => exact hconclude _
    | violation cause => exact hconclude _

/-- The handler is told of the connection, and goes on or has ended it. -/
theorem allows_connected (h : Handler σ) (state : σ) (request : Option Request) :
    h.Allows state [.connected request] := by
  refine .inr ⟨request, [], rfl, ?_⟩
  unfold Handler.hears
  split <;> rfl

theorem talk_changeOver (ha : AtLines mode id hook past s) (hs : s.worker.phase = .serving)
    (hnone : callbacks past = []) (hstate : s.worker.state = state) :
    Talk h mode state id hook (past ++ (s.changeOver h).events) (s.changeOver h).value := by
  subst hstate
  have hmoves := moves_changeOver h ha.ready hs
  let request := s.worker.upgrade.request
  let reply := Bytes.ofText (switchingProtocols request.key)
  let w := s.desk.perform (h.connected s.worker.state (some request)).acts
  have hready :=
    (Desk.moves_perform ha.ready (h.connected s.worker.state (some request)).acts).ready ha.ready
  have hasked :
      callbacks (past ++ .connected s.desk.id s.desk.link.status (some request) :: w.events) =
      [.connected (some request)] := by
    rw [← List.singleton_append, callbacks_append, callbacks_append, hnone,
      callbacks_perform ha.ready]
    rfl
  rw [changeOver_eq h ha.ready.unreleased hs] at hmoves ⊢
  cases hflow : (h.connected s.worker.state (some s.worker.upgrade.request)).flow with
  | abort reason log => exact .leaving (.finished _ rfl) (hasked ▸ allows_connected h _ _)
  | «continue» =>
    simp only [hflow] at hmoves ⊢
    by_cases hu : s.worker.upgrade.request.upgrade = true
    · simp only [hu, if_true] at hmoves ⊢
      have hanswered : callbacks (w.value.desk.transmit (Outlet.send reply)).events = [] :=
        callbacks_transmit hready [reply] reply
      have hat := ha.toAttending.moves (t := ⟨s.worker, _⟩) hmoves.desk
      refine .heard (some request) [] ⟨hat.number, hat.ready, hat.told⟩ hs (fun h => by cases h) ?_
        (.connected hflow)
      rw [← List.append_assoc, callbacks_append, ← List.append_assoc, callbacks_append, hasked,
        hanswered]
      rfl
    · simp only [hu, Bool.false_eq_true, if_false]
      exact .leaving (.finished _ rfl) (hasked ▸ allows_connected h _ _)

/-- The worker starts: a terminal is announced at once. -/
theorem talk_start (thread : Nat) (ha : AtLines mode id hook past s) (hs : s.worker.phase = .fresh)
    (hnone : callbacks past = []) (hstate : s.worker.state = state) :
    Talk h mode state id hook (past ++ (s.step h thread).events) (s.step h thread).value := by
  subst hstate
  have hmoves := (moves_step h thread ha.ready (.inl hs)).desk
  rw [step_fresh h thread hs] at hmoves ⊢
  cases mode with
  | webSocket =>
    rw [start_webSocket h thread ha.mode] at hmoves ⊢
    refine .unheard (ha.moves hmoves rfl rfl) ?_ rfl (.inr ⟨rfl, rfl⟩)
    rw [callbacks_append, hnone]
    rfl
  | line =>
    let begun := s.desk.update s.desk.outlet { s.desk.link with thread }
    let r := h.connected s.worker.state none
    have hready : begun.Ready := (Desk.moves_update isWork (.begin thread (.nil _))).ready ha.ready
    have hasked : callbacks (past ++ .log (.started s.desk.outlet.conn .line) ::
        .connected begun.id begun.link.status none :: (begun.perform r.acts).events) =
        [.connected none] := by
      rw [callbacks_append, hnone]
      exact congrArg (Callback.connected none :: ·) (callbacks_perform hready r.acts)
    rw [start_line h thread ha.ready.unreleased ha.mode] at hmoves ⊢
    cases hflow : (h.connected s.worker.state none).flow with
    | «continue» =>
      have hat := ha.toAttending.moves (t := ⟨s.worker, _⟩) hmoves
      exact .heard none [] ⟨hat.number, hat.ready, hat.told⟩ rfl (fun _ => ha.mode) hasked
        (.connected hflow)
    | abort reason log => exact .leaving (.finished _ rfl) (hasked ▸ allows_connected h _ _)

/-- A client that has not been announced sends a line of its request, or the worker reads on. -/
theorem talk_unheard (thread : Nat) (ha : AtLines .webSocket id hook past s)
    (hs : s.worker.phase = .serving) (hnone : callbacks past = [])
      (hstate : s.worker.state = state) :
    Talk h .webSocket state id hook (past ++ (s.step h thread).events) (s.step h thread).value := by
  have hallowed : h.Allows state [] := .inl rfl
  have hline : ∀ line rest, Talk h .webSocket state id hook (past ++ (s.line h line rest).events)
      (s.line h line rest).value := by
    intro line rest
    rw [line_webSocket h ha.mode,
      request_eq (s := ⟨{ s.worker with buffer := rest }, s.desk⟩) h ha.ready.unreleased hs]
    cases hfeed : (s.worker.upgrade.feed line).1 with
    | «continue» =>
      simp only [Traced.events_pure, List.append_nil]
      exact .unheard (ha.stays rfl rfl) hnone hstate (.inr ⟨hs, rfl⟩)
    | headersDone =>
      exact talk_changeOver (ha.stays rfl rfl) hs hnone hstate
    | reject cause =>
      refine .leaving (.finished _ rfl) ?_
      have hsent : callbacks (s.desk.transmit (Outlet.send notImplemented)).events = [] :=
        callbacks_transmit ha.ready [notImplemented] notImplemented
      rw [callbacks_append, hnone, hsent]
      exact hallowed
  have hconclude : Talk h .webSocket state id hook
      (past ++ (pure (s.conclude none) : Traced (Session σ)).events)
      (pure (s.conclude none) : Traced (Session σ)).value := by
    rw [conclude_eq hs, Traced.events_pure, List.append_nil]
    exact .leaving (.finished none rfl) (hnone ▸ hallowed)
  rw [step_lines h thread hs ha.unframed, serveLines_eq]
  split
  · exact hline _ _
  · split
    · split
      · exact hline _ _
      · exact hconclude
    · have hd : s.worker.drained = false := by simpa using ‹¬ s.worker.drained = true›
      obtain ⟨hfilled, hrefilled⟩ := filled ha.toAttending hs hd
      rw [← callbacks_fill ha.toAttending hs hd] at hnone
      cases hrefilled with
      | serving hserving =>
        exact .unheard (ha.moves (moves_fill hs).desk hfilled.mode
          (congrArg (·.outlet.framed) hfilled.desk)) hnone
          (hfilled.state.trans hstate) (.inr ⟨hserving, rfl⟩)
      | exhausted fault hfinished | cut fault _ hfinished =>
        exact .leaving (.finished _ hfinished) (hnone ▸ hallowed)

theorem talk_ask (hl : Living id conn hook past s) (ht : Talk h mode state id hook past s) :
    Talk h mode state id hook (past ++ s.ask.events) s.ask.value := by
  have hworker := worker_ask s
  have houtlet := outlet_ask s
  have hcalls : ∀ ha : Attending id hook past s,
      callbacks (past ++ s.ask.events) = callbacks past := by
    intro ha
    have hnothing := callbacks_of_quiet fun e he => isInput_of_isFarewell (asked_farewell ha e he)
    rw [callbacks_append, hnothing, List.append_nil]
  cases ht with
  | unheard ha hnone hstate hphase =>
    have hat := ha.moves (moves_asked ha.toAttending isWork) (congrArg Worker.mode hworker)
      (congrArg Outlet.framed houtlet)
    exact .unheard hat ((hcalls ha.toAttending).trans hnone) (hworker ▸ hstate) (hworker ▸ hphase)
  | heard request messages ha hs hm hgiven hheard =>
    exact .heard request messages (ha.moves (moves_asked ha isWork)) (hworker ▸ hs)
      (hworker ▸ houtlet ▸ hm)
      ((hcalls ha).trans hgiven) (hworker ▸ hheard)
  | leaving hp hallowed =>
    obtain ⟨hparting, hquiet⟩ := parting_ask hl hp
    refine .leaving hparting ?_
    rw [callbacks_append, callbacks_of_isIdle fun e he => (hquiet e he).1, List.append_nil]
    exact hallowed

/-- **Whatever happens next keeps what the handler may be told.** -/
theorem talk_meet (occasion : Occasion) (hrun : occasion ≠ .drop) (hl : Living id conn hook past s)
    (ht : Talk h mode state id hook past s) :
    Talk h mode state id hook (past ++ (s.meet h occasion).events) (s.meet h occasion).value := by
  cases occasion with
  | ask => exact talk_ask hl ht
  | drop => exact absurd rfl hrun
  | work thread =>
    cases ht with
    | unheard ha hnone hstate hphase =>
      rcases hphase with hs | ⟨hs, rfl⟩
      · exact talk_start thread ha hs hnone hstate
      · exact talk_unheard thread ha hs hnone hstate
    | heard request messages ha hs hm hgiven hheard =>
      exact talk_heard thread ha hs hm hgiven hheard
    | leaving hp hallowed =>
      obtain ⟨hparting, hquiet⟩ := parting_meet (h := h) hl hp (.work thread)
      refine .leaving hparting ?_
      rw [callbacks_append, callbacks_of_isIdle fun e he => (hquiet e he).1, List.append_nil]
      exact hallowed

theorem talk_life (occasions : List Occasion) (hrun : ∀ occasion ∈ occasions, occasion ≠ .drop)
    (hl : Living id conn hook past s) (ht : Talk h mode state id hook past s) :
    Talk h mode state id hook (past ++ (s.life h occasions).events) (s.life h occasions).value := by
  induction occasions generalizing past s with
  | nil => simpa [life] using ht
  | cons occasion rest ih =>
    have hnext := talk_meet occasion (hrun occasion (List.mem_cons_self ..)) hl ht
    have := ih (fun o ho => hrun o (List.mem_cons_of_mem _ ho)) (living_meet h occasion hl) hnext
    rw [List.append_assoc] at this
    exact this

/-! ### What is said of a whole life -/

/-- A client's header has come in, and its request was answered. Up to `front` the handler was
told nothing, the client was sent nothing, and no read was begun after a header had come in;
in the next step the handler is told what the header asks for. If it goes on and the upgrade
was asked for, the upgrade is the first thing that is sent then; if not, the handler is told
nothing more and the client is sent nothing more. -/
structure Answered (h : Handler σ) (state : σ) (s : Session σ) (front : List Occasion)
    (thread : Nat) (back : List Occasion) (request : Request) : Prop where
  quiet : ∀ e ∈ (s.life h front).events, e.isIdle = true
  reads : AtReads (fun before => Headless (received before)) (s.life h front).events
  header : ∃ head rest, IsHeaderFor head request ∧ received (s.life h front).events = head ++ rest
  answer : ∃ later, (s.life h (front ++ .work thread :: back)).events =
      (s.life h front).events ++ told h state (s.life h front).value.desk request ++ later ∧
    (Upgrades h state request → ∃ asks outcome more, (∀ e ∈ asks, e.isFarewell = true) ∧
      later = asks ++ .write s.desk.id (Bytes.ofText (switchingProtocols request.key))
        outcome :: more) ∧
    (¬ Upgrades h state request → ∀ e ∈ later, e.isIdle = true)

/-- In what order the handler of a connection is called in the course of its life, and when the
upgrade is offered. -/
structure Conversation (h : Handler σ) (mode : Mode) (state : σ) (s : Session σ)
    (occasions : List Occasion) : Prop where
  allowed : h.Allows state (callbacks (s.life h occasions).events)
  line : mode = .line → ∃ asks status rest, (∀ e ∈ asks, e.isFarewell = true) ∧
    (s.life h occasions).events =
    asks ++ .log (.started s.desk.outlet.conn .line) :: .connected s.desk.id status none :: rest
  webSocket : mode = .webSocket →
    (Unanswered (s.life h occasions).events ∧ ∀ link key outcome,
      .write link (Bytes.ofText (switchingProtocols key)) outcome ∉ (s.life h occasions).events) ∨
    ∃ front thread back request, occasions = front ++ .work thread :: back ∧
      Answered h state s front thread back request
  header : mode = .webSocket → (callbacks (s.life h occasions).events ≠ [] ↔
    ∃ head, IsHeader head ∧ head <+: received (s.life h occasions).events)
  offered : mode = .webSocket → ∀ before link status data after,
    (s.life h occasions).events = before ++ .message link status data :: after →
    ∃ key outcome, .write s.desk.id (Bytes.ofText (switchingProtocols key)) outcome ∈ before

/-! ### Whole lives -/

/-- The answer that completes the upgrade is longer than the refusal, whatever the key. -/
theorem length_switchingProtocols (key : String) :
    notImplemented.length < (Bytes.ofText (switchingProtocols key)).length := by
  have hfront : ∀ a b : String, Bytes.ofText a <+: Bytes.ofText (a ++ b) := fun a b =>
    ⟨Bytes.ofText b, by simp [Bytes.ofText]⟩
  have hreply : Bytes.ofText ("HTTP/1.1 101 Switching Protocols\r\n" ++
      "Upgrade: websocket\r\n") <+:
      Bytes.ofText (switchingProtocols key) := by
    unfold switchingProtocols
    iterate 4 refine List.IsPrefix.trans ?_ (hfront _ _)
    exact hfront _ _
  have hshort : notImplemented.length <
      (Bytes.ofText ("HTTP/1.1 101 Switching Protocols\r\n" ++
      "Upgrade: websocket\r\n")).length := by
    decide +kernel
  exact Nat.lt_of_lt_of_le hshort hreply.length_le

/-- The refusal is no upgrade. -/
theorem Unanswered.unoffered (hu : Unanswered past) (link : Nat) (key : String)
    (outcome : Except Fault Nat) :
    .write link (Bytes.ofText (switchingProtocols key)) outcome ∉ past := by
  have hlong := length_switchingProtocols key
  generalize Bytes.ofText (switchingProtocols key) = reply at hlong ⊢
  intro hmem
  rcases hu.refused _ hmem with hidle | ⟨_, _, _, heq, hsuffix⟩
  · cases hidle
  · injection heq with _ hoffered _
    have hlen := hsuffix.length_le
    rw [← hoffered] at hlen
    omega

/-- Requests that come before the worker starts leave it as it is. -/
theorem life_asks (h : Handler σ) (n : Nat) (ha : AtLines mode id hook past s) :
    let t := s.life h (List.replicate n .ask)
    AtLines mode id hook (past ++ t.events) t.value ∧ t.value.worker = s.worker ∧
      t.value.desk.outlet = s.desk.outlet ∧ ∀ e ∈ t.events, e.isFarewell = true := by
  induction n generalizing past s with
  | zero => exact ⟨by simpa [life] using ha, rfl, rfl, by simp [life]⟩
  | succ n ih =>
    have hworker := worker_ask s
    have houtlet := outlet_ask s
    have hat := ha.moves (moves_asked ha.toAttending isWork) (congrArg Worker.mode hworker)
      (congrArg Outlet.framed houtlet)
    obtain ⟨hlater, hworker', houtlet', hquiet⟩ := ih hat
    rw [List.append_assoc] at hlater
    exact ⟨hlater, hworker'.trans hworker, houtlet'.trans houtlet,
      List.forall_mem_append.2 ⟨asked_farewell ha.toAttending, hquiet⟩⟩

/-- What comes before the first step. -/
theorem first_work (occasions : List Occasion) (hrun : ∀ occasion ∈ occasions, occasion ≠ .drop) :
    ∃ n, occasions = List.replicate n .ask ∨
      ∃ thread back, occasions = List.replicate n .ask ++ .work thread :: back := by
  induction occasions with
  | nil => exact ⟨0, .inl rfl⟩
  | cons occasion rest ih =>
    cases occasion with
    | drop => exact absurd rfl (hrun .drop (List.mem_cons_self ..))
    | work thread => exact ⟨0, .inr ⟨thread, rest, rfl⟩⟩
    | ask =>
      obtain ⟨n, rfl | ⟨thread, back, rfl⟩⟩ := ih fun o ho => hrun o (List.mem_cons_of_mem _ ho)
      · exact ⟨n + 1, .inl rfl⟩
      · exact ⟨n + 1, .inr ⟨thread, back, rfl⟩⟩

/-- A terminal is announced at once. -/
theorem start_announces (thread : Nat) (ha : AtLines .line id hook past s)
    (hs : s.worker.phase = .fresh) :
    ∃ status rest, (s.step h thread).events =
      .log (.started s.desk.outlet.conn .line) :: .connected s.desk.id status none :: rest := by
  rw [step_fresh h thread hs, start_line h thread ha.ready.unreleased ha.mode]
  exact ⟨_, _, rfl⟩

theorem announced_life (ha : AtLines .line id hook past s) (hs : s.worker.phase = .fresh)
    (occasions : List Occasion) (hrun : ∀ occasion ∈ occasions, occasion ≠ .drop)
    (hg : (s.life h occasions).value.isGone = true) :
    ∃ asks status rest, (∀ e ∈ asks, e.isFarewell = true) ∧ (s.life h occasions).events =
      asks ++ .log (.started s.desk.outlet.conn .line) :: .connected id status none :: rest := by
  obtain ⟨n, rfl | ⟨thread, back, rfl⟩⟩ := first_work occasions hrun
  · rw [isGone, (life_asks h n ha).2.1, hs] at hg
    cases hg
  · obtain ⟨hat, hworker, houtlet, hquiet⟩ := life_asks h n ha
    obtain ⟨status, rest, hstart⟩ :=
      start_announces (h := h) thread hat ((congrArg Worker.phase hworker).trans hs)
    rw [houtlet, hat.number] at hstart
    have hlife := events_life_work h (List.replicate n .ask) thread back s
    rw [hstart] at hlife
    exact ⟨_, status, _, hquiet, hlife⟩

/-- What comes after something that is not in the first part of a history. -/
theorem split_of_notMem {a b before after : List Event} {e : Event}
    (h : a ++ b = before ++ e :: after) (he : e ∉ a) :
    ∃ more, before = a ++ more ∧ b = more ++ e :: after := by
  rcases split_append h with hsecond | ⟨back, hfirst, -⟩
  · exact hsecond
  · exact absurd (by rw [hfirst]; simp) he

/-- What the step comes to that takes the end of a header out of the buffer. -/
theorem answer_step (ha : AtHeader h state d id hook past request s) (thread : Nat) :
    ∃ later, (s.step h thread).events = told h state s.desk request ++ later ∧
      (Upgrades h state request → ∃ asks outcome more, (∀ e ∈ asks, e.isFarewell = true) ∧
        later = asks ++ .write id (Bytes.ofText (switchingProtocols request.key)) outcome :: more) ∧
      (¬ Upgrades h state request → later = [] ∧ Parting (s.step h thread).value) := by
  by_cases hu : Upgrades h state request
  · have hready :=
      (Desk.moves_perform ha.ready (h.connected state (some request)).acts).ready ha.ready
    have hkept := Desk.kept_perform ha.ready.unreleased (h.connected state (some request)).acts
    obtain ⟨asks, outcome, more, hevents, hasks⟩ := Desk.transmit_offers hready
      (List.ne_nil_of_length_pos (Nat.zero_lt_of_lt (length_switchingProtocols request.key)))
    obtain ⟨head, rest, stage, -, -, hstep⟩ := ha.upgraded hu thread
    rw [hkept.id, ha.number] at hevents
    rw [hstep, hevents]
    exact ⟨_, List.append_assoc .., fun _ => ⟨asks, outcome, _, hasks, List.append_assoc ..⟩,
      fun hnot => absurd hu hnot⟩
  · obtain ⟨hevents, hparting⟩ := ha.declined hu thread
    exact ⟨[], by rw [hevents, List.append_nil], fun hup => absurd hup hu, fun _ => ⟨rfl, hparting⟩⟩

/-- The step that takes the end of a header out of the buffer answers the request. -/
theorem answered_life {front : List Occasion} (thread : Nat) (back : List Occasion)
    (hl : Living id conn hook [] s)
    (ha : AtHeader h state d s.desk.id hook (s.life h front).events request (s.life h front).value) :
    Answered h state s front thread back request := by
  obtain ⟨head, rest, stage, hheader, hreceived, -⟩ := ha.step
  obtain ⟨later, hevents, hyes, hno⟩ := answer_step ha thread
  refine ⟨ha.quiet, ha.reads, ⟨head, rest, hheader, hreceived⟩,
    later ++ (life h back ((s.life h front).value.step h thread).value).events, ?_, ?_, ?_⟩
  · rw [events_life_work, hevents]
    simp
  · intro hupgrades
    obtain ⟨asks, outcome, more, hasks, rfl⟩ := hyes hupgrades
    exact ⟨asks, outcome, _, hasks, by rw [List.append_assoc, List.cons_append]⟩
  · intro hnot
    obtain ⟨rfl, hparting⟩ := hno hnot
    have hliving := living_work h thread (living_life h front hl)
    exact fun e he => ((parting_life hliving hparting back).2 e he).1

/-- Messages come after the upgrade has been offered. -/
theorem Answered.offered {front back : List Occasion} {thread : Nat}
    (ha : Answered h state s front thread back request) (hr : (s.life h front).value.desk.Ready)
    {before after : List Event} {link : Nat} {status : Status} {data : Bytes}
    (hsplit : (s.life h (front ++ .work thread :: back)).events =
      before ++ .message link status data :: after) :
    ∃ key outcome, .write s.desk.id (Bytes.ofText (switchingProtocols key)) outcome ∈ before := by
  obtain ⟨later, hevents, hyes, hno⟩ := ha.answer
  have hacts := (Desk.moves_perform hr (h.connected state (some request)).acts).quiet
    (fun _ => isInput_of_isOutput) hr
  have hfirst : .message link status data ∉
      (s.life h front).events ++ told h state (s.life h front).value.desk request := by
    rw [List.mem_append, told, List.mem_cons]
    rintro (hmem | heq | hmem)
    · cases ha.quiet _ hmem
    · cases heq
    · cases hacts _ hmem
  rw [hsplit] at hevents
  obtain ⟨more, rfl, hlater⟩ := split_of_notMem hevents.symm hfirst
  by_cases hupgrades : Upgrades h state request
  · obtain ⟨asks, outcome, rest, hasks, rfl⟩ := hyes hupgrades
    let reply := Bytes.ofText (switchingProtocols request.key)
    have hoffer : .message link status data ∉ asks ++ [.write s.desk.id reply outcome] := by
      rw [List.mem_append, List.mem_singleton]
      rintro (hmem | heq)
      · cases hasks _ hmem
      · cases heq
    rw [← List.singleton_append, ← List.append_assoc] at hlater
    obtain ⟨last, rfl, -⟩ := split_of_notMem hlater hoffer
    exact ⟨request.key, outcome, by simp⟩
  · cases hno hupgrades (.message link status data) (by rw [hlater]; simp)

/-- **The order of a handler's calls.** Whatever happens to a connection from its acceptance to
its end, the handler is told of it at most once and before every message, and nothing after it
has ended the connection; a terminal is announced before anything is read, and a WebSocket
client when its header has come in; and the upgrade is offered before any message. -/
theorem conversation (h : Handler σ) {hub : Hub} (hs : hub.Sound) {readSize : Nat} {t : Transport}
    {started : Int} (ha : accept? mode readSize state t { started } hub = some s)
    (occasions : List Occasion) (hrun : ∀ occasion ∈ occasions, occasion ≠ .drop)
    (hg : (s.life h occasions).value.isGone = true) :
    Conversation h mode state s occasions := by
  have haccepted := accepted_of_accept? hs ha
  have hliving := living_of_accept? hs ha
  have hfresh : s.worker.phase = .fresh := by rw [haccepted.worker]
  have hstate : s.worker.state = state := by rw [haccepted.worker]
  have htalk := talk_life (h := h) occasions hrun hliving
    (.unheard haccepted.atLines (callbacks_nil) hstate (.inl hfresh))
  rw [List.nil_append] at htalk
  have hanswer : mode = .webSocket → Unanswered (s.life h occasions).events ∨
      ∃ front thread back request, occasions = front ++ .work thread :: back ∧
        (s.life h front).value.desk.Ready ∧ Answered h state s front thread back request := by
    rintro rfl
    rcases approach_life (h := h) occasions hrun hliving (.reading [] haccepted.reading)
      with hend | hheader
    · rw [List.nil_append] at hend
      cases hend with
      | reading _ hr => rcases hr.phase with hphase | hphase <;> simp [isGone, hphase] at hg
      | parting _ hu => exact .inl hu
    · obtain ⟨front, thread, back, request, rfl, hat⟩ := hheader
      rw [List.nil_append] at hat
      exact .inr ⟨front, thread, back, request, rfl, hat.ready,
        answered_life thread back hliving hat⟩
  refine ⟨htalk.allows, ?_, fun hm => ?_, fun hm => ?_, ?_⟩
  · rintro rfl
    exact announced_life haccepted.atLines hfresh occasions hrun hg
  · rcases hanswer hm with hu | ⟨front, thread, back, request, heq, -, hanswered⟩
    · exact .inl ⟨hu, hu.unoffered⟩
    · exact .inr ⟨front, thread, back, request, heq, hanswered⟩
  · rcases hanswer hm with hu | ⟨front, thread, back, request, rfl, hready, hanswered⟩
    · have hnone := callbacks_of_offers hu.refused
      refine ⟨fun hsome => absurd hnone hsome, ?_⟩
      rintro ⟨head, hhead, hprefix⟩
      exact absurd hprefix (hu.headless head hhead)
    · obtain ⟨later, hevents, -, -⟩ := hanswered.answer
      obtain ⟨head, rest, hheader, hreceived⟩ := hanswered.header
      rw [hevents]
      refine ⟨fun _ => ⟨head, hheader.isHeader, ?_⟩, fun _ => ?_⟩
      · simp only [received_append, hreceived, List.append_assoc]
        exact List.prefix_append ..
      · simp [callbacks, told]
  · intro hm before link status data after hsplit
    rcases hanswer hm with hu | ⟨front, thread, back, request, rfl, hready, hanswered⟩
    · rcases hu.refused (.message link status data) (by rw [hsplit]; simp)
        with hidle | ⟨_, _, _, heq, -⟩
      · cases hidle
      · cases heq
    · exact hanswered.offered hready hsplit

/-- A client of the shell is asked to leave when its text has come in along with its header. -/
theorem conversation_interrupted :
    let hub : Hub := { capacity := 1 }
    let h := Shell.handler { prompt := "> ", mode := .webSocket }
    let header := Bytes.ofText "GET / HTTP/1.1\r\nUpgrade: websocket\r\n\r\n"
    let t : Transport := { arrivals := [.data (header ++ [0x81, 0x82, 0, 0, 0, 0, 0x68, 0x69])] }
    let occasions := .ask :: List.replicate 6 (.work 1) ++ .ask :: List.replicate 4 (.work 2)
    hub.Sound ∧ ∃ s, accept? .webSocket 128 () t { started := 0 } hub = some s ∧
      (∀ occasion ∈ occasions, occasion ≠ .drop) ∧ (s.life h occasions).value.isGone = true ∧
      Conversation h .webSocket () s occasions := by
  intro hub h header t occasions
  have hs : hub.Sound := Hub.sound_empty 1
  have hrun : ∀ occasion ∈ occasions, occasion ≠ .drop := by
    intro occasion hmem
    simp only [occasions, List.mem_cons, List.mem_append, List.mem_replicate] at hmem
    rcases hmem with (rfl | ⟨-, rfl⟩) | rfl | ⟨-, rfl⟩ <;> simp
  have hgone : ∀ s, accept? .webSocket 128 () t { started := 0 } hub = some s →
      (s.life h occasions).value.isGone = true := by
    intro s ha
    cases ha
    decide +kernel
  exact ⟨hs, _, rfl, hrun, hgone _ rfl, conversation h hs rfl occasions hrun (hgone _ rfl)⟩

end Session
end NetShell
