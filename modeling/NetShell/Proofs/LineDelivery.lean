import NetShell.Proofs.Runs
import NetShell.Shell

/-! A terminal's lines reach the handler, all of them and in order.

The messages of a line connection are the lines of the bytes that its reads brought, as
`Telnet.Segmented` cuts them, and at the end of the stream what is left as a last line.
They stop short only where the handler ends the connection, or after so many read faults
in a row (`Session.lines_delivered`). How the bytes were dealt out to reads, which reads
were interrupted or failed, and when the connection was asked to shut down, all make no
difference.

`Session.Delivery` is what holds after any number of steps: the bytes read are the
segments handled so far and the buffer after them. -/
namespace NetShell
open Event Telnet

variable {σ : Type}

/-! ### What a handler makes of messages -/

namespace Handler

/-- The messages that the handler is given, of those there are: up to the first at which it
ends the connection. -/
def takes (h : Handler σ) : σ → List Bytes → List Bytes
  | _, [] => []
  | state, data :: rest =>
    match (h.message state data).flow with
    | .continue => data :: takes h (h.message state data).state rest
    | .abort .. => [data]

/-- Whether the handler ends the connection at one of the messages. -/
def ends (h : Handler σ) : σ → List Bytes → Bool
  | _, [] => false
  | state, data :: rest =>
    match (h.message state data).flow with
    | .continue => ends h (h.message state data).state rest
    | .abort .. => true

/-- The messages that the handler is given on a connection, of those there are. -/
def hears (h : Handler σ) (state : σ) (request : Option WebSocket.Request) (messages : List Bytes) :
    List Bytes :=
  match (h.connected state request).flow with
  | .continue => h.takes (h.connected state request).state messages
  | .abort .. => []

/-- Whether the handler ends a connection by itself, given the messages there are. -/
def leaves (h : Handler σ) (state : σ) (request : Option WebSocket.Request)
    (messages : List Bytes) :
    Bool :=
  match (h.connected state request).flow with
  | .continue => h.ends (h.connected state request).state messages
  | .abort .. => true

/-- The handler was told of a connection, was given messages and has not ended it; `now` is
its state. -/
inductive Heard (h : Handler σ) (state : σ) (request : Option WebSocket.Request) :
    List Bytes → σ → Prop
  | connected : (h.connected state request).flow = .continue →
      Heard h state request [] (h.connected state request).state
  | message {messages : List Bytes} {now : σ} {data : Bytes} : Heard h state request messages now →
      (h.message now data).flow = .continue →
      Heard h state request (messages ++ [data]) (h.message now data).state

variable {h : Handler σ} {state now : σ} {request : Option WebSocket.Request}
  {messages : List Bytes}

theorem Heard.hears (hh : h.Heard state request messages now) (more : List Bytes) :
    h.hears state request (messages ++ more) = messages ++ h.takes now more := by
  induction hh generalizing more with
  | connected hf => simp [Handler.hears, hf]
  | message _ hf ih =>
    rw [List.append_assoc, ih]
    simp [takes, hf]

theorem Heard.leaves (hh : h.Heard state request messages now) (more : List Bytes) :
    h.leaves state request (messages ++ more) = h.ends now more := by
  induction hh generalizing more with
  | connected hf => simp [Handler.leaves, hf]
  | message _ hf ih =>
    rw [List.append_assoc, ih]
    simp [ends, hf]

/-- With nothing left, the handler was given all there was. -/
theorem Heard.all (hh : h.Heard state request messages now) :
    messages = h.hears state request messages := by
  simpa [takes] using (hh.hears []).symm

end Handler

namespace Session

/-! ### What is said of a whole run -/

/-- The messages of a history are the lines of the bytes received, and what the end of the
stream makes a last line; if not to the end, the handler ended the connection or so many
reads in a row have failed. -/
def Delivered (h : Handler σ) (state : σ) (id : Nat) (past : List Event) : Prop :=
  ∃ segments tail, Segmented (received past) segments tail ∧
    let lines := segments.map lineOf ++ if spent id false past then lastLine tail else []
    messages past = h.hears state none lines ∧
      (h.leaves state none lines = true ∨ spent id false past = true ∨ strain 0 past = maxFaults)

variable {h : Handler σ} {state : σ} {id : Nat} {past : List Event} {s : Session σ}

theorem Delivered.quiet (hd : Delivered h state id past) {events : List Event}
    (hq : ∀ e ∈ events, e.isInput = false) : Delivered h state id (past ++ events) := by
  simpa only [Delivered, received_append, messages_append, spent_append, strain_append,
    received_of_quiet hq, messages_of_quiet hq, spent_of_quiet hq, strain_of_quiet hq,
    List.append_nil, Bool.or_false] using hd

/-! ### What holds after any number of steps -/

variable {hook : Hook}

/-- The worker serves: the bytes received are the segments it has handled and its buffer. -/
structure Serving (h : Handler σ) (state : σ) (id : Nat) (hook : Hook) (past : List Event)
    (segments : List Bytes) (s : Session σ) : Prop extends AtLines .line id hook past s where
  phase : s.worker.phase = .serving
  whole : ∀ segment ∈ segments, IsSegment segment
  received : received past = segments.flatten ++ s.worker.buffer
  messages : messages past = segments.map lineOf
  heard : h.Heard state none (segments.map lineOf) s.worker.state
  spent : spent id false past = s.worker.drained
  strain : s.worker.drained = false → strain 0 past = s.worker.faults ∧ s.worker.faults < maxFaults

/-- The stream has ended, and its tail has been handled as a last line. -/
structure Tailed (h : Handler σ) (state : σ) (id : Nat) (hook : Hook) (past : List Event)
    (segments : List Bytes) (tail : Bytes)
    (s : Session σ) : Prop extends AtLines .line id hook past s where
  phase : s.worker.phase = .serving
  received : Segmented (received past) segments tail
  messages : messages past = segments.map lineOf ++ lastLine tail
  heard : h.Heard state none (segments.map lineOf ++ lastLine tail) s.worker.state
  spent : spent id false past = true
  buffer : s.worker.buffer = []
  drained : s.worker.drained = true

/-- What holds of a line connection and its history after any number of steps. -/
inductive Delivery (h : Handler σ) (state : σ) (id : Nat) (hook : Hook) (past : List Event)
    (s : Session σ) : Prop
  | fresh (readSize : Nat) (arrivals : List Arrival) : AtLines .line id hook past s → past = [] →
      s.worker = { mode := .line, readSize, state, arrivals } → Delivery h state id hook past s
  | serving (segments : List Bytes) : Serving h state id hook past segments s →
      Delivery h state id hook past s
  | tailed (segments : List Bytes) (tail : Bytes) : Tailed h state id hook past segments tail s →
      Delivery h state id hook past s
  | finished (cause : Option Ending) : AtLines .line id hook past s →
      s.worker.phase = .finished cause →
      Delivered h state id past → Delivery h state id hook past s
  | gone : s.worker.phase = .gone none → Delivered h state id past → Delivery h state id hook past s

/-! ### One step -/

/-- A message has been handled: it is the only one, nothing was read, and the handler goes on
or has ended the connection. -/
structure Handled (h : Handler σ) (data rest : Bytes) (s : Session σ)
    (t : Traced (Session σ)) : Prop where
  received : received t.events = []
  messages : messages t.events = [data]
  spent (id : Nat) (before : Bool) : spent id before t.events = false
  strain (n : Nat) : strain n t.events = n
  buffer : t.value.worker.buffer = rest
  drained : t.value.worker.drained = s.worker.drained
  faults : t.value.worker.faults = s.worker.faults
  state : t.value.worker.state = (h.message s.worker.state data).state
  phase : t.value.worker.phase = (h.message s.worker.state data).flow.phase

theorem handled (h : Handler σ) (ha : AtLines .line id hook past s) (hs : s.worker.phase = .serving)
    (data rest : Bytes) :
    AtLines .line id hook (past ++ (s.line h data rest).events) (s.line h data rest).value ∧
      Handled h data rest s (s.line h data rest) := by
  have hmoves := moves_line h ha.ready hs data rest
  have hready := (Desk.moves_transition Event.isWork s.desk .running rfl).ready ha.ready
  have hacts := Desk.moves_perform hready (h.message s.worker.state data).acts
  have hkept := Desk.kept_perform hready.unreleased (h.message s.worker.state data).acts
  have hquiet := hacts.quiet (fun _ => Event.isInput_of_isOutput) hready
  rw [line_line h ha.mode,
    dispatch_eq (s := ⟨{ s.worker with buffer := rest }, s.desk⟩) h ha.ready.unreleased
    hs] at hmoves ⊢
  refine ⟨ha.moves hmoves.desk rfl hkept.framed, ?_⟩
  constructor
  · have := received_of_quiet hquiet
    exact this
  · rw [← List.singleton_append, messages_append, messages_of_quiet hquiet]
    rfl
  · intro id before
    rw [← List.singleton_append, spent_append, spent_of_quiet hquiet]
    rfl
  · intro n
    have := strain_of_quiet hquiet (n := n)
    exact this
  all_goals rfl

/-- Handling the next message of a connection that has heard `heard`: the handler goes on, or
whatever else there is, this is the last message it is given. -/
theorem Handled.heard {data rest : Bytes} {t : Traced (Session σ)} (hh : Handled h data rest s t)
    {heard : List Bytes} (hheard : h.Heard state none heard s.worker.state) :
    (t.value.worker.phase = .serving ∧ h.Heard state none (heard ++ [data]) t.value.worker.state) ∨
      (∃ cause, t.value.worker.phase = .finished cause) ∧
        ∀ more, h.hears state none (heard ++ data :: more) = heard ++ [data] ∧
          h.leaves state none (heard ++ data :: more) = true := by
  rw [hh.phase, hh.state]
  cases hf : (h.message s.worker.state data).flow with
  | «continue» => exact .inl ⟨rfl, .message hheard hf⟩
  | abort reason log =>
    refine .inr ⟨⟨_, rfl⟩, fun more => ?_⟩
    rw [hheard.hears, hheard.leaves]
    simp [Handler.takes, Handler.ends, hf]

theorem delivery_line {segments : List Bytes} {data rest : Bytes}
    (hs : Serving h state id hook past segments s)
    (hnext : next? s.worker.buffer = some (data, rest)) :
    Delivery h state id hook (past ++ (s.line h data rest).events) (s.line h data rest).value := by
  obtain ⟨segment, hsegment, hbuffer, rfl⟩ := next?_eq_some_iff.1 hnext
  obtain ⟨hat, hh⟩ := handled h hs.toAtLines hs.phase (lineOf segment) rest
  have hall : ∀ t ∈ segments ++ [segment], IsSegment t :=
    List.forall_mem_append.2 ⟨hs.whole, by simpa using hsegment⟩
  have hread : received (past ++ (s.line h (lineOf segment) rest).events) =
      (segments ++ [segment]).flatten ++ rest := by
    rw [received_append, hs.received, hh.received, hbuffer]
    simp
  have hgiven : messages (past ++ (s.line h (lineOf segment) rest).events) =
      (segments ++ [segment]).map lineOf := by
    rw [messages_append, hs.messages, hh.messages]
    simp
  rcases hh.heard hs.heard with ⟨hphase, hgoes⟩ | ⟨⟨cause, hphase⟩, hlast⟩
  · refine .serving (segments ++ [segment]) ⟨hat, hphase, hall, ?_, hgiven, ?_, ?_, ?_⟩
    · rw [hread, hh.buffer]
    · simpa using hgoes
    · rw [spent_append, hh.spent, hh.drained, Bool.or_false, hs.spent]
    · rw [hh.drained, hh.faults, strain_append, hh.strain]
      exact hs.strain
  · obtain ⟨segments', tail, hrest⟩ := exists_segmented rest
    refine .finished cause hat hphase ⟨_, tail, .append _ hall hread hrest, ?_⟩
    obtain ⟨htakes, hleaves⟩ := hlast (segments'.map lineOf ++
      if spent id false (past ++ (s.line h (lineOf segment) rest).events) then lastLine
      tail else [])
    rw [hgiven]
    simp only [List.map_append, List.map_singleton, List.append_assoc, List.singleton_append]
    exact ⟨htakes.symm, .inl hleaves⟩

/-- At the end of the stream what is left in the buffer is the tail, handled as a last line. -/
theorem delivery_tail {segments : List Bytes} {data : Bytes}
    (hs : Serving h state id hook past segments s) (hnext : next? s.worker.buffer = none)
    (hdrained : s.worker.drained = true) (hrest : remainder s.worker.buffer = some data) :
    Delivery h state id hook (past ++ (s.line h data []).events) (s.line h data []).value := by
  obtain ⟨hat, hh⟩ := handled h hs.toAtLines hs.phase data []
  have htail : lastLine s.worker.buffer = [data] := by rw [← lastLine_of_remainder, hrest]; rfl
  have hread : Segmented (received (past ++ (s.line h data []).events)) segments
      s.worker.buffer := by
    rw [received_append, hh.received, List.append_nil]
    simpa using Segmented.append _ hs.whole hs.received (.tail (next?_eq_none_iff.1 hnext))
  have hgiven : messages (past ++ (s.line h data []).events) = segments.map lineOf ++
      lastLine s.worker.buffer := by
    rw [messages_append, hs.messages, hh.messages, htail]
  have hspent : spent id false (past ++ (s.line h data []).events) = true := by
    rw [spent_append, hs.spent, hdrained, Bool.true_or]
  rcases hh.heard hs.heard with ⟨hphase, hgoes⟩ | ⟨⟨cause, hphase⟩, hlast⟩
  · rw [← htail] at hgoes
    exact .tailed segments _ ⟨hat, hphase, hread, hgiven, hgoes, hspent, hh.buffer,
      hh.drained.trans hdrained⟩
  · obtain ⟨htakes, hleaves⟩ := hlast []
    refine .finished cause hat hphase ⟨segments, _, hread, ?_⟩
    rw [hgiven, hspent, if_pos rfl, htail]
    exact ⟨htakes.symm, .inl hleaves⟩

theorem delivery_end {segments : List Bytes} (hs : Serving h state id hook past segments s)
    (hnext : next? s.worker.buffer = none) (hdrained : s.worker.drained = true)
    (hrest : remainder s.worker.buffer = none) :
    Delivery h state id hook past (s.conclude none) := by
  have htail : lastLine s.worker.buffer = [] := by rw [← lastLine_of_remainder, hrest]; rfl
  have hcut := Segmented.append _ hs.whole hs.received (.tail (next?_eq_none_iff.1 hnext))
  rw [List.append_nil] at hcut
  rw [conclude_eq hs.phase]
  refine .finished none (hs.stays rfl rfl) rfl ⟨segments, s.worker.buffer, hcut, ?_⟩
  rw [hs.spent, hdrained, if_pos rfl, htail, List.append_nil, hs.messages]
  exact ⟨hs.heard.all, .inr (.inl rfl)⟩

theorem delivery_fill {segments : List Bytes} (hs : Serving h state id hook past segments s)
    (hnext : next? s.worker.buffer = none) (hdrained : s.worker.drained = false) :
    Delivery h state id hook (past ++ s.fill.events) s.fill.value := by
  obtain ⟨hfilled, hrefilled⟩ := filled hs.toAttending hs.phase hdrained
  obtain ⟨hborne, hfew⟩ := hs.strain hdrained
  have hat :=
    hs.moves (moves_fill hs.phase).desk hfilled.mode (congrArg (·.outlet.framed) hfilled.desk)
  have hread : received (past ++ s.fill.events) = segments.flatten ++
      s.fill.value.worker.buffer := by
    rw [received_append, hs.received, hfilled.buffer, List.append_assoc]
  have hgiven : messages (past ++ s.fill.events) = segments.map lineOf := by
    rw [messages_append, hs.messages, hfilled.messages, List.append_nil]
  have hspent : spent id false (past ++ s.fill.events) =
      spent id (asked id past) s.fill.events := by
    rw [spent_append, hs.spent, hdrained, Bool.false_or, Bool.false_or]
  have hstrain : strain 0 (past ++ s.fill.events) = strain s.worker.faults s.fill.events := by
    rw [strain_append, hborne]
  cases hrefilled with
  | serving hphase hends hcounts =>
    refine .serving segments ⟨hat, hphase, hs.whole, hread, hgiven, ?_, hspent.trans hends,
      fun hd => ?_⟩
    · rw [hfilled.state]
      exact hs.heard
    · rw [hstrain]
      exact hcounts hd hfew
  | exhausted fault hphase hnone hends hmore hmax =>
    refine .finished _ hat hphase ⟨segments, s.worker.buffer, ?_, ?_⟩
    · rw [received_append, hnone, List.append_nil]
      simpa using Segmented.append _ hs.whole hs.received (.tail (next?_eq_none_iff.1 hnext))
    · rw [hspent, hends, hgiven]
      simp only [Bool.false_eq_true, if_false, List.append_nil]
      refine ⟨hs.heard.all, .inr (.inr ?_)⟩
      rw [hstrain, hmore]
      omega
  | cut fault hframed =>
    rw [hs.unframed] at hframed
    cases hframed

theorem delivery_start {readSize : Nat} {arrivals : List Arrival} (thread : Nat)
    (ha : AtLines .line id hook past s) (hpast : past = [])
    (hworker : s.worker = { mode := .line, readSize, state, arrivals }) :
    Delivery h state id hook (past ++ (s.step h thread).events) (s.step h thread).value := by
  obtain ⟨worker, desk⟩ := s
  obtain rfl : worker = { mode := .line, readSize, state, arrivals } := hworker
  subst hpast
  have hmoves := (moves_step h thread ha.ready (.inl rfl)).desk
  let begun := desk.update desk.outlet { desk.link with thread }
  let r := h.connected state none
  let events :=
    [.log (.started desk.outlet.conn .line), .connected begun.id begun.link.status none] ++
    (begun.perform r.acts).events
  let after : Session σ :=
    ⟨{ mode := .line, readSize, state := r.state, arrivals, phase := r.flow.phase },
    (begun.perform r.acts).value.desk⟩
  have hstep : step h thread ⟨{ mode := .line, readSize, state, arrivals }, desk⟩ =
    ⟨after, events⟩ :=
    start_line h thread ha.ready.unreleased rfl
  have hready : begun.Ready :=
    (Desk.moves_update Event.isWork (.begin thread (.nil _))).ready ha.ready
  have hkept := Desk.kept_perform hready.unreleased r.acts
  have hquiet :=
    (Desk.moves_perform hready r.acts).quiet (fun _ => Event.isInput_of_isOutput) hready
  rw [hstep] at hmoves ⊢
  have hat := ha.moves (t := after) hmoves rfl hkept.framed
  have hread : received events = [] := by
    rw [received_append, received_of_quiet hquiet]
    rfl
  have hgiven : messages events = [] := by
    rw [messages_append, messages_of_quiet hquiet]
    rfl
  have hgoes : spent id false events = false := by
    rw [spent_append, spent_of_quiet hquiet]
    rfl
  have hnone : strain 0 events = 0 := by
    rw [strain_append, strain_of_quiet hquiet]
    rfl
  rw [List.nil_append] at hat ⊢
  have hphase : after.worker.phase = r.flow.phase := rfl
  cases hf : r.flow with
  | «continue» =>
    rw [hf] at hphase
    exact .serving []
      ⟨hat, hphase, by simp, hread, hgiven, .connected hf, hgoes,
      fun _ => ⟨hnone, (by decide : 0 < maxFaults)⟩⟩
  | abort reason log =>
    rw [hf] at hphase
    refine .finished _ hat hphase ⟨[], [], ?_, ?_⟩
    · rw [hread]
      exact .tail (next?_eq_none_iff.1 rfl)
    · rw [hgiven]
      simp [Handler.hears, Handler.leaves, show (h.connected state none).flow = _ from hf]

/-- **One step keeps what holds of a line connection.** -/
theorem delivery_step (thread : Nat) (hd : Delivery h state id hook past s)
    (hg : s.isGone = false) :
    Delivery h state id hook (past ++ (s.step h thread).events) (s.step h thread).value := by
  cases hd with
  | fresh readSize arrivals hat hpast hworker =>
    exact delivery_start thread hat hpast hworker
  | serving segments hs =>
    rw [step_lines h thread hs.phase hs.unframed, serveLines_eq]
    cases hnext : next? s.worker.buffer with
    | some found => exact delivery_line hs hnext
    | none =>
      cases hdrained : s.worker.drained with
      | false => exact delivery_fill hs hnext hdrained
      | true =>
        cases hrest : remainder s.worker.buffer with
        | some data => exact delivery_tail hs hnext hdrained hrest
        | none => simpa using delivery_end hs hnext hdrained hrest
  | tailed segments tail hs =>
    rw [step_spent h thread hs.phase hs.unframed hs.drained hs.buffer, conclude_eq hs.phase]
    rw [Traced.events_pure, List.append_nil]
    refine .finished none (hs.stays rfl rfl) rfl ⟨segments, tail, hs.received, ?_⟩
    rw [hs.spent, if_pos rfl, hs.messages]
    exact ⟨hs.heard.all, .inr (.inl rfl)⟩
  | finished cause hat hphase hdone =>
    have hend := step_finished h thread (hat.number ▸ hat.told) hphase
    rw [hend]
    refine .gone rfl (hdone.quiet ?_)
    exact List.forall_mem_cons.2 ⟨rfl, isInput_closing⟩
  | gone hgone =>
    rw [isGone, hgone] at hg
    cases hg

/-! ### Whole runs -/

/-- **The lines of a terminal reach the handler, all of them and in order**, whatever the reads
bring and whenever the connection is asked to shut down. -/
theorem lines_delivered (h : Handler σ) (thread : Nat) {hub : Hub} (hs : hub.Sound) {readSize : Nat}
    {state : σ} {t : Transport} {started : Int} {s : Session σ}
    (ha : accept? .line readSize state t { started } hub = some s) :
    (s.run h thread).value.worker.phase = .gone none ∧
      Delivered h state s.desk.id (s.run h thread).events := by
  have haccepted := accepted_of_accept? hs ha
  have hfresh : Delivery h state s.desk.id t.hook [] s :=
    .fresh readSize t.arrivals haccepted.atLines rfl haccepted.worker
  obtain ⟨hend, hgone⟩ := run_invariant h thread
    (fun past s hg hd => delivery_step thread hd hg) hfresh
  rw [List.nil_append] at hend
  cases hend with
  | fresh _ _ _ _ hw => simp [isGone, hw] at hgone
  | serving _ hs => simp [isGone, hs.phase] at hgone
  | tailed _ _ hs => simp [isGone, hs.phase] at hgone
  | finished _ _ hphase => simp [isGone, hphase] at hgone
  | gone hphase hdone => exact ⟨hphase, hdone⟩

/-- A shell whose client types a line in two parts and is asked to leave before its last line
has ended. -/
theorem lines_delivered_typed :
    let hub : Hub := { capacity := 1 }
    let h := Shell.handler { prompt := "> ", mode := .line }
    let arrivals : List Arrival :=
      [.data [0x68, 0x65], .data [0x79, 0x0D, 0x0A, 0x62], .shutdown, .fault (.plain .interrupted)]
    hub.Sound ∧ ∃ s, accept? .line 16 () { arrivals } { started := 0 } hub = some s ∧
      (s.run h 1).value.worker.phase = .gone none ∧
      Delivered h () s.desk.id (s.run h 1).events := by
  intro hub h arrivals
  have hs : hub.Sound := Hub.sound_empty 1
  exact ⟨hs, _, rfl, lines_delivered h 1 hs rfl⟩

end Session
end NetShell
