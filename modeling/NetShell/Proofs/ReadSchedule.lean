import NetShell.Proofs.Turns
import NetShell.Shell

/-! When the bytes of a client come in does not show.

A script of arrivals carries a stream of bytes when its chunks make up the stream, however
they are cut, and reads fail no more often in a row than a connection bears (`Carries`). Two
scripts that carry one stream are told apart by nothing that a handler is told or a client is
sent (`Session.seen_eq`).

The proof compares each of them with the connection that has the whole stream in its buffer
at once and reads nothing (`Worker.ahead`). While a connection takes lines or frames out of
its buffer the two do the same, for what stands at the front of a buffer stays whatever
follows; while it reads, the other one waits for it (`Session.ahead_step`). -/
namespace NetShell
open WebSocket Event Telnet

variable {σ : Type}

/-! ### Schedules -/

/-- A script of arrivals carries a stream to its end, and no request to shut down. Before the
next bytes come in, `budget` unexpected faults are borne; an interrupted read is none. -/
inductive Carries : (budget : Nat) → Bytes → List Arrival → Prop
  | done (budget : Nat) : Carries budget [] []
  | finish (budget : Nat) (rest : List Arrival) : Carries budget [] (.finish :: rest)
  | teardown {fault : Fault} (budget : Nat) (rest : List Arrival) : fault.isTeardown = true →
      Carries budget [] (.fault fault :: rest)
  | interrupted {budget : Nat} {stream : Bytes} {fault : Fault} {rest : List Arrival} :
      fault.isInterrupted = true → Carries budget stream rest →
      Carries budget stream (.fault fault :: rest)
  | fault {budget : Nat} {stream : Bytes} {fault : Fault} {rest : List Arrival} :
      fault.isInterrupted = false → fault.isTeardown = false → Carries budget stream rest →
      Carries (budget + 1) stream (.fault fault :: rest)
  | data {budget : Nat} {chunk stream : Bytes} {rest : List Arrival} : chunk ≠ [] →
      Carries (maxFaults - 1) stream rest → Carries budget (chunk ++ stream) (.data chunk :: rest)

/-- What one read of a script that carries a stream brings, and what stays for later reads. -/
inductive Brings : (budget : Nat) → Bytes → Except Fault Bytes → List Arrival → Prop
  | done (budget : Nat) (left : List Arrival) : Brings budget [] (.ok []) left
  | teardown {budget : Nat} {fault : Fault} {left : List Arrival} : fault.isInterrupted = false →
      fault.isTeardown = true → Brings budget [] (.error fault) left
  | interrupted {budget : Nat} {stream : Bytes} {fault : Fault} {left : List Arrival} :
      fault.isInterrupted = true → Carries budget stream left →
      Brings budget stream (.error fault) left
  | fault {budget : Nat} {stream : Bytes} {fault : Fault} {left : List Arrival} :
      fault.isInterrupted = false → fault.isTeardown = false → Carries budget stream left →
      Brings (budget + 1) stream (.error fault) left
  | data {budget : Nat} {data stream : Bytes} {left : List Arrival} : data ≠ [] →
      Carries (maxFaults - 1) stream left → Brings budget (data ++ stream) (.ok data) left

/-- A chunk for which a read has no room is taken in parts. -/
theorem await_carries {room budget : Nat} {stream : Bytes} {arrivals : List Arrival}
    (hroom : 0 < room) (hc : Carries budget stream arrivals) (l : Link) :
    ∃ outcome left, Inlet.await room arrivals l = pure ⟨outcome, left, l⟩ ∧
      Brings budget stream outcome left := by
  cases hc with
  | done => exact ⟨_, _, rfl, .done _ _⟩
  | finish => exact ⟨_, _, rfl, .done _ _⟩
  | @teardown fault _ _ ht =>
    have hi : fault.isInterrupted = false := by
      cases hi : fault.isInterrupted with
      | false => rfl
      | true => cases ht.symm.trans (Fault.isTeardown_of_isInterrupted hi)
    exact ⟨_, _, rfl, .teardown hi ht⟩
  | interrupted hi hrest => exact ⟨_, _, rfl, .interrupted hi hrest⟩
  | fault hi ht hrest => exact ⟨_, _, rfl, .fault hi ht hrest⟩
  | @data _ chunk stream rest hne hrest =>
    have htaken : chunk.take room ≠ [] := by
      rw [Ne, List.take_eq_nil_iff]
      rintro (h | h)
      · omega
      · exact hne h
    refine ⟨_, _, rfl, ?_⟩
    rw [← List.take_append_drop room chunk, List.append_assoc, List.take_append_drop]
    refine .data htaken ?_
    by_cases h : chunk.drop room = []
    · simpa [h] using hrest
    · simpa [h] using Carries.data h hrest

namespace Worker

/-- The worker when what is still to arrive has come in at once. -/
def ahead (w : Worker σ) (stream : Bytes) : Worker σ :=
  { w with readSize := 0, arrivals := [], buffer := w.buffer ++
    stream, drained := true, faults := 0 }

/-- What is still to arrive is a stream, and the worker bears what comes between. -/
def Awaits (w : Worker σ) (stream : Bytes) : Prop :=
  w.drained = true ∧ stream = [] ∨
    w.drained = false ∧ ∃ budget, Carries budget stream w.arrivals ∧ w.faults + budget < maxFaults

/-- It shows where the worker is. -/
theorem ahead_inj {w w' : Worker σ} {rest stream : Bytes} (h : w.ahead rest = w'.ahead stream) :
    w.mode = w'.mode ∧ w.phase = w'.phase := by
  have hmode : (w.ahead rest).mode = (w'.ahead stream).mode := by rw [h]
  have hphase : (w.ahead rest).phase = (w'.ahead stream).phase := by rw [h]
  exact ⟨hmode, hphase⟩

end Worker

namespace Session

variable {s : Session σ}

/-! ### Reads -/

/-- A read of a script that carries a stream takes the front of the stream, or ends it. -/
theorem fill_carries {budget : Nat} {stream : Bytes} (hr : s.desk.Ready)
    (hopen : s.desk.link.status.isClosing = false) (hd : s.worker.drained = false)
    (hc : Carries budget stream s.worker.arrivals) (hfew : s.worker.faults + budget < maxFaults) :
    seen s.fill.events = [] ∧ s.fill.value.desk = s.desk.transition .waiting ∧
      ((∃ rest, s.fill.value.worker.Awaits rest ∧ s.fill.value.worker.ahead rest =
        s.worker.ahead stream) ∨
        s.desk.outlet.framed = true ∧ stream = [] ∧ ∃ cause, s.fill.value.worker.phase =
          .finished cause) := by
  let d := s.desk.transition .waiting
  have hready : d.Ready := (Desk.moves_transition Event.isWork s.desk .waiting rfl).ready hr
  have hlink : d.update d.outlet d.link = d := Desk.update_link hready
  have hstatus : d.link.status = .waiting := by
    rw [Desk.link_transition hr, Link.transition, Status.moved, hopen]
    rfl
  have hroom : 0 < s.worker.room := Nat.lt_of_lt_of_le Nat.zero_lt_one (Nat.le_max_left ..)
  obtain ⟨outcome, left, hawait, hbrings⟩ := await_carries hroom hc d.link
  have hread : Inlet.read s.worker.room s.worker.arrivals d.link =
      ⟨⟨outcome, left, d.link⟩, [.read d.link.id d.link.status s.worker.room outcome]⟩ := by
    simp [Inlet.read, hawait, bind, pure, Traced.record]
  cases hbrings with
  | done =>
    have hfill : s.fill = ⟨⟨{ s.worker with arrivals := left, drained := true }, d⟩,
        [.read d.link.id d.link.status s.worker.room (.ok [])]⟩ := by
      simp [fill, hread, hlink, bind, pure, d]
    rw [hfill]
    exact ⟨rfl, rfl, .inl ⟨[], .inl ⟨rfl, rfl⟩, rfl⟩⟩
  | @teardown _ fault _ hi ht =>
    by_cases hf : (s.desk.transition .waiting).outlet.framed = true
    · have hfill : s.fill = ⟨⟨{ s.worker with
          arrivals := left, drained := true, phase := .finished (some (.teardown fault)) }, d⟩,
          [.read d.link.id d.link.status s.worker.room (.error fault)]⟩ := by
        simp [fill, hread, hlink, bind, pure, d, hi, ht, hf]
      rw [hfill]
      exact ⟨rfl, rfl, .inr ⟨hf, rfl, _, rfl⟩⟩
    · have hfill : s.fill = ⟨⟨{ s.worker with arrivals := left, drained := true }, d⟩,
          [.read d.link.id d.link.status s.worker.room (.error fault),
            .log (.readEnded d.outlet.conn fault)]⟩ := by
        simp [fill, hread, hlink, bind, pure, Traced.note, Traced.record, d, hi, ht, hf]
      rw [hfill]
      exact ⟨rfl, rfl, .inl ⟨[], .inl ⟨rfl, rfl⟩, rfl⟩⟩
  | @interrupted _ _ fault _ hi hrest =>
    have hfill : s.fill = ⟨⟨{ s.worker with arrivals := left }, d⟩,
        [.read d.link.id d.link.status s.worker.room (.error fault)]⟩ := by
      simp [fill, hread, hlink, bind, pure, d, hi]
    rw [hfill]
    exact ⟨rfl, rfl, .inl ⟨stream, .inr ⟨hd, budget, hrest, hfew⟩, rfl⟩⟩
  | @fault budget _ fault _ hi ht hrest =>
    have hborne : ¬ maxFaults ≤ s.worker.faults + 1 := by omega
    have hfill : s.fill = ⟨⟨{ s.worker with arrivals := left, faults := s.worker.faults + 1 }, d⟩,
        [.read d.link.id d.link.status s.worker.room (.error fault),
        .log (.readFailed d.outlet.conn fault)]⟩ := by
      simp [fill, hread, hlink, bind, pure, Traced.note, Traced.record, d,
        hi, ht, hstatus, Status.isClosing, hborne]
    rw [hfill]
    refine ⟨rfl, rfl, .inl ⟨stream, .inr ⟨hd, budget, hrest, ?_⟩, rfl⟩⟩
    show s.worker.faults + 1 + budget < maxFaults
    omega
  | @data _ data rest _ hne hrest =>
    have hfill : s.fill =
        ⟨⟨{ s.worker with arrivals := left, buffer := s.worker.buffer ++ data, faults := 0 }, d⟩,
          [.read d.link.id d.link.status s.worker.room (.ok data)]⟩ := by
      simp [fill, hread, hlink, bind, pure, d, hne]
    rw [hfill]
    refine ⟨rfl, rfl, .inl ⟨rest, .inr ⟨hd, _, hrest, ?_⟩, ?_⟩⟩
    · show 0 + (maxFaults - 1) < maxFaults
      decide
    · rw [Worker.ahead, List.append_assoc]
      rfl

/-! ### The connection that has it all -/

/-- The connection when what is still to arrive has come in at once, at a desk of its own. -/
def ahead (s : Session σ) (stream : Bytes) (d : Desk) : Session σ := ⟨s.worker.ahead stream, d⟩

/-- Where the connection that has it all is to be found: at a desk that waits until the upgrade,
which is the connection's own once there is a line to handle; after the upgrade at one that
may differ in the status. -/
inductive Shadowed (stream : Bytes) (s : Session σ) (d : Desk) : Prop
  | lines : s.worker.mode = .webSocket → s.desk.outlet.framed = false →
      (s.worker.phase = .fresh ∨ s.worker.phase = .serving) → s.worker.Awaits stream →
      d = s.desk.transition .waiting → (s.desk = d ∨ next? s.worker.buffer = none ∧
      s.worker.drained = false) →
      Shadowed stream s d
  | frames : s.desk.outlet.framed = true → s.worker.phase = .serving → s.worker.Awaits stream →
      s.desk.Alike d → d.Ready → Shadowed stream s d
  | finished (cause : Option Ending) : s.worker.phase = .finished cause → Shadowed stream s d

/-- The two do the same. -/
def Together (stream : Bytes) (t c : Traced (Session σ)) : Prop :=
  c = ⟨t.value.ahead stream c.value.desk, t.events⟩ ∧ Shadowed stream t.value c.value.desk

variable {h : Handler σ} {stream : Bytes} {d : Desk}

theorem together_changeOver (hr : s.desk.Ready) (hs : s.worker.phase = .serving)
    (hw : s.worker.Awaits stream) :
    Together stream (s.changeOver h) ((s.ahead stream s.desk).changeOver h) := by
  have hready := (moves_changeOver h hr hs).desk.ready hr
  have hcs := changeOver_eq (s := s.ahead stream s.desk) h hr.unreleased hs
  rw [changeOver_eq h hr.unreleased hs] at hready ⊢
  rw [hcs]
  simp only [ahead, Worker.ahead] at hready ⊢
  cases hflow : (h.connected s.worker.state (some s.worker.upgrade.request)).flow with
  | abort reason log =>
    exact ⟨rfl, .finished _ rfl⟩
  | «continue» =>
    simp only [hflow] at hready ⊢
    by_cases hu : s.worker.upgrade.request.upgrade = true
    · simp only [hu, if_true] at hready ⊢
      exact ⟨rfl, .frames rfl hs hw rfl hready⟩
    · simp only [hu, Bool.false_eq_true, if_false] at hready ⊢
      exact ⟨rfl, .finished _ rfl⟩

/-- A line of the request. -/
theorem together_line (hr : s.desk.Ready) (hs : s.worker.phase = .serving)
    (hm : s.worker.mode = .webSocket) (hf : s.desk.outlet.framed = false)
    (hw : s.worker.Awaits stream) (hd : s.desk = s.desk.transition .waiting) (line rest : Bytes) :
    Together stream (s.line h line rest)
      ((s.ahead stream s.desk).line h line (rest ++ stream)) := by
  let taken : Session σ := ⟨{ s.worker with buffer := rest }, s.desk⟩
  have hahead : (s.ahead stream s.desk).line h line (rest ++ stream) =
      (taken.ahead stream s.desk).request h line :=
    line_webSocket (s := s.ahead stream s.desk) h hm line (rest ++ stream)
  have hcs := request_eq (s := taken.ahead stream s.desk) h hr.unreleased hs line
  rw [line_webSocket h hm, hahead, request_eq (s := taken) h hr.unreleased hs, hcs]
  simp only [ahead, Worker.ahead]
  cases hfeed : (s.worker.upgrade.feed line).1 with
  | «continue» => exact ⟨rfl, .lines hm hf (.inr hs) hw hd (.inl rfl)⟩
  | headersDone =>
    exact together_changeOver
      (s := ⟨{ s.worker with buffer := rest, upgrade := (s.worker.upgrade.feed line).2 }, s.desk⟩)
      hr hs hw
  | reject cause => exact ⟨rfl, .finished _ rfl⟩

/-- A frame. -/
theorem together_frame {f : Frame} (hr : s.desk.Ready) (hs : s.worker.phase = .serving)
    (hf : s.desk.outlet.framed = true) (hw : s.worker.Awaits stream) (hd : s.desk.Alike d)
    (hready : d.Ready) (hopcode : f.opcode = .text ∨ f.opcode = .ping ∨ f.opcode = .pong)
    (rest : Bytes) :
    Together stream (s.frame h f rest) ((s.ahead stream d).frame h f (rest ++ stream)) := by
  obtain ⟨hevents, hstate, hending, hdesk⟩ :=
    Turn.deal_alike h s.worker.state hd hr hready (.frame f)
  have hcs := frame_deals (s := s.ahead stream d) h hready.unreleased hs hopcode (rest ++ stream)
  rw [frame_deals h hr.unreleased hs hopcode rest, hcs]
  have hframed := (Turn.framed_deal h s.worker.state hr.unreleased (.frame f)).trans hf
  have hleft := (Turn.moves_deal h s.worker.state hready (.frame f)).ready hready
  simp only [ahead, Worker.ahead] at hevents hstate hending hdesk hleft ⊢
  refine ⟨?_, ?_⟩
  · rw [← hevents, ← hstate, ← hending]
    rfl
  · cases he : (Turn.deal h s.worker.state s.desk (.frame f)).value.ending with
    | none => exact .frames hframed rfl hw hdesk hleft
    | some ending => exact .finished _ rfl

/-! ### The end -/

theorem seen_takeDown (s : Session σ) (misuse : Option Misuse) :
    seen (s.takeDown misuse).events = [] := by
  have hnote : ∀ failure, seen (Link.noteFailure failure).events = [] := by
    intro failure
    cases failure with
    | none => rfl
    | some fault =>
      simp only [Link.noteFailure]
      split <;> rfl
  have hdestroy : ∀ l : Link, seen l.destroy.events = [] := by
    intro l
    cases ht : l.torn with
    | true => rw [Link.destroy_torn ht]; rfl
    | false =>
      cases hh : l.hook with
      | none => simp [Link.destroy, Link.hangUp, ht, hh, bind, pure]
      | some hook =>
        have hfarewell : Link.farewell l.id .closed hook =
            ([.shutdown l.id .closed _] ++ (Link.noteFailure _).events) ++
              ([.close l.id .closed _] ++ (Link.noteFailure _).events) := rfl
        rw [Link.destroy_open ht hh, hfarewell]
        simp only [seen_append, hnote]
        rfl
  have hdown : (s.takeDown misuse).events = s.desk.link.destroy.events ++ [.log (.destroyed _ _)] :=
    rfl
  rw [hdown, seen_append, hdestroy]
  rfl

/-- Nothing is seen of a connection whose loop is over. -/
theorem seen_run_finished {cause : Option Ending} (thread : Nat)
    (hs : s.worker.phase = .finished cause) :
    seen (s.run h thread).events = [] := by
  have hstep : s.step h thread = ⟨(s.takeDown none).value, .log (.ended s.desk.outlet.conn cause) ::
      (s.takeDown none).events⟩ := by
    simp [step, hs, bind, Traced.note, Traced.record]
  have hgone : (s.takeDown none).value.isGone = true := rfl
  rw [run_step (by simp [isGone, hs]), hstep, run_gone hgone, ← List.singleton_append, seen_append,
    seen_append, seen_takeDown]
  rfl

/-! ### One step -/

theorem together_start (thread : Nat) (hr : s.desk.Ready) (hm : s.worker.mode = .webSocket)
    (hf : s.desk.outlet.framed = false) (hw : s.worker.Awaits stream)
    (hd : s.desk = s.desk.transition .waiting ∨ next? s.worker.buffer = none ∧
      s.worker.drained = false) :
    Together stream (s.start h thread)
      ((s.ahead stream (s.desk.transition .waiting)).start h thread) := by
  have hcs := start_webSocket (s := s.ahead stream (s.desk.transition .waiting)) h thread hm
  have hbegin := Desk.begin_transition hr .waiting thread
  rw [start_webSocket h thread hm, hcs]
  refine ⟨rfl, .lines hm hf (.inr rfl) hw hbegin ?_⟩
  rcases hd with hd | hd
  · left
    show s.desk.update _ _ = (s.desk.transition .waiting).update _ _
    rw [← hd]
    rfl
  · exact .inr hd

theorem together_conclude (hs : s.worker.phase = .serving) (cause : Option Ending) :
    Together stream (pure (s.conclude cause)) (pure ((s.ahead stream d).conclude cause)) := by
  have hcs := conclude_eq (s := s.ahead stream d) hs cause
  rw [conclude_eq hs, hcs]
  exact ⟨rfl, .finished _ rfl⟩

/-- The two do the same; or the connection reads, and the one that has it all waits for it; or
the read tells it that the client has gone, and the other one finds that its buffer ends. -/
inductive Abreast (stream : Bytes) (s : Session σ) (d : Desk) (t c : Traced (Session σ)) : Prop
  | together : Together stream t c → Abreast stream s d t c
  | read (rest : Bytes) : seen t.events = [] → t.value.ahead rest d = s.ahead stream d →
      Shadowed rest t.value d →
      Abreast stream s d t c
  | cut (cause cause' : Option Ending) : seen t.events = [] →
      t.value.worker.phase = .finished cause →
      c.events = [] → c.value.worker.phase = .finished cause' → Abreast stream s d t c

theorem ahead_lines (hr : s.desk.Ready) (hopen : s.desk.link.status.isClosing = false)
    (hs : s.worker.phase = .serving) (hm : s.worker.mode = .webSocket)
    (hf : s.desk.outlet.framed = false) (hw : s.worker.Awaits stream)
    (hd : s.desk = s.desk.transition .waiting ∨ next? s.worker.buffer = none ∧
      s.worker.drained = false) :
    Abreast stream s (s.desk.transition .waiting) (s.serveLines h)
      ((s.ahead stream (s.desk.transition .waiting)).serveLines h) := by
  have hcs := serveLines_eq h (s.ahead stream (s.desk.transition .waiting))
  rw [serveLines_eq, hcs]
  simp only [ahead, Worker.ahead]
  cases hnext : next? s.worker.buffer with
  | some found =>
    obtain ⟨line, rest⟩ := found
    have hhere : s.desk = s.desk.transition .waiting := by
      rcases hd with hd | ⟨hnone, -⟩
      · exact hd
      · cases hnone.symm.trans hnext
    have hmore := next?_append hnext stream
    simp only [hmore]
    rw [← hhere]
    exact .together (together_line hr hs hm hf hw hhere line rest)
  | none =>
    rcases hw with ⟨hdrained, rfl⟩ | ⟨hdrained, budget, hc, hfew⟩
    · have hhere : s.desk = s.desk.transition .waiting := by
        rcases hd with hd | ⟨-, hfalse⟩
        · exact hd
        · cases hfalse.symm.trans hdrained
      have hnone : next? (s.worker.buffer ++ []) = none := by rwa [List.append_nil]
      have hsame : remainder (s.worker.buffer ++ []) = remainder s.worker.buffer := by
        rw [List.append_nil]
      simp only [hnone, hsame, hdrained, if_true]
      cases remainder s.worker.buffer with
      | some data =>
        rw [← hhere]
        exact .together (together_line hr hs hm hf (.inl ⟨hdrained, rfl⟩) hhere data [])
      | none => exact .together (together_conclude hs none)
    · obtain ⟨hseen, hdesk, ⟨rest, hawaits, hahead⟩ | ⟨hframed, -⟩⟩ :=
        fill_carries hr hopen hdrained hc hfew
      · obtain ⟨hmode, hphase⟩ := Worker.ahead_inj hahead
        have hwaits : s.desk.transition .waiting = s.fill.value.desk.transition .waiting := by
          rw [hdesk, Desk.transition_transition hr _ rfl]
        simp only [hdrained, Bool.false_eq_true, if_false]
        refine .read rest hseen (congrArg (Session.mk · _) hahead) ?_
        exact .lines (hmode.trans hm) (hdesk ▸ hf) (.inr (hphase.trans hs)) hawaits hwaits
          (.inl hdesk)
      · rw [hf] at hframed
        cases hframed

theorem ahead_frames (hr : s.desk.Ready) (hopen : s.desk.link.status.isClosing = false)
    (hs : s.worker.phase = .serving) (hf : s.desk.outlet.framed = true)
    (hw : s.worker.Awaits stream) (hd : s.desk.Alike d) (hready : d.Ready) :
    Abreast stream s d (s.serveFrames h) ((s.ahead stream d).serveFrames h) := by
  have hcs := serveFrames_eq h (s.ahead stream d)
  rw [serveFrames_eq, hcs]
  simp only [ahead, Worker.ahead]
  cases hp : Frame.parse s.worker.buffer with
  | complete f size =>
    have hmore := Frame.parse_append hp (by simp) stream
    simp only [hmore, List.drop_append_of_le_length (Frame.size_of_parse hp).2]
    exact .together (together_frame hr hs hf hw hd hready (Frame.opcode_of_parse hp) _)
  | close =>
    have hmore := Frame.parse_append hp (by simp) stream
    simp only [hmore]
    exact .together (together_conclude hs _)
  | violation cause =>
    have hmore := Frame.parse_append hp (by simp) stream
    simp only [hmore]
    exact .together (together_conclude hs _)
  | incomplete =>
    rcases hw with ⟨hdrained, rfl⟩ | ⟨hdrained, budget, hc, hfew⟩
    · have hnone : Frame.parse (s.worker.buffer ++ []) = .incomplete := by rwa [List.append_nil]
      simp only [hnone, hdrained, if_true]
      exact .together (together_conclude hs none)
    · simp only [hdrained, Bool.false_eq_true, if_false]
      obtain ⟨hseen, hdesk, ⟨rest, hawaits, hahead⟩ | ⟨-, rfl, cause, hcut⟩⟩ :=
        fill_carries hr hopen hdrained hc hfew
      · obtain ⟨-, hphase⟩ := Worker.ahead_inj hahead
        have halike : s.fill.value.desk.Alike d := by
          rw [hdesk]
          exact (Desk.alike_waiting hr).trans hd
        refine .read rest hseen (congrArg (Session.mk · _) hahead) ?_
        exact .frames (hdesk ▸ hf) (hphase.trans hs) hawaits halike hready
      · have hnone : Frame.parse (s.worker.buffer ++ []) = .incomplete := by rwa [List.append_nil]
        have hcs := conclude_eq (s := s.ahead [] d) hs none
        simp only [ahead, Worker.ahead] at hcs
        simp only [hnone, if_true, hcs]
        exact .cut cause none hseen hcut rfl rfl

/-- **One step.** -/
theorem ahead_step (thread : Nat) (hr : s.desk.Ready) (hopen : s.desk.link.status.isClosing = false)
    (hd : Shadowed stream s d) (hphase : s.worker.phase = .fresh ∨ s.worker.phase = .serving) :
    Abreast stream s d (s.step h thread) ((s.ahead stream d).step h thread) := by
  cases hd with
  | lines hm hf _ hw hd hfirst =>
    subst hd
    rcases hphase with hphase | hphase
    · have hcs := step_fresh (s := s.ahead stream (s.desk.transition .waiting)) h thread hphase
      rw [step_fresh h thread hphase, hcs]
      exact .together (together_start thread hr hm hf hw hfirst)
    · have hcs := step_lines (s := s.ahead stream (s.desk.transition .waiting)) h thread hphase hf
      rw [step_lines h thread hphase hf, hcs]
      exact ahead_lines hr hopen hphase hm hf hw hfirst
  | frames hf hs hw hd hready =>
    have hcs := step_frames (s := s.ahead stream d) h thread hs (hd.outlet ▸ hf)
    rw [step_frames h thread hs hf, hcs]
    exact ahead_frames hr hopen hs hf hw hd hready
  | finished cause hs =>
    rw [hs] at hphase
    rcases hphase with hphase | hphase <;> cases hphase

/-! ### Whole runs -/

/-- What is seen of a connection is what is seen of the one that has it all. -/
theorem seen_run (thread : Nat) {id : Nat} {hook : Hook} {past : List Event}
    (ha : Attending id hook past s) (hopen : asked id past = false) (hd : Shadowed stream s d)
    (hquiet : asked id (s.run h thread).events = false ∨
      asked id ((s.ahead stream d).run h thread).events = false) :
    seen (s.run h thread).events = seen ((s.ahead stream d).run h thread).events := by
  induction hw : s.worker.work using Nat.strongRecOn generalizing past s d stream with
  | _ work ih =>
    have hstatus : s.desk.link.status.isClosing = false := ha.told.isClosing.trans hopen
    by_cases hfinished : ∃ cause, s.worker.phase = .finished cause
    · obtain ⟨cause, hs⟩ := hfinished
      have hother := seen_run_finished (h := h) (s := s.ahead stream d) thread hs
      rw [seen_run_finished thread hs, hother]
    · have hphase : s.worker.phase = .fresh ∨ s.worker.phase = .serving := by
        cases hd with
        | lines _ _ hphase => exact hphase
        | frames _ hphase => exact .inr hphase
        | finished cause hphase => exact absurd ⟨cause, hphase⟩ hfinished
      have hg : s.isGone = false := by
        rcases hphase with hphase | hphase <;> simp [isGone, hphase]
      have hg' : (s.ahead stream d).isGone = false := hg
      have hmoves := ha.moves (moves_step h thread ha.ready hphase).desk
      have hlt := hw ▸ work_step h thread s hg
      have hstep := ahead_step (h := h) thread ha.ready hstatus hd hphase
      rw [run_step hg, seen_append]
      cases hstep with
      | together htogether =>
        obtain ⟨hc, hd'⟩ := htogether
        rw [run_step hg, run_step hg', unasked_append, unasked_append, hc] at hquiet
        have hown : asked id (s.step h thread).events = false := hquiet.elim And.left And.left
        have hlater := hquiet.imp And.right And.right
        have hopen' : asked id (past ++ (s.step h thread).events) = false :=
          unasked_append.2 ⟨hopen, hown⟩
        rw [run_step hg', hc, seen_append, ih _ hlt hmoves hopen' hd' hlater rfl]
      | read rest hseen hahead hd' =>
        have hown : asked id (s.step h thread).events = false := by
          rw [← asked_seen, hseen]
          rfl
        have hopen' : asked id (past ++ (s.step h thread).events) = false :=
          unasked_append.2 ⟨hopen, hown⟩
        rw [run_step hg, asked_append, hown, Bool.false_or, ← hahead] at hquiet
        rw [hseen, List.nil_append, ← hahead]
        exact ih _ hlt hmoves hopen' hd' hquiet rfl
      | cut cause cause' hseen hs hc hs' =>
        rw [hseen, seen_run_finished thread hs, run_step hg', seen_append, hc,
          seen_run_finished thread hs']
        rfl

theorem shadowed_of_accepted {readSize : Nat} {state : σ} {t : Transport}
    (ha : Accepted .webSocket readSize state t s) (hc : Carries (maxFaults - 1) stream t.arrivals) :
    Shadowed stream s (s.desk.transition .waiting) := by
  obtain ⟨worker, desk⟩ := s
  obtain rfl : worker = { mode := .webSocket, readSize, state, arrivals := t.arrivals } := ha.worker
  refine .lines rfl ha.unframed (.inl rfl) (.inr ⟨rfl, _, hc, ?_⟩) rfl (.inr ⟨rfl, rfl⟩)
  show 0 + (maxFaults - 1) < maxFaults
  decide

/-- **Read schedules do not show.** Of two connections whose clients send the same stream,
however their bytes come in and are read, the handlers are told the same and the clients are
sent the same, unless someone asks for a connection's end. -/
theorem seen_eq (h : Handler σ) (thread : Nat) {hub : Hub} (hs : hub.Sound) {state : σ}
    {t : Transport} {started : Int} {stream : Bytes} {r₁ r₂ : Nat} {a₁ a₂ : List Arrival}
    (hc₁ : Carries (maxFaults - 1) stream a₁) (hc₂ : Carries (maxFaults - 1) stream a₂)
    {s₁ s₂ : Session σ}
    (ha₁ : accept? .webSocket r₁ state { t with arrivals := a₁ } { started } hub = some s₁)
    (ha₂ : accept? .webSocket r₂ state { t with arrivals := a₂ } { started } hub = some s₂)
    (hquiet : asked s₁.desk.id (s₁.run h thread).events = false) :
    seen (s₁.run h thread).events = seen (s₂.run h thread).events := by
  have haccepted₁ := accepted_of_accept? hs ha₁
  have haccepted₂ := accepted_of_accept? hs ha₂
  let c₁ := s₁.ahead stream (s₁.desk.transition .waiting)
  let c₂ := s₂.ahead stream (s₂.desk.transition .waiting)
  have hdesk : s₁.desk = s₂.desk := by
    obtain ⟨joined₁, hjoined₁, rfl⟩ := Option.map_eq_some_iff.1 ha₁
    obtain ⟨joined₂, hjoined₂, rfl⟩ := Option.map_eq_some_iff.1 ha₂
    cases hjoined₁.symm.trans hjoined₂
    rfl
  have hsame : c₁ = c₂ := by
    show Session.mk _ _ = Session.mk _ _
    rw [haccepted₁.worker, haccepted₂.worker, hdesk]
    rfl
  have hfirst : seen (s₁.run h thread).events = seen (c₁.run h thread).events :=
    seen_run thread haccepted₁.attending rfl (shadowed_of_accepted haccepted₁ hc₁) (.inl hquiet)
  have hquiet₂ : asked s₂.desk.id (c₂.run h thread).events = false := by
    rw [← asked_seen, ← hsame, ← hfirst, asked_seen, ← hdesk]
    exact hquiet
  calc seen (s₁.run h thread).events
      = seen (c₁.run h thread).events := hfirst
    _ = seen (c₂.run h thread).events := by rw [hsame]
    _ = seen (s₂.run h thread).events :=
        (seen_run thread haccepted₂.attending rfl (shadowed_of_accepted haccepted₂ hc₂)
          (.inr hquiet₂)).symm

/-- A request and a ping that come in at once, and in two parts with failing reads between. -/
theorem seen_eq_piecemeal :
    let hub : Hub := { capacity := 1 }
    let h := Shell.handler { prompt := "> ", mode := .webSocket }
    let request := Bytes.ofText "GET /\nUpgrade: websocket\n\n"
    let ping : Bytes := [0x89, 0x80, 0, 0, 0, 0]
    let whole : List Arrival := [.data (request ++ ping), .finish]
    let parts : List Arrival :=
      [.data request, .fault (.plain .interrupted), .fault (.plain .timedOut), .data ping,
        .fault (.plain .connectionReset)]
    hub.Sound ∧ Carries (maxFaults - 1) (request ++ ping) whole ∧
      Carries (maxFaults - 1) (request ++ ping) parts ∧
      ∃ s₁ s₂, accept? .webSocket 4096 () { arrivals := whole } { started := 0 } hub = some s₁ ∧
        accept? .webSocket 3 () { arrivals := parts } { started := 0 } hub = some s₂ ∧
        asked s₁.desk.id (s₁.run h 1).events = false ∧
        seen (s₁.run h 1).events = seen (s₂.run h 1).events := by
  intro hub h request ping whole parts
  have hs : hub.Sound := Hub.sound_empty 1
  have hwhole : Carries (maxFaults - 1) (request ++ ping) whole := by
    rw [← List.append_nil (request ++ ping)]
    exact .data (by decide) (.finish _ _)
  have hend : Carries (maxFaults - 1) [] [.fault (.plain .connectionReset)] :=
    .teardown _ _ (by decide)
  have hping : Carries (maxFaults - 2) (ping ++ [])
      [.data ping, .fault (.plain .connectionReset)] :=
    .data (by decide) hend
  have hparts : Carries (maxFaults - 1) (request ++ ping) parts :=
    .data (by decide) (.interrupted (by decide) (.fault (by decide) (by decide) hping))
  have hquiet : ∀ s, accept? .webSocket 4096 () { arrivals := whole } { started := 0 } hub =
    some s →
      asked s.desk.id (s.run h 1).events = false := by
    intro s ha
    cases ha
    rw [run_eq_steps 10]
    · decide +kernel
    · decide +kernel
  exact ⟨hs, hwhole, hparts, _, _, rfl, rfl, hquiet _ rfl,
    seen_eq h 1 hs (t := {}) hwhole hparts rfl rfl (hquiet _ rfl)⟩

end Session
end NetShell
