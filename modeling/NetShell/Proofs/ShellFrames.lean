import Mathlib.Data.List.TakeWhile
import NetShell.Proofs.Approach
import NetShell.Proofs.FramedPhase

/-! What the shell sends after the upgrade.

A WebSocket client has upgraded its connection to the shell, over a transport that takes
what it is offered. All that it receives from then on is one unit after another, and a unit
is a whole server frame, a text or a pong, or else a single newline that no frame carries.
There is a newline among them just if a text frame has interrupted the shell, as a telnet
client does on ctrl-C (`Session.shell_units`). -/
namespace NetShell
open WebSocket Event

variable {σ : Type}

/-! ### Links of a fair transport -/

/-- The transport is open just while nobody has asked for its end. -/
def Link.Fair (l : Link) : Prop :=
  l.status.isClosing = false ∧ l.torn = false ∧ l.isOpen = true ∨
    l.status = .closing ∧ l.torn = true ∧ l.isOpen = false

namespace Link

variable {l : Link}

theorem fair_shutdown (l : Link) (h : l.Fair) : l.shutdown.value.Fair := by
  rcases h with ⟨hstatus, htorn, hopen⟩ | ⟨hstatus, htorn, hopen⟩
  · have hclaimed : l.status.claimed = .closing := by
      cases hs : l.status <;> first | rfl | simp [hs, Status.isClosing] at hstatus
    cases hh : l.hook with
    | none => simp [isOpen, hh] at hopen
    | some hook =>
      rw [shutdown_open htorn hh]
      exact .inr ⟨hclaimed, rfl, rfl⟩
  · rw [shutdown_torn htorn]
    refine .inr ⟨?_, htorn, hopen⟩
    show l.status.claimed = .closing
    rw [hstatus]
    rfl

theorem fair_transition (l : Link) (next : Status) (hn : next.isClosing = false) (h : l.Fair) :
    (l.transition next).Fair := by
  rcases h with ⟨hstatus, htorn, hopen⟩ | ⟨hstatus, htorn, hopen⟩
  · exact .inl ⟨by simp [transition, Status.moved, hstatus, hn], htorn, hopen⟩
  · exact .inr ⟨by simp [transition, Status.moved, hstatus, Status.isClosing], htorn, hopen⟩

/-- The transport is open just while the status is not claimed. -/
theorem Fair.isOpen (h : l.Fair) : l.isOpen = !l.status.isClosing := by
  rcases h with ⟨hstatus, -, hopen⟩ | ⟨hstatus, -, hopen⟩
  · rw [hopen, hstatus]
    rfl
  · rw [hopen, hstatus]
    rfl

end Link

/-! ### Server frames -/

/-- A whole server frame: final, not masked, a text or a pong. -/
def IsServerFrame (s : Bytes) : Prop :=
  ∃ first payload, (first = 0x81 ∨ first = 0x8A) ∧
    s = first :: lengthField payload.length ++ payload

/-- Whole server frames, one after another. -/
def IsFramed (s : Bytes) : Prop :=
  ∃ frames : List Bytes, s = frames.flatten ∧ ∀ f ∈ frames, IsServerFrame f

theorem isFramed_nil : IsFramed [] := ⟨[], rfl, by simp⟩

theorem IsServerFrame.isFramed {s : Bytes} (h : IsServerFrame s) : IsFramed s :=
  ⟨[s], by simp, by simpa using h⟩

theorem IsFramed.append {s t : Bytes} (hs : IsFramed s) (ht : IsFramed t) : IsFramed (s ++ t) := by
  obtain ⟨a, rfl, ha⟩ := hs
  obtain ⟨b, rfl, hb⟩ := ht
  exact ⟨a ++ b, by simp, List.forall_mem_append.2 ⟨ha, hb⟩⟩

/-- A newline by itself is no frame. -/
theorem not_isFramed_newline : ¬ IsFramed [Telnet.newline] := by
  rintro ⟨frames, heq, hall⟩
  cases frames with
  | nil => cases heq
  | cons f rest =>
    obtain ⟨first, payload, hfirst | hfirst, hf⟩ := hall f (List.mem_cons_self ..)
    all_goals
      subst hfirst
      rw [List.flatten_cons, hf] at heq
      exact absurd (List.cons.inj heq).1 (by decide)

theorem not_isServerFrame_newline : ¬ IsServerFrame [Telnet.newline] :=
  fun h => not_isFramed_newline h.isFramed

theorem isServerFrame_text (payload : Bytes) :
    IsServerFrame [Frame.header (UInt8.ofNat Opcode.text.code) payload.length, payload].flatten :=
  ⟨0x81, payload, .inl rfl, by rw [header_eq]; simp; rfl⟩

theorem isServerFrame_pong (payload : Bytes) : IsServerFrame (pongParts payload).flatten :=
  ⟨0x8A, payload, .inr rfl, by simp [pongParts]⟩

/-! ### What acts send -/

/-- The bytes are sent as they are, in no frame. -/
def Act.isRaw : Act → Bool
  | .send _ => true
  | _ => false

namespace Desk

variable {d d' : Desk}

/-- An upgraded connection's desk, over a willing transport that is open until someone asks
for its end. -/
structure Standing (d : Desk) : Prop where
  ready : d.Ready
  willing : d.Willing
  framed : d.outlet.framed = true
  fair : d.link.Fair

theorem fair_of_moves {Own : Event → Bool} {events : List Event} (hr : d.Ready)
    (hm : Moves Own d events d') (hf : d.link.Fair) : d'.link.Fair := by
  have :=
    hm.course.keeps Link.fair_shutdown Link.fair_transition (fun _ _ hl => hl) hr.sound hr.known hf
  rwa [link, hm.id]

theorem Standing.moves {Own : Event → Bool} {events : List Event} (hs : d.Standing)
    (hm : Moves Own d events d') (ho : d'.outlet = d.outlet) : d'.Standing :=
  ⟨hm.ready hs.ready, by rw [Willing, ho]; exact hs.willing, by rw [ho]; exact hs.framed,
    fair_of_moves hs.ready hm hs.fair⟩

theorem standing_transmit (hs : d.Standing) (parts : List Bytes) (data : Bytes) :
    let t := d.transmit (Outlet.transmit parts data)
    accepted t.events = (if d.link.isOpen then parts.flatten else []) ∧ t.value.desk.Standing := by
  obtain ⟨htaken, hwilling, hlink⟩ := transmit_willing hs.ready hs.willing parts data
  have hkept := kept_transmit hs.ready.unreleased parts data
  exact ⟨htaken, (moves_transmit hs.ready parts data).ready hs.ready, hwilling,
    hkept.framed.trans hs.framed, hlink ▸ hs.fair⟩

/-- A message that is one frame is taken as one, or not at all. -/
theorem framed_transmit (hs : d.Standing) {parts : List Bytes} (hp : IsServerFrame parts.flatten)
    (data : Bytes) :
    let t := d.transmit (Outlet.transmit parts data)
    IsFramed (accepted t.events) ∧ t.value.desk.Standing := by
  obtain ⟨htaken, hstanding⟩ := standing_transmit hs parts data
  refine ⟨?_, hstanding⟩
  rw [htaken]
  split
  · exact hp.isFramed
  · exact isFramed_nil

/-- Stopping the server sends nothing. -/
theorem accepted_stop {hub : Hub} (hs : hub.Sound) : accepted hub.stop.events = [] := by
  refine accepted_of_isIdle fun e he => ?_
  rcases Hub.stop_cases hs e he with hfarewell | ⟨n, rfl⟩
  · exact isIdle_of_isFarewell hfarewell
  · rfl

/-- What a handler asks for is sent in frames, unless it is to be sent raw. -/
theorem framed_act (hs : d.Standing) {a : Act} (ha : a.isRaw = false) :
    IsFramed (accepted (d.act a).events) ∧ (d.act a).value.desk.Standing := by
  have hreply : ∀ data, d.transmit (Outlet.reply data) = d.transmit (Outlet.sendFrame data) :=
    fun data => by
    simp only [transmit, Outlet.reply, hs.framed, if_true]
  have hmoves := moves_act hs.ready a
  cases a with
  | send => cases ha
  | reply data =>
    simp only [act, hreply]
    exact framed_transmit hs (isServerFrame_text data) data
  | frame data => exact framed_transmit hs (isServerFrame_text data) data
  | pong data =>
    simp only [act, sendPong_eq]
    exact framed_transmit hs (isServerFrame_pong data) data
  | report =>
    simp only [act, hreply]
    exact framed_transmit hs (isServerFrame_text _) _
  | shutdown =>
    refine ⟨?_, hs.moves hmoves rfl⟩
    have hquiet := (Hub.course_shutdown (fun _ => false) d.hub d.id hs.ready.known).each
      (P := fun e => e.isIdle = true) (by simp) (fun _ => isIdle_of_isFarewell) hs.ready.sound
      hs.ready.known
    simp only [act, Traced.events_bind, Traced.events_pure, List.append_nil]
    rw [accepted_of_isIdle hquiet]
    exact isFramed_nil
  | stop =>
    refine ⟨?_, hs.moves hmoves rfl⟩
    simp only [act, Traced.events_bind, Traced.events_pure, List.append_nil]
    rw [accepted_stop hs.ready.sound]
    exact isFramed_nil

theorem perform_one (hr : d.outlet.released = false) (a : Act) : d.perform [a] = d.act a := by
  have hmisuse := (kept_act hr a).misuse
  simp only [perform, bind, hmisuse, Traced.value_pure, Traced.events_pure, List.append_nil]
  rw [← hmisuse]

theorem framed_perform (hs : d.Standing) {acts : List Act} (ha : ∀ a ∈ acts, a.isRaw = false) :
    IsFramed (accepted (d.perform acts).events) ∧ (d.perform acts).value.desk.Standing := by
  induction acts generalizing d with
  | nil => exact ⟨isFramed_nil, hs⟩
  | cons a rest ih =>
    obtain ⟨hfirst, hstanding⟩ := framed_act hs (ha a (List.mem_cons_self ..))
    obtain ⟨hrest, hlast⟩ := ih hstanding fun a' ha' => ha a' (List.mem_cons_of_mem _ ha')
    rw [perform_cons hs.ready.unreleased]
    exact ⟨by rw [accepted_append]; exact hfirst.append hrest, hlast⟩

end Desk

/-! ### What the shell asks for -/

namespace Shell

/-- A message that interrupts what the client was typing: the first telnet command in it is the
interrupt, and it holds no end of transmission. -/
def Interrupts (data : Bytes) : Prop :=
  Telnet.eot ∉ data ∧
    ∃ front rest, data = front ++ Telnet.iac :: Telnet.interrupt :: rest ∧ Telnet.iac ∉ front

/-- Only what comes right after the first IAC is looked at. -/
theorem interrupted_append {front : Bytes} (hfirst : Telnet.iac ∉ front) (rest : Bytes) :
    interrupted (front ++ Telnet.iac :: rest) = (rest.head? == some Telnet.interrupt) := by
  have hpassed : ∀ b ∈ front, (b != Telnet.iac) = true := fun b hb =>
    bne_iff_ne.2 fun heq => hfirst (heq ▸ hb)
  rw [interrupted, List.dropWhile_append_of_pos hpassed]
  simp

theorem interrupted_iff (data : Bytes) : interrupted data = true ↔
    ∃ front rest, data = front ++ Telnet.iac :: Telnet.interrupt :: rest ∧ Telnet.iac ∉ front := by
  constructor
  · intro h
    by_cases hiac : Telnet.iac ∈ data
    · obtain ⟨front, rest, rfl, hfirst⟩ := List.eq_append_cons_of_mem hiac
      rw [interrupted_append hfirst, beq_iff_eq, List.head?_eq_some_iff] at h
      obtain ⟨rest, rfl⟩ := h
      exact ⟨front, rest, rfl, hfirst⟩
    · have hpassed : ∀ b ∈ data, (b != Telnet.iac) = true := fun b hb =>
        bne_iff_ne.2 fun heq => hiac (heq ▸ hb)
      rw [interrupted, List.dropWhile_eq_nil_iff.2 hpassed] at h
      cases h
  · rintro ⟨front, rest, rfl, hfirst⟩
    rw [interrupted_append hfirst, List.head?_cons, beq_self_eq_true]

/-- **For an interrupt the shell asks for a raw newline**, and else for nothing that is raw. -/
theorem acts_message (prompt : String) (data : Bytes) :
    let r := (handler ⟨prompt, .webSocket⟩).message () data
    (Interrupts data → r.acts = [.send [Telnet.newline]]) ∧
      (¬ Interrupts data → ∀ a ∈ r.acts, a.isRaw = false) := by
  have hnewline : Bytes.ofText "\n" = [Telnet.newline] := by decide
  intro r
  by_cases heot : Telnet.eot ∈ data
  · have hr : r.acts = [] := by simp [r, handler, message, heot]
    exact ⟨fun hi => absurd heot hi.1, fun _ => by simp [hr]⟩
  · by_cases hiac : Telnet.iac ∈ data
    · have hr : r.acts = if interrupted data then [.send [Telnet.newline]] else [] := by
        simp [r, handler, message, heot, hiac, hnewline, prompting]
      rw [hr]
      refine ⟨fun hi => if_pos ((interrupted_iff data).2 hi.2), fun hi => ?_⟩
      have hnot : ¬ interrupted data = true := fun h => hi ⟨heot, (interrupted_iff data).1 h⟩
      simp [hnot]
    · have hr : r = command ⟨prompt, .webSocket⟩ (Text.trim (Text.lossy data)) := by
        simp [r, handler, message, heot, hiac]
      refine ⟨fun ⟨_, front, rest, heq, _⟩ => absurd (by simp [heq]) hiac, fun _ => ?_⟩
      rw [hr]
      unfold command
      split_ifs <;> simp [prompting, Act.isRaw]

end Shell

/-! ### What the shell sends -/

namespace Shell

instance : DecidablePred Interrupts := fun data =>
  decidable_of_iff (Telnet.eot ∉ data ∧ interrupted data = true)
    (and_congr_right' (interrupted_iff data))

/-- A message that interrupts, given to the shell before anyone has asked for the connection's
end. -/
def interruption? : Event → Option Bytes
  | .message _ .running data => if Interrupts data then some data else none
  | _ => none

def interruptions (events : List Event) : List Bytes := events.filterMap interruption?

@[simp] theorem interruptions_append (a b : List Event) :
    interruptions (a ++ b) = interruptions a ++ interruptions b :=
  List.filterMap_append

theorem interruptions_of_quiet {events : List Event} (h : ∀ e ∈ events, e.isInput = false) :
    interruptions events = [] := by
  rw [interruptions, List.filterMap_eq_nil_iff]
  intro e he
  have := h e he
  cases e with
  | message => cases this
  | _ => rfl

/-- A message among others that are none interrupts, or not. -/
theorem interruptions_message {events : List Event} (hquiet : ∀ e ∈ events, e.isInput = false)
    (link : Nat) (status : Status) (data : Bytes) :
    interruptions (.message link status data :: events) =
      if status = .running ∧ Interrupts data then [data] else [] := by
  rw [← List.singleton_append, interruptions_append, interruptions_of_quiet hquiet, List.append_nil]
  cases status <;> by_cases hi : Interrupts data <;> simp [interruptions, interruption?, hi]

theorem interruptions_deeds (events : List Event) :
    interruptions (deeds events) = interruptions events := by
  refine filterMap_deeds (fun e he => ?_) events
  cases e with
  | message => cases he
  | _ => rfl

/-- What is sent is one unit after another, each a newline or a whole server frame; the newlines
are as many as the messages that interrupt. -/
def Spoken (events : List Event) : Prop :=
  ∃ units : List Bytes, accepted events = units.flatten ∧
    (∀ unit ∈ units, unit = [Telnet.newline] ∨ IsServerFrame unit) ∧
    units.count [Telnet.newline] = (interruptions events).length

theorem Spoken.append {a b : List Event} (ha : Spoken a) (hb : Spoken b) : Spoken (a ++ b) := by
  obtain ⟨units, hunits, hall, hcount⟩ := ha
  obtain ⟨units', hunits', hall', hcount'⟩ := hb
  refine ⟨units ++ units', ?_, List.forall_mem_append.2 ⟨hall, hall'⟩, ?_⟩
  · rw [accepted_append, hunits, hunits', List.flatten_append]
  · rw [List.count_append, interruptions_append, List.length_append, hcount, hcount']

/-- Whole server frames, and nothing that interrupts. -/
theorem spoken_of_framed {events : List Event} (hframed : IsFramed (accepted events))
    (hnone : interruptions events = []) : Spoken events := by
  obtain ⟨frames, hframes, hall⟩ := hframed
  refine ⟨frames, hframes, fun f hf => .inr (hall f hf), ?_⟩
  rw [hnone, List.length_nil, List.count_eq_zero]
  exact fun hmem => not_isServerFrame_newline (hall _ hmem)

theorem spoken_of_idle {events : List Event} (hi : ∀ e ∈ events, e.isIdle = true) :
    Spoken events := by
  refine spoken_of_framed (by rw [accepted_of_isIdle hi]; exact isFramed_nil) ?_
  rw [interruptions, List.filterMap_eq_nil_iff]
  intro e he
  have := hi e he
  cases e with
  | message => cases this
  | _ => rfl

/-- As long as nothing interrupts, all that is sent is whole server frames. -/
theorem Spoken.framed {events : List Event} (hs : Spoken events)
    (hnone : interruptions events = []) :
    IsFramed (accepted events) := by
  obtain ⟨units, hunits, hall, hcount⟩ := hs
  rw [hnone, List.length_nil, List.count_eq_zero] at hcount
  refine ⟨units, hunits, fun unit hmem => (hall unit hmem).resolve_left ?_⟩
  rintro rfl
  exact hcount hmem

variable (prompt : String) {d : Desk}

/-- An interrupt is answered by a newline, and if someone has asked for the end, by nothing. -/
theorem spoken_interrupt (hs : d.Standing) {data : Bytes} (hi : Interrupts data) :
    let d' := d.transition .running
    let w := d'.transmit (Outlet.send [Telnet.newline])
    Spoken (.message d'.id d'.link.status data :: w.events) ∧ w.value.desk.Standing := by
  intro d' w
  have hrun : d'.Standing := hs.moves (Desk.moves_transition isWork d .running rfl) rfl
  obtain ⟨htaken, hstanding⟩ := Desk.standing_transmit hrun [[Telnet.newline]] [Telnet.newline]
  have hquiet := (Desk.moves_transmit hrun.ready [[Telnet.newline]] [Telnet.newline]).quiet
    (fun _ => isInput_of_isOutput) hrun.ready
  have hinterruptions := interruptions_message hquiet d'.id d'.link.status data
  have hmoved : d'.link.status = d.link.status.moved .running :=
    congrArg Link.status (Desk.link_transition hs.ready .running)
  refine ⟨?_, hstanding⟩
  rcases hrun.fair with ⟨hfree, -, hopen⟩ | ⟨hclosing, -, hopen⟩
  · have hrunning : d'.link.status = .running := by
      rw [hmoved] at hfree ⊢
      unfold Status.moved at hfree ⊢
      split at hfree
      · cases ‹_ = true›.symm.trans hfree
      · exact if_neg ‹_›
    rw [hopen] at htaken
    rw [if_pos ⟨hrunning, hi⟩] at hinterruptions
    exact ⟨[[Telnet.newline]], htaken, by simp, (congrArg List.length hinterruptions).symm⟩
  · rw [hopen] at htaken
    rw [if_neg (by simp [hclosing])] at hinterruptions
    exact ⟨[], htaken, by simp, (congrArg List.length hinterruptions).symm⟩

theorem spoken_message (hs : d.Standing) (data : Bytes) :
    let d' := d.transition .running
    let w := d'.perform ((handler ⟨prompt, .webSocket⟩).message () data).acts
    Spoken (.message d'.id d'.link.status data :: w.events) ∧ w.value.desk.Standing := by
  intro d' w
  obtain ⟨hraw, hframed⟩ := acts_message prompt data
  have hrun : d'.Standing := hs.moves (Desk.moves_transition isWork d .running rfl) rfl
  by_cases hi : Interrupts data
  · have hw : w = d'.transmit (Outlet.send [Telnet.newline]) := by
      simp only [w, hraw hi]
      exact Desk.perform_one hrun.ready.unreleased _
    rw [hw]
    exact spoken_interrupt hs hi
  · have hquiet : ∀ e ∈ w.events, e.isInput = false :=
      (Desk.moves_perform hrun.ready _).quiet (fun _ => isInput_of_isOutput) hrun.ready
    obtain ⟨hsent, hstanding⟩ := Desk.framed_perform hrun (hframed hi)
    refine ⟨spoken_of_framed hsent ?_, hstanding⟩
    rw [interruptions_message hquiet, if_neg fun h => hi h.2]

/-- A turn of an upgraded shell connection. -/
theorem spoken_deal (hs : d.Standing) (turn : Turn) :
    let p := Turn.deal (handler ⟨prompt, .webSocket⟩) () d turn
    Spoken p.events ∧ p.value.desk.Standing := by
  cases turn with
  | ask =>
    have hmoves := Desk.moves_ask (fun _ => false) hs.ready
    have hidle :=
      hmoves.each (P := fun e => e.isIdle = true) (by simp) (fun _ => isIdle_of_isFarewell) hs.ready
    simp only [Turn.deal, bind, Traced.events_pure, List.append_nil]
    exact ⟨spoken_of_idle hidle, hs.moves hmoves rfl⟩
  | frame f =>
    have hnoted : Spoken [.log (.frame d.outlet.conn f.opcode f.final f.payload.length)] :=
      spoken_of_idle (by simp [isIdle])
    simp only [Turn.deal, bind, Traced.note, Traced.record]
    split
    · obtain ⟨hspoken, hstanding⟩ := spoken_message prompt hs f.payload
      refine ⟨hnoted.append ?_, hstanding⟩
      simpa using hspoken
    · obtain ⟨hsent, hstanding⟩ := Desk.framed_transmit hs (isServerFrame_pong f.payload) f.payload
      have hquiet := (Desk.moves_transmit hs.ready (pongParts f.payload) f.payload).quiet
        (fun _ => isInput_of_isOutput) hs.ready
      refine ⟨hnoted.append ?_, hstanding⟩
      simpa using spoken_of_framed hsent (interruptions_of_quiet hquiet)
    · exact ⟨hnoted.append (spoken_of_idle (by simp)), hs⟩

theorem spoken_play (hs : d.Standing) (turns : List Turn) :
    Spoken (Turn.play (handler ⟨prompt, .webSocket⟩) turns () d).events := by
  induction turns generalizing d with
  | nil => exact spoken_of_idle (by simp [Turn.play])
  | cons turn rest ih =>
    obtain ⟨hspoken, hstanding⟩ := spoken_deal prompt hs turn
    simp only [Turn.play, bind]
    split
    · exact hspoken.append (ih hstanding)
    · simpa using hspoken

end Shell

namespace Session

open Shell

/-- What an upgraded shell connection sends. -/
theorem FramedPhase.spoken {prompt : String} {u : Session Unit} {events : List Event}
    (hp : FramedPhase (handler ⟨prompt, .webSocket⟩) u events) (hs : u.desk.Standing) :
    Spoken events := by
  obtain ⟨turns, cause, rest, -, hdeeds, hrest⟩ := hp.settled
  have hidle : ∀ e ∈ .log (.ended u.desk.outlet.conn cause) :: rest, e.isIdle = true :=
    List.forall_mem_cons.2
      ⟨rfl, fun e he => (hrest e he).elim isIdle_of_isFarewell isIdle_of_isDestroyed⟩
  have hspoken := (spoken_play prompt hs turns).append (spoken_of_idle hidle)
  rw [← hdeeds] at hspoken
  simpa only [Spoken, accepted_deeds, interruptions_deeds] using hspoken

/-- A transport that has not been closed is open when its connection is accepted. -/
theorem Accepted.fair {mode : Mode} {readSize : Nat} {state : σ} {t : Transport} {s : Session σ}
    (ha : Accepted mode readSize state t s) (ho : t.hook.closed = false) : s.desk.link.Fair := by
  cases ha.told with
  | free _ torn transport status => exact .inl ⟨status, torn, by simp [Link.isOpen, transport, ho]⟩
  | claimed _ _ _ calls => cases calls

/-- A client that the shell lets in is sent nothing before the answer. -/
theorem acts_of_upgrades {prompt : String} {request : Request}
    (hu : Upgrades (handler ⟨prompt, .webSocket⟩) () request) :
    ((handler ⟨prompt, .webSocket⟩).connected () (some request)).acts = [] := by
  have hflow := hu.1
  simp only [handler, Shell.connected] at hflow ⊢
  split at hflow
  · cases hflow
  · split at hflow
    · cases hflow
    · simp_all

/-- The answer of the shell: over a transport that takes what it is offered the client is sent the
upgrade, unless someone has asked for the end. -/
theorem AtHeader.shell {prompt : String} {d : Desk} {id : Nat} {hook : Hook} {past : List Event}
    {request : Request} {s : Session Unit}
    (ha : AtHeader (handler ⟨prompt, .webSocket⟩) () d id hook past request s)
    (hu : Upgrades (handler ⟨prompt, .webSocket⟩) () request) (hw : d.Willing) (hr : d.Ready)
    (hf : d.link.Fair) (thread : Nat) :
    let u := s.step (handler ⟨prompt, .webSocket⟩) thread
    u.value.desk.Standing ∧
      accepted u.events =
        (if asked id (past ++ u.events) then []
          else Bytes.ofText (switchingProtocols request.key)) ∧
      ∃ conn path stage, u.events.getLast? = some (.log (.upgraded conn path stage)) := by
  let reply := Bytes.ofText (switchingProtocols request.key)
  have hwilling : s.desk.Willing := by
    rw [Desk.Willing, ha.outlet]
    exact hw
  obtain ⟨htaken, hleft, hlink⟩ := Desk.transmit_willing ha.ready hwilling [reply] reply
  obtain ⟨hattending, hframed, -, -⟩ := ha.framed hu thread
  obtain ⟨head, rest, stage, -, -, hstep⟩ := ha.upgraded hu thread
  simp only [told, acts_of_upgrades hu, Desk.perform, Traced.value_pure,
    Traced.events_pure] at hstep
  rw [hstep] at hattending ⊢
  have hfair : s.desk.link.Fair := Desk.fair_of_moves hr ha.moved hf
  have hasked := hattending.told.isClosing
  have hstatus : s.desk.link.status.isClosing = asked id (past ++ _) :=
    (congrArg (·.status.isClosing) hlink).symm.trans hasked
  refine ⟨⟨hattending.ready, hleft, rfl, ?_⟩, ?_, ?_⟩
  · exact (congrArg Link.Fair hlink).mpr hfair
  · have hsent : accepted ([.connected s.desk.id s.desk.link.status (some request)] ++
        (s.desk.transmit (Outlet.send reply)).events ++
        [.log (.upgraded (s.desk.transmit (Outlet.send reply)).value.desk.outlet.conn request.path
          stage)]) =
        accepted (s.desk.transmit (Outlet.send reply)).events := by
      rw [accepted_append, accepted_append]
      exact List.append_nil _
    refine hsent.trans (htaken.trans ?_)
    rw [hfair.isOpen, hstatus]
    dsimp only
    generalize asked id (past ++ _) = b
    cases b <;> simp [reply]
  · exact ⟨_, _, _, List.getLast?_concat⟩

/-! ### Whole runs -/

/-- **What the shell sends to a client that has upgraded is one unit after another**, each a whole
server frame or else a newline by itself, and there is one such newline for each text that
interrupts. So all of it is framed as long as no text interrupts; before that the client is sent
the answer to its request, and nothing else. -/
theorem shell_units (prompt : String) (thread : Nat) {hub : Hub} (hs : hub.Sound) {readSize : Nat}
    {t : Transport} {started : Int} {s : Session Unit}
    (ha : accept? .webSocket readSize () t { started } hub = some s)
    (hw : ∀ a ∈ t.acceptances, a.isWilling = true) (ho : t.hook.closed = false)
    (hup : (s.run (handler ⟨prompt, .webSocket⟩) thread).events.any isUpgraded = true) :
    ∃ before after head request,
      (s.run (handler ⟨prompt, .webSocket⟩) thread).events = before ++ after ∧
      (∃ conn path stage, before.getLast? = some (.log (.upgraded conn path stage))) ∧
      IsHeaderFor head request ∧ head <+: received before ∧
      accepted before =
        (if asked s.desk.id before then [] else Bytes.ofText (switchingProtocols request.key)) ∧
      Spoken after ∧ (interruptions after = [] → IsFramed (accepted after)) := by
  have haccepted := accepted_of_accept? hs ha
  have hwilling : s.desk.Willing := by
    rw [Desk.Willing, script_of_accept? ha]
    exact hw
  obtain ⟨front, v, request, hat, hu, hrun⟩ :=
    upgrade_in_run thread (living_of_accept? hs ha) haccepted.reading hup
  obtain ⟨hattending, hframed, hserving, head, hheader, hreceived⟩ := hat.framed hu thread
  obtain ⟨hstanding, hanswer, conn, path, stage, hlast⟩ :=
    hat.shell hu hwilling haccepted.ready (haccepted.fair ho) thread
  let u := (v.step (handler ⟨prompt, .webSocket⟩) thread).value
  have hspoken : Spoken (u.run (handler ⟨prompt, .webSocket⟩) thread).events :=
    (framed_run thread hattending hframed hserving).spoken hstanding
  refine ⟨front ++ (v.step (handler ⟨prompt, .webSocket⟩) thread).events, _, head, request, ?_,
    ⟨conn, path, stage, ?_⟩, hheader, ?_, ?_, hspoken, hspoken.framed⟩
  · rw [hrun, List.append_assoc]
  · rw [List.getLast?_append, hlast]
    rfl
  · rw [hreceived]
    exact List.prefix_append ..
  · rw [accepted_append, accepted_of_isIdle hat.quiet, List.nil_append, hanswer]

/-- A client sends ctrl-C as soon as it has upgraded, over a transport that takes some bytes at a
time. -/
theorem shell_units_interrupted :
    let hub : Hub := { capacity := 1 }
    let h := Shell.handler { prompt := "> ", mode := .webSocket }
    let header := Bytes.ofText "GET / HTTP/1.1\r\nUpgrade: websocket\r\n\r\n"
    let t : Transport :=
      { arrivals := [.data header, .data [0x81, 0x82, 0, 0, 0, 0, 0xFF, 0xF4]]
        acceptances := [.upTo 17, .fault (.plain .interrupted)] }
    hub.Sound ∧ (∀ a ∈ t.acceptances, a.isWilling = true) ∧ t.hook.closed = false ∧
      ∃ s, accept? .webSocket 128 () t { started := 0 } hub = some s ∧
        (s.run h 1).events.any isUpgraded = true ∧
        ∃ before after head request, (s.run h 1).events = before ++ after ∧
          (∃ conn path stage, before.getLast? = some (.log (.upgraded conn path stage))) ∧
          IsHeaderFor head request ∧ head <+: received before ∧
          accepted before =
            (if asked s.desk.id before then []
              else Bytes.ofText (switchingProtocols request.key)) ∧
          Spoken after ∧ (interruptions after = [] → IsFramed (accepted after)) := by
  intro hub h header t
  have hs : hub.Sound := Hub.sound_empty 1
  have hw : ∀ a ∈ t.acceptances, a.isWilling = true := by decide
  have hup : ∀ s, accept? .webSocket 128 () t { started := 0 } hub = some s →
      (s.run h 1).events.any isUpgraded = true := by
    intro s ha
    cases ha
    rw [run_eq_steps 12]
    · decide +kernel
    · decide +kernel
  exact ⟨hs, hw, rfl, _, rfl, hup _ rfl, shell_units "> " 1 hs rfl hw rfl (hup _ rfl)⟩

/-- A client sends ctrl-C in a text frame: after the answer to its request it is sent a newline,
and that is no frame. -/
theorem interrupt_unframed :
    let hub : Hub := { capacity := 1 }
    let h := Shell.handler { prompt := "> ", mode := .webSocket }
    let header := Bytes.ofText "GET / HTTP/1.1\r\nUpgrade: websocket\r\n\r\n"
    let t : Transport := { arrivals := [.data header, .data [0x81, 0x82, 0, 0, 0, 0, 0xFF, 0xF4]] }
    ¬ IsFramed [Telnet.newline] ∧ ∃ s, accept? .webSocket 128 () t { started := 0 } hub = some s ∧
      (s.run h 1).events.any isUpgraded = true ∧
      accepted (s.run h 1).events = Bytes.ofText (switchingProtocols "") ++ [Telnet.newline] := by
  intro hub h header t
  refine ⟨not_isFramed_newline, _, rfl, ?_⟩
  rw [run_eq_steps 12]
  · decide +kernel
  · decide +kernel

end Session
end NetShell
