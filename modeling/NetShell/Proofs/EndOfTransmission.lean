import NetShell.Proofs.Bounds
import NetShell.Proofs.Commands

/-! The end of transmission.

A ctrl-D ends a line wherever it stands, and is the last byte of its line. The shell ends a session
at a line that holds one, so on a terminal no line after it is handled; and as lines are handled
before anything more is read, nothing is read after it. What a terminal has typed is therefore all
handled up to the line that its first ctrl-D ends, unless the session was ended at an earlier line
(`Session.end_of_transmission`). -/
namespace NetShell
open Event Telnet

/-! ### Lines that ctrl-D ends -/

namespace Telnet

theorem ended_eot (front : Bytes) : Ended (front ++ [eot]) := ⟨front, eot, rfl, .inr (.inl rfl)⟩

theorem Unended.eot_notMem {s : Bytes} (h : Unended s) : eot ∉ s := by
  intro hmem
  obtain ⟨front, rest, rfl⟩ := List.append_of_mem hmem
  exact h (front ++ [eot]) ⟨rest, by simp⟩ (ended_eot front)

/-- A line has no ctrl-D but at its end. -/
theorem IsSegment.eot_last {segment : Bytes} (h : IsSegment segment) (hmem : eot ∈ segment) :
    ∃ front, segment = front ++ [eot] ∧ eot ∉ front := by
  obtain ⟨front, rest, rfl, hfront⟩ := List.eq_append_cons_of_mem hmem
  have hwhole := h.shortest (front ++ [eot]) ⟨rest, by simp⟩ (ended_eot front)
  exact ⟨front, hwhole.symm, hfront⟩

/-- The ctrl-D that ends a line stays in it. -/
theorem lineOf_eot (front : Bytes) : lineOf (front ++ [eot]) = front ++ [eot] := by
  rw [lineOf_concat, if_neg (by decide), if_neg (by decide)]

/-- Lines none of which but the last has a ctrl-D reach no further than the first one of the bytes
that they are the front of. -/
theorem prefix_eot {front after rest line : Bytes} {handled : List Bytes} (hline : IsSegment line)
    (hclear : ∀ segment ∈ handled, eot ∉ segment)
    (hdata : front ++ eot :: after = (handled ++ [line]).flatten ++ rest) :
    (handled ++ [line]).flatten <+: front ++ [eot] := by
  have hbefore : eot ∉ handled.flatten := by simpa using hclear
  have hlong : (front ++ [eot]) <+: front ++ eot :: after := ⟨after, by simp⟩
  rcases List.prefix_or_prefix_of_prefix ⟨rest, hdata.symm⟩ hlong with hshort | ⟨more, hmore⟩
  · exact hshort
  · -- the last line holds the ctrl-D, and so ends with it
    rw [List.flatten_concat] at hmore
    have hmem : eot ∈ handled.flatten ++ line := by
      rw [← hmore]
      simp
    obtain ⟨inner, rfl, hinner⟩ := hline.eot_last ((List.mem_append.1 hmem).resolve_left hbefore)
    have hsplit : (handled.flatten ++ inner) ++ eot :: [] = front ++ eot :: more := by
      simpa using hmore.symm
    have hclear' : eot ∉ handled.flatten ++ inner := by simp [hbefore, hinner]
    obtain ⟨hfront, -, -⟩ := (List.append_cons_inj_of_notMem hclear' (by simp)).1 hsplit
    exact ⟨[], by rw [List.append_nil, List.flatten_concat, ← List.append_assoc, hfront]⟩

/-- What has been typed up to the first ctrl-D is these lines and as many more; if it is these alone
the last of them ends with it, and else they have none. -/
theorem exists_segmented_eot {front after rest line : Bytes} {handled : List Bytes}
    (hfirst : eot ∉ front) (hwhole : ∀ segment ∈ handled ++ [line], IsSegment segment)
    (hclear : ∀ segment ∈ handled, eot ∉ segment)
    (hdata : front ++ eot :: after = (handled ++ [line]).flatten ++ rest) :
    ∃ later, Segmented (front ++ [eot]) (handled ++ line :: later) [] ∧
      (later = [] ∧ line.getLast? = some eot ∨ later ≠ [] ∧ eot ∉ line) := by
  have hline : IsSegment line := hwhole line (by simp)
  obtain ⟨left, hleft⟩ := prefix_eot hline hclear hdata
  obtain ⟨later, tail, hcut⟩ := exists_segmented left
  obtain ⟨hleftEq, hunended⟩ := hcut.eq
  have htail : tail = [] := by
    rw [hleftEq, ← List.append_assoc] at hleft
    rcases split_concat hleft with ⟨hnone, -⟩ | ⟨init, rfl, -⟩
    · exact hnone
    · exact absurd (by simp) hunended.eot_notMem
  subst htail
  rw [List.append_nil] at hleftEq
  subst hleftEq
  refine ⟨later, ?_, ?_⟩
  · simpa using Segmented.append _ hwhole hleft.symm hcut
  · rw [List.flatten_concat] at hleft
    rcases split_concat hleft with ⟨hnone, hends⟩ | ⟨init, hlast, hfront⟩
    · -- nothing is left after the line, which so ends with the ctrl-D
      rw [hnone] at hcut
      obtain ⟨rfl, -⟩ := hcut.unique (.tail (next?_eq_none_iff.1 rfl))
      obtain ⟨inner, b, rfl, -⟩ := hline.ended
      rcases split_concat hends with ⟨hnil, -⟩ | ⟨init, hinner, -⟩
      · simp at hnil
      · exact .inl ⟨rfl, by rw [hinner, List.getLast?_concat]⟩
    · refine .inr ⟨?_, fun hmem => hfirst (by rw [← hfront]; simp [hmem])⟩
      rintro rfl
      simp at hlast

end Telnet

/-! ### What the shell makes of lines -/

namespace Shell

variable {shell : Shell}

theorem message_eot {data : Bytes} (h : eot ∈ data) :
    (shell.message data).flow = .abort "end of transmission" false := by
  simp [message, h, Flow.quiet]

/-- The shell goes on after a line. -/
def GoesOn (shell : Shell) (segment : Bytes) : Prop :=
  (shell.message (lineOf segment)).flow = .continue

/-- There is no ctrl-D in it then. -/
theorem GoesOn.eot_notMem {segment : Bytes} (hg : shell.GoesOn segment) (hs : IsSegment segment) :
    eot ∉ segment := by
  intro hmem
  obtain ⟨front, rfl, -⟩ := hs.eot_last hmem
  rw [GoesOn, lineOf_eot, message_eot (by simp)] at hg
  cases hg

end Shell

namespace Session

variable {shell : Shell} {id conn : Nat} {hook : Hook} {past : List Event} {handled : List Bytes}
  {rest : Bytes}
  {s : Session Unit}

/-! ### What holds at any time -/

/-- What has been read from a terminal is the lines that were handled, and the rest; nothing was
read after a ctrl-D. -/
structure Typed (past : List Event) (handled : List Bytes) (rest : Bytes) : Prop where
  whole : ∀ segment ∈ handled, IsSegment segment
  received : received past = handled.flatten ++ rest
  messages : messages past = handled.map lineOf
  reads : AtReads (fun before => eot ∉ Event.received before) past

theorem Typed.append (ht : Typed past handled rest) {events : List Event}
    (hread : ∀ e ∈ events, e.isRead = false) (hgiven : Event.messages events = []) :
    Typed (past ++ events) handled rest where
  whole := ht.whole
  received := by rw [received_unread hread, ht.received]
  messages := by rw [messages_append, hgiven, List.append_nil, ht.messages]
  reads := ht.reads.append hread

/-- While the shell has gone on, a ctrl-D can only be in the rest. -/
theorem Typed.eot_notMem (ht : Typed past handled rest)
    (hg : ∀ segment ∈ handled, shell.GoesOn segment) (hrest : eot ∉ rest) :
    eot ∉ Event.received past := by
  rw [ht.received]
  simp only [List.mem_append, List.mem_flatten, not_or, not_exists, not_and]
  exact ⟨fun segment hsegment => (hg segment hsegment).eot_notMem (ht.whole segment hsegment),
    hrest⟩

/-- The shell has ended the session at a line. -/
structure Quit (shell : Shell) (past : List Event) (handled : List Bytes) (line : Bytes)
    (reason : String) (log : Bool) : Prop where
  typed : ∃ rest, Typed past (handled ++ [line]) rest
  goes : ∀ segment ∈ handled, shell.GoesOn segment
  flow : (shell.message (lineOf line)).flow = .abort reason log

theorem Quit.append {line : Bytes} {reason : String} {log : Bool}
    (hq : Quit shell past handled line reason log) {events : List Event}
    (hread : ∀ e ∈ events, e.isRead = false) (hgiven : messages events = []) :
    Quit shell (past ++ events) handled line reason log := by
  obtain ⟨rest, ht⟩ := hq.typed
  exact ⟨⟨rest, ht.append hread hgiven⟩, hq.goes, hq.flow⟩

/-- What holds of a terminal's session at any time of its life: the shell has gone on at every line
so far; or it has ended the session at one; or the session ends otherwise, and no ctrl-D was
read. -/
inductive Typing (shell : Shell) (id conn : Nat) (hook : Hook) (past : List Event)
    (s : Session Unit) : Prop
  | fresh : AtLines .line id hook past s → s.worker.phase = .fresh → s.worker.buffer = [] →
      Typed past [] [] →
      Typing shell id conn hook past s
  | serving (handled : List Bytes) : AtLines .line id hook past s → s.worker.phase = .serving →
      Typed past handled s.worker.buffer → (∀ segment ∈ handled, shell.GoesOn segment) →
      Typing shell id conn hook past s
  | parting : Parting s → eot ∉ received past → AtReads (fun before => eot ∉ received before) past →
      Typing shell id conn hook past s
  | quit {handled : List Bytes} {line : Bytes} {reason : String} {log : Bool} : Quit shell past
      handled line reason log →
      s.worker.phase = .finished (some (.aborted reason log)) → Typing shell id conn hook past s
  | gone {handled : List Bytes} {line : Bytes} {reason : String} {log : Bool}
      {before : List Event} :
      Quit shell past handled line reason log → s.isGone = true →
      past = before ++ .log (.ended conn (some (.aborted reason log))) ::
      closing id hook conn (asked id before) →
      Typing shell id conn hook past s

/-! ### One step -/

/-- The worker starts: the shell prompts. -/
theorem typing_start (thread : Nat) (ha : AtLines .line id hook past s)
    (hs : s.worker.phase = .fresh) (hb : s.worker.buffer = []) (ht : Typed past [] []) :
    Typing shell id conn hook (past ++ (s.step shell.handler thread).events)
      (s.step shell.handler thread).value := by
  have hmoves := (moves_step shell.handler thread ha.ready (.inl hs)).desk
  have hbegun := (Desk.moves_update (d := s.desk) isWork (.begin thread (.nil _))).ready ha.ready
  have hkept :=
    Desk.kept_perform hbegun.unreleased (shell.handler.connected s.worker.state none).acts
  have hacts := Desk.moves_perform hbegun (shell.handler.connected s.worker.state none).acts
  rw [step_fresh shell.handler thread hs,
    start_line shell.handler thread ha.ready.unreleased ha.mode] at hmoves ⊢
  refine .serving [] (ha.moves hmoves rfl hkept.framed) rfl ?_ (by simp)
  have hread := hacts.each (fun _ => isRead_of_isOutput) (fun _ => isRead_of_isFarewell) hbegun
  have hgiven := messages_of_quiet (hacts.quiet (fun _ => isInput_of_isOutput) hbegun)
  dsimp only
  rw [hb]
  exact ht.append (List.forall_mem_cons.2 ⟨rfl, List.forall_mem_cons.2 ⟨rfl, hread⟩⟩) hgiven

/-- Nothing is read where a line is handled. -/
theorem unread_line (h : Handler Unit) (ha : AtLines .line id hook past s)
    (hs : s.worker.phase = .serving) (data rest : Bytes) :
    ∀ e ∈ (s.line h data rest).events, e.isRead = false := by
  rw [line_line h ha.mode]
  exact (deals_dispatch (s := ⟨{ s.worker with buffer := rest }, s.desk⟩) h ha.ready hs data).unread

/-- A line is handled: the shell goes on, or ends the session. -/
theorem typing_line (ha : AtLines .line id hook past s) (hs : s.worker.phase = .serving)
    (ht : Typed past handled s.worker.buffer) (hg : ∀ segment ∈ handled, shell.GoesOn segment)
    {data rest : Bytes} (hnext : next? s.worker.buffer = some (data, rest)) :
    Typing shell id conn hook (past ++ (s.line shell.handler data rest).events)
      (s.line shell.handler data rest).value := by
  obtain ⟨segment, hsegment, hbuffer, rfl⟩ := next?_eq_some_iff.1 hnext
  obtain ⟨hat, hh⟩ := Session.handled shell.handler ha hs (lineOf segment) rest
  have hread := unread_line shell.handler ha hs (lineOf segment) rest
  have htyped : Typed (past ++ (s.line shell.handler (lineOf segment) rest).events)
      (handled ++ [segment]) rest := by
    refine ⟨List.forall_mem_append.2 ⟨ht.whole, by simpa using hsegment⟩, ?_, ?_,
      ht.reads.append hread⟩
    · rw [received_append, hh.received, ht.received, hbuffer]
      simp
    · rw [messages_append, hh.messages, ht.messages]
      simp
  have hphase := hh.phase
  cases hflow : (shell.message (lineOf segment)).flow with
  | «continue» =>
    have hgoes : ∀ line ∈ handled ++ [segment], shell.GoesOn line :=
      List.forall_mem_append.2 ⟨hg, List.forall_mem_singleton.2 hflow⟩
    refine .serving (handled ++ [segment]) hat ?_ (by rwa [hh.buffer]) hgoes
    rw [hphase]
    show (shell.message (lineOf segment)).flow.phase = _
    rw [hflow]
    rfl
  | abort reason log =>
    refine .quit ⟨⟨rest, htyped⟩, hg, hflow⟩ ?_
    rw [hphase]
    show (shell.message (lineOf segment)).flow.phase = _
    rw [hflow]
    rfl

/-- What an ended stream leaves is handled as a last line. There is no ctrl-D in it. -/
theorem typing_tail (ha : AtLines .line id hook past s) (hs : s.worker.phase = .serving)
    (hclear : eot ∉ received past) (hreads : AtReads (fun before => eot ∉ received before) past)
    (hd : s.worker.drained = true) (data : Bytes) :
    Typing shell id conn hook (past ++ (s.line shell.handler data []).events)
      (s.line shell.handler data []).value := by
  obtain ⟨hat, hh⟩ := Session.handled shell.handler ha hs data []
  have hread := unread_line shell.handler ha hs data []
  have hparting : Parting (s.line shell.handler data []).value := by
    rcases Flow.phase_cases (shell.message data).flow with hserving | ⟨cause, hfinished⟩
    · exact .spent (hh.phase.trans hserving) hat.unframed (hh.drained.trans hd) hh.buffer
    · exact .finished cause (hh.phase.trans hfinished)
  refine .parting hparting ?_ (hreads.append hread)
  rw [received_unread hread]
  exact hclear

/-- A read is begun only when no line is in the buffer, and so no ctrl-D has come in. -/
theorem typing_fill (ha : AtLines .line id hook past s) (hs : s.worker.phase = .serving)
    (ht : Typed past handled s.worker.buffer) (hg : ∀ segment ∈ handled, shell.GoesOn segment)
    (hclear : eot ∉ received past) (hd : s.worker.drained = false) :
    Typing shell id conn hook (past ++ s.fill.events) s.fill.value := by
  obtain ⟨hfilled, hrefilled⟩ := filled ha.toAttending hs hd
  have hat := ha.moves (moves_fill hs).desk hfilled.mode (congrArg (·.outlet.framed) hfilled.desk)
  have hreads : AtReads (fun before => eot ∉ received before) (past ++ s.fill.events) := by
    refine atReads_fill ha.toAttending hs hd ht.reads ?_
    rw [received_unread (isRead_awaited ha.ready)]
    exact hclear
  cases hrefilled with
  | serving hphase =>
    refine .serving handled hat hphase ⟨ht.whole, ?_, ?_, hreads⟩ hg
    · rw [received_append, ht.received, hfilled.buffer, List.append_assoc]
    · rw [messages_append, hfilled.messages, List.append_nil, ht.messages]
  | exhausted fault hphase hnone =>
    refine .parting (.finished _ hphase) ?_ hreads
    rw [received_append, hnone, List.append_nil]
    exact hclear
  | cut fault hframed =>
    rw [ha.unframed] at hframed
    cases hframed

theorem typing_serving (thread : Nat) (ha : AtLines .line id hook past s)
    (hs : s.worker.phase = .serving) (ht : Typed past handled s.worker.buffer)
    (hg : ∀ segment ∈ handled, shell.GoesOn segment) :
    Typing shell id conn hook (past ++ (s.step shell.handler thread).events)
      (s.step shell.handler thread).value := by
  rw [step_lines shell.handler thread hs ha.unframed, serveLines_eq]
  cases hnext : next? s.worker.buffer with
  | some found => exact typing_line ha hs ht hg hnext
  | none =>
    have hclear := ht.eot_notMem hg (next?_eq_none_iff.1 hnext).eot_notMem
    cases hd : s.worker.drained with
    | false => exact typing_fill ha hs ht hg hclear hd
    | true =>
      dsimp only
      cases remainder s.worker.buffer with
      | some data => exact typing_tail ha hs hclear ht.reads hd data
      | none =>
        rw [if_pos rfl, conclude_eq hs, Traced.events_pure, List.append_nil]
        exact .parting (.finished none rfl) hclear ht.reads

/-- A request from outside changes nothing of what is typed. -/
theorem typing_ask (hl : Living id conn hook past s) (hg : s.isGone = false)
    (ht : Typing shell id conn hook past s) :
    Typing shell id conn hook (past ++ s.ask.events) s.ask.value := by
  cases hl with
  | gone misuse _ hphase => simp [isGone, hphase] at hg
  | held hh hphase =>
    have hasked := asked_farewell hh.toAttending
    have hread : ∀ e ∈ s.ask.events, e.isRead = false :=
      fun e he => isRead_of_isFarewell (hasked e he)
    have hgiven := messages_of_quiet fun e he => isInput_of_isFarewell (hasked e he)
    have hsame := worker_ask s
    cases ht with
    | fresh ha hs hb htyped =>
      exact .fresh ha.asked (hsame ▸ hs) (hsame ▸ hb) (htyped.append hread hgiven)
    | serving handled ha hs htyped hgoes =>
      exact .serving handled ha.asked (hsame ▸ hs) (hsame ▸ htyped.append hread hgiven) hgoes
    | parting hp hclear hreads =>
      refine .parting (parting_ask (.held hh hphase) hp).1 ?_ (hreads.append hread)
      rwa [received_unread hread]
    | quit hq hs => exact .quit (hq.append hread hgiven) (hsame ▸ hs)
    | gone _ hgone => exact absurd hgone (by simp [hg])

/-- The worker leaves a session that the shell has ended: it says so, and takes the connection
down. -/
theorem typing_leave (thread : Nat) (hl : Living id conn hook past s) {line : Bytes}
    {reason : String} {log : Bool} (hq : Quit shell past handled line reason log)
    (hs : s.worker.phase = .finished (some (.aborted reason log))) :
    Typing shell id conn hook (past ++ (s.step shell.handler thread).events)
      (s.step shell.handler thread).value := by
  cases hl with
  | gone misuse _ hphase => simp [hs] at hphase
  | held hh =>
    rw [step_finished shell.handler thread (hh.number ▸ hh.told) hs, hh.key, hh.number]
    refine .gone (hq.append (List.forall_mem_cons.2 ⟨rfl, isRead_closing⟩) ?_) rfl rfl
    exact messages_of_quiet (List.forall_mem_cons.2 ⟨rfl, isInput_closing⟩)

/-- A connection that is dropped before its worker has started has read nothing. -/
theorem typing_drop (ht : Typing shell id conn hook past s) (hs : s.worker.phase = .fresh) :
    Typing shell id conn hook (past ++ s.discard.events) s.discard.value := by
  cases ht with
  | fresh ha _ _ htyped =>
    have hread := takeDown_eq (ha.number ▸ ha.told) none
    show Typing shell id conn hook (past ++ (s.takeDown none).events) (s.takeDown none).value
    rw [hread]
    refine .parting (.gone rfl) ?_ (htyped.reads.append isRead_closing)
    rw [received_unread isRead_closing, htyped.received]
    exact List.not_mem_nil
  | serving _ _ hserving => simp [hs] at hserving
  | parting hp =>
    cases hp with
    | spent hphase | finished _ hphase => simp [hs] at hphase
    | gone hgone => simp [isGone, hs] at hgone
  | quit _ hfinished => simp [hs] at hfinished
  | gone _ hgone => simp [isGone, hs] at hgone

/-- **Whatever happens keeps what holds of a terminal's session.** -/
theorem typing_meet (occasion : Occasion) (hl : Living id conn hook past s)
    (ht : Typing shell id conn hook past s) :
    Typing shell id conn hook (past ++ (s.meet shell.handler occasion).events)
      (s.meet shell.handler occasion).value := by
  cases hg : s.isGone with
  | true => rwa [meet_gone hl hg, Traced.events_pure, List.append_nil]
  | false =>
    cases occasion with
    | ask => exact typing_ask hl hg ht
    | drop =>
      simp only [meet]
      split
      · exact typing_drop ht ‹_›
      · rwa [Traced.events_pure, List.append_nil]
    | work thread =>
      cases ht with
      | fresh ha hs hb htyped => exact typing_start thread ha hs hb htyped
      | serving handled ha hs htyped hgoes => exact typing_serving thread ha hs htyped hgoes
      | parting hp hclear hreads =>
        obtain ⟨hparting, hquiet⟩ := parting_meet (h := shell.handler) hl hp (.work thread)
        have hread := fun e he => (hquiet e he).2
        refine .parting hparting ?_ (hreads.append hread)
        rwa [received_unread hread]
      | quit hq hs => exact typing_leave thread hl hq hs
      | gone _ hgone => exact absurd hgone (by simp [hg])

theorem typing_life (occasions : List Occasion) (hl : Living id conn hook past s)
    (ht : Typing shell id conn hook past s) :
    Typing shell id conn hook (past ++ (s.life shell.handler occasions).events)
      (s.life shell.handler occasions).value := by
  induction occasions generalizing past s with
  | nil => simpa [life] using ht
  | cons occasion rest ih =>
    have := ih (living_meet shell.handler occasion hl) (typing_meet occasion hl ht)
    rw [List.append_assoc] at this
    exact this

/-! ### Whole lives -/

/-- Nothing has been typed when a connection has been accepted. -/
theorem Accepted.typing {readSize : Nat} {t : Transport} (ha : Accepted .line readSize () t s) :
    Typing shell s.desk.id conn t.hook [] s :=
  .fresh ha.atLines (by rw [ha.worker]) (by rw [ha.worker]) ⟨List.forall_mem_nil _, rfl, rfl,
    atReads_nil⟩

/-- **Ctrl-D ends a session at once.** Whatever a terminal has sent before its first ctrl-D, however
it came in and whatever else happened to the connection: once that ctrl-D has been read nothing more
is read. The lines up to it are handled in order, and the session is over with the first of them at
which the shell ends it: an earlier one that asks for that, or the one that the ctrl-D ends. Nothing
after that line is handled. -/
theorem end_of_transmission (shell : Shell) (thread : Nat) {hub : Hub} (hs : hub.Sound)
    {readSize : Nat} {t : Transport} {started : Int}
    (ha : accept? .line readSize () t { started } hub = some s) (occasions : List Occasion)
    {front after : Bytes} :
    let lived := s.life shell.handler occasions
    let ran := lived.value.run shell.handler thread
    let events := lived.events ++ ran.events
    received events = front ++ eot :: after → eot ∉ front →
      AtReads (fun before => eot ∉ received before) events ∧
        ran.value.worker.phase = .gone none ∧
        ∃ handled line later reason log before,
          Segmented (front ++ [eot]) (handled ++ line :: later) [] ∧
          (∀ segment ∈ handled, (shell.message (lineOf segment)).flow = .continue) ∧
          (shell.message (lineOf line)).flow = .abort reason log ∧
          messages events = (handled ++ [line]).map lineOf ∧
          events = before ++ .log (.ended s.desk.outlet.conn (some (.aborted reason log))) ::
            closing s.desk.id t.hook s.desk.outlet.conn (asked s.desk.id before) ∧
          (later = [] ∧ line.getLast? = some eot ∧ reason = "end of transmission" ∧ log = false ∨
            later ≠ [] ∧ eot ∉ line) := by
  intro lived ran events hread hfirst
  have hliving := living_of_accept? hs ha
  have haccepted := accepted_of_accept? hs ha
  have hrun : ran.value.worker.phase = .gone none :=
    gone_run shell.handler thread (living_life shell.handler occasions hliving)
      (whole_life shell.handler occasions hliving haccepted.whole)
  obtain ⟨steps, hsteps⟩ := run_eq_life shell.handler thread lived.value
  have htyping : Typing shell s.desk.id s.desk.outlet.conn t.hook events ran.value := by
    have hfresh : Typing shell s.desk.id s.desk.outlet.conn t.hook [] s := haccepted.typing
    have hlife := typing_life (occasions ++ List.replicate steps (.work thread)) hliving hfresh
    rw [life_append, ← hsteps] at hlife
    exact hlife
  have htyped : eot ∈ received events := by
    rw [hread]
    simp
  cases htyping with
  | fresh _ hphase | serving _ _ hphase | quit _ hphase => simp [hrun] at hphase
  | parting _ hclear => exact absurd htyped hclear
  | @gone handled line reason log before hq _ hevents =>
    obtain ⟨rest, hquit⟩ := hq.typed
    have hline := hquit.whole line (by simp)
    have hclear : ∀ segment ∈ handled, eot ∉ segment := fun segment hsegment =>
      (hq.goes segment hsegment).eot_notMem (hquit.whole segment (by simp [hsegment]))
    obtain ⟨later, hcut, hlast⟩ :=
      exists_segmented_eot hfirst hquit.whole hclear (hread.symm.trans hquit.received)
    refine ⟨hquit.reads, hrun, handled, line, later, reason, log, before, hcut, hq.goes, hq.flow,
      hquit.messages, hevents, ?_⟩
    rcases hlast with ⟨hnone, hends⟩ | hearlier
    · obtain ⟨inner, rfl, -⟩ := hline.eot_last (List.mem_of_getLast? hends)
      have hflow := hq.flow
      rw [lineOf_eot, Shell.message_eot (by simp)] at hflow
      cases hflow
      exact .inl ⟨hnone, hends, rfl, rfl⟩
    · exact .inr hearlier

/-- A ctrl-D after a carriage return and an IAC, in the middle of what a read brings: the two lines
before it and its own are handled, and what a client has sent after it is not, be it read or not. -/
theorem end_of_transmission_after_command :
    let hub : Hub := { capacity := 1 }
    let shell : Shell := { prompt := "> ", mode := .line }
    let t : Transport :=
      { arrivals := [.data [0x6D, 0x0D], .fault (.plain .interrupted), .data [0x0A, 0xFF, 0xFD],
          .data [0x06, 0x71, 0x0D, 0xFF, 0x04, 0x78, 0x0A], .data [0x79, 0x0A]] }
    let front : Bytes := [0x6D, 0x0D, 0x0A, 0xFF, 0xFD, 0x06, 0x71, 0x0D, 0xFF]
    hub.Sound ∧ ∃ s, accept? .line 8 () t { started := 0 } hub = some s ∧
      let lived := s.life shell.handler [.work 1, .work 1]
      let events := lived.events ++ (lived.value.run shell.handler 1).events
      received events = front ++ eot :: [0x78, 0x0A] ∧ eot ∉ front ∧
        messages events = [[0x6D], [0xFF, 0xFD, 0x06], [0x71, 0x0D, 0xFF, 0x04]] ∧
        AtReads (fun before => eot ∉ received before) events ∧
        ∃ reason log before, events =
        before ++ .log (.ended s.desk.outlet.conn (some (.aborted reason log))) ::
          closing s.desk.id t.hook s.desk.outlet.conn (asked s.desk.id before) := by
  intro hub shell t front
  have hs : hub.Sound := Hub.sound_empty 1
  have hrun : ∀ s, accept? .line 8 () t { started := 0 } hub = some s →
      let lived := s.life shell.handler [.work 1, .work 1]
      let events := lived.events ++ (lived.value.run shell.handler 1).events
      received events = front ++ eot :: [0x78, 0x0A] ∧
        messages events = [[0x6D], [0xFF, 0xFD, 0x06], [0x71, 0x0D, 0xFF, 0x04]] := by
    intro s ha
    cases ha
    dsimp only
    rw [run_eq_steps 8]
    · decide +kernel
    · decide +kernel
  obtain ⟨hread, hgiven⟩ := hrun _ rfl
  have hfirst : eot ∉ front := by decide
  obtain ⟨hreads, -, -, -, -, reason, log, before, -, -, -, -, hevents, -⟩ :=
    end_of_transmission shell 1 hs (t := t) rfl [.work 1, .work 1] hread hfirst
  exact ⟨hs, _, rfl, hread, hfirst, hgiven, hreads, reason, log, before, hevents⟩

end Session

end NetShell
