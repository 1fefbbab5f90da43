import NetShell.Proofs.Header
import NetShell.Proofs.Teardown
import NetShell.Proofs.Writing

/-! What a connection does until its client has sent a header.

A header asks for something: its request line names a path, and its header lines may ask
for the upgrade and bear a key (`requestOf`). Until a whole header has come in the handler
is told nothing and the client is sent nothing, and no read is begun while a line is in the
buffer. So whatever happens to a connection, either it is taken down without an answer, at
most a refusal (`Session.Unanswered`), or at one moment its worker is about to take the end
of a header out of its buffer (`Session.AtHeader`, `Session.approach_life`). -/
namespace NetShell
open WebSocket Event Telnet

variable {σ : Type}

/-! ### What a header asks for -/

/-- What the lines of a header ask for: the target of the first up to a space, the upgrade if
one of the others asks for it, and the key of the last of them that bears one. -/
def requestOf : List Bytes → Request
  | [] => {}
  | first :: rest =>
    { path := Text.lossy ((first.drop Upgrade.requestFront.length).takeWhile (· != 0x20))
      upgrade := rest.any Upgrade.upgradeHeader.isPrefixOf
      key := ((rest.filterMap (after? Upgrade.keyHeader)).getLast?.map Text.lossy).getD "" }

/-- A header with what it asks for: only its last line is empty, and that one is ended by a
newline. -/
def IsHeaderFor (head : Bytes) (request : Request) : Prop :=
  ∃ first middle last, head = (first :: middle ++ [last]).flatten ∧
    (∀ segment ∈ first :: middle ++ [last], IsSegment segment) ∧
    Upgrade.requestFront <+: lineOf first ∧
    (∀ segment ∈ middle, lineOf segment ≠ []) ∧
    (last = [newline] ∨ last = [carriageReturn, newline]) ∧
    request = requestOf ((first :: middle).map lineOf)

/-- No header stands at the front of a byte string. -/
def Headless (data : Bytes) : Prop := ∀ head, IsHeader head → ¬ head <+: data

theorem Telnet.stripReturn_eq_nil {line : Bytes} (h : stripReturn line = []) :
    line = [] ∨ line = [carriageReturn] := by
  unfold stripReturn at h
  split at h
  · rename_i hlast
    obtain ⟨front, rfl⟩ := List.getLast?_eq_some_iff.1 hlast
    rw [List.dropLast_concat] at h
    exact .inr (by rw [h]; rfl)
  · exact .inl h

/-- A line is empty only if a newline ends it, with at most a carriage return before that. -/
theorem Telnet.lineOf_eq_nil {segment : Bytes} (hs : IsSegment segment) (h : lineOf segment = []) :
    segment = [newline] ∨ segment = [carriageReturn, newline] := by
  obtain ⟨front, b, rfl, hb⟩ := hs.ended
  by_cases hnew : b = newline
  · subst hnew
    rw [lineOf, if_pos List.getLast?_concat, List.dropLast_concat] at h
    rcases stripReturn_eq_nil h with rfl | rfl
    · exact .inl rfl
    · exact .inr rfl
  · rw [lineOf, if_neg (by simpa using hnew)] at h
    rcases stripReturn_eq_nil h with hnil | hreturn
    · simp at hnil
    · obtain ⟨rfl, hlast⟩ : front = [] ∧ [b] = [carriageReturn] := List.append_inj' hreturn rfl
      obtain rfl : b = carriageReturn := by simpa using hlast
      revert hb
      decide

/-- A line that asks for the upgrade bears no key. -/
theorem WebSocket.Upgrade.after?_keyHeader {line : Bytes}
    (h : upgradeHeader.isPrefixOf line = true) :
    after? keyHeader line = none := by
  rw [after?_eq_none_iff]
  intro hkey
  have hboth := List.prefix_or_prefix_of_prefix (List.isPrefixOf_iff_prefix.1 h) hkey
  exact absurd hboth (by decide +kernel)

/-- A line is refused only as a request line, and only if it asks for nothing. -/
theorem WebSocket.Upgrade.feed_reject {up : Upgrade} {line : Bytes} {cause : Violation}
    (h : (up.feed line).1 = .reject cause) :
    up.stage = .needRequestLine ∧ ¬ requestFront <+: line := by
  unfold feed at h
  cases hs : up.stage with
  | needRequestLine =>
    refine ⟨rfl, fun hfront => ?_⟩
    simp [hs, after?, List.isPrefixOf_iff_prefix.2 hfront] at h
  | readingHeaders =>
    rw [hs] at h
    dsimp only at h
    split at h <;> cases h
  | headersDone => simp [hs] at h

/-- The line of a header that has been noted. -/
theorem requestOf_concat (first : Bytes) (middle : List Bytes) (line : Bytes) :
    requestOf (first :: (middle ++ [line])) = Upgrade.note (requestOf (first :: middle)) line := by
  unfold Upgrade.note
  split
  · rename_i hup
    simp [requestOf, hup, Upgrade.after?_keyHeader hup]
  · rename_i hup
    cases hk : after? Upgrade.keyHeader line with
    | none => simp [requestOf, hup, hk]
    | some key => simp [requestOf, hup, hk]

/-- A line that continues a header is noted with those before it. -/
theorem Session.HeaderSoFar.request {up : Upgrade} {segments : List Bytes} {line : Bytes}
    (hh : HeaderSoFar up.stage segments) (hr : up.request = requestOf (segments.map lineOf))
    (hc : (up.feed line).1 = .continue) :
    (up.feed line).2.request = requestOf (segments.map lineOf ++ [line]) := by
  obtain ⟨stage, request⟩ := up
  subst hr
  generalize hstage : stage = now at hh
  cases hh with
  | empty =>
    subst hstage
    cases ha : after? Upgrade.requestFront line with
    | none => simp [Upgrade.feed, ha] at hc
    | some target =>
      obtain rfl := after?_eq_some_iff.1 ha
      simp [Upgrade.feed, ha, requestOf]
  | lines =>
    subst hstage
    cases line with
    | nil => simp [Upgrade.feed] at hc
    | cons b rest =>
      rw [List.map_cons, List.cons_append, requestOf_concat]
      simp [Upgrade.feed]

/-! ### Headers at the front -/

/-- A header at the front of a byte string is cut like the rest of it. -/
theorem IsHeader.segmented {head data : Bytes} (hh : IsHeader head) (hp : head <+: data)
    {segments : List Bytes} {tail : Bytes} (hd : Segmented data segments tail) :
    ∃ first middle last more, segments = first :: middle ++ last :: more ∧
      Upgrade.requestFront <+: lineOf first ∧
      lineOf last = [] := by
  obtain ⟨first, middle, last, rfl, hall, hfirst, -, hlast⟩ := hh
  obtain ⟨rest, rfl⟩ := hp
  obtain ⟨more, tail', hrest⟩ := exists_segmented rest
  obtain ⟨rfl, -⟩ := hd.unique (.append _ hall rfl hrest)
  exact ⟨first, middle, last, more, by simp, hfirst, hlast⟩

/-- The beginning of a header is no header. -/
theorem Session.HeaderSoFar.headless {stage : Stage} {segments : List Bytes}
    (hh : HeaderSoFar stage segments) (hwhole : ∀ segment ∈ segments, IsSegment segment)
    {tail data : Bytes} (hd : data = segments.flatten ++ tail) (ht : Unended tail) :
    Headless data := by
  intro head hhead hprefix
  have hcut := Segmented.append segments hwhole hd (.tail ht)
  rw [List.append_nil] at hcut
  obtain ⟨first, middle, last, more, rfl, -, hlast⟩ := hhead.segmented hprefix hcut
  cases hh with
  | lines _ hmiddle => exact hmiddle last (by simp) hlast

/-- What does not begin with a request begins with no header. -/
theorem headless_of_refused {segment rest : Bytes} (hs : IsSegment segment)
    (hr : ¬ Upgrade.requestFront <+: lineOf segment) : Headless (segment ++ rest) := by
  intro head hhead hprefix
  obtain ⟨segments, tail, hrest⟩ := exists_segmented rest
  obtain ⟨first, middle, last, more, heq, hfirst, -⟩ := hhead.segmented hprefix (.cut hs hrest)
  rw [List.cons_append] at heq
  obtain ⟨rfl, -⟩ := List.cons.inj heq
  exact hr hfirst

theorem IsHeaderFor.isHeader {head : Bytes} {request : Request} (hh : IsHeaderFor head request) :
    IsHeader head := by
  obtain ⟨first, middle, last, rfl, hall, hfirst, hmiddle, hlast, -⟩ := hh
  refine ⟨first, middle, last, rfl, hall, hfirst, hmiddle, ?_⟩
  rcases hlast with rfl | rfl <;> decide

namespace Session

variable {h : Handler σ} {state : σ} {d : Desk} {id conn : Nat} {hook : Hook} {past : List Event}
  {s : Session σ}

/-! ### Taking leave -/

/-- Nothing is left for the worker but to take the connection down. -/
inductive Parting (s : Session σ) : Prop
  | spent : s.worker.phase = .serving → s.desk.outlet.framed = false → s.worker.drained = true →
      s.worker.buffer = [] → Parting s
  | finished (cause : Option Ending) : s.worker.phase = .finished cause → Parting s
  | gone : s.isGone = true → Parting s

theorem parting_ask (hl : Living id conn hook past s) (hp : Parting s) :
    Parting s.ask.value ∧ ∀ e ∈ s.ask.events, e.isIdle = true ∧ e.isRead = false := by
  cases hl with
  | gone misuse hid hphase ht =>
    rw [ask_gone (.gone misuse hid hphase ht) (by rw [isGone, hphase])]
    exact ⟨hp, by simp⟩
  | held hh =>
    refine ⟨?_, fun e he => ?_⟩
    · have hworker := worker_ask s
      cases hp with
      | spent hs hf hd hb =>
        exact .spent (hworker ▸ hs) ((congrArg Outlet.framed (outlet_ask s)).trans hf)
          (hworker ▸ hd) (hworker ▸ hb)
      | finished cause hs => exact .finished cause (hworker ▸ hs)
      | gone hgone =>
        rw [isGone, ← hworker] at hgone
        exact .gone hgone
    · have hfarewell := asked_farewell hh.toAttending e he
      exact ⟨isIdle_of_isFarewell hfarewell, isRead_of_isFarewell hfarewell⟩

/-- Whatever happens while a connection is taking leave, the handler is told nothing and the
client is sent nothing. -/
theorem parting_meet (hl : Living id conn hook past s) (hp : Parting s) (occasion : Occasion) :
    Parting (s.meet h occasion).value ∧
      ∀ e ∈ (s.meet h occasion).events, e.isIdle = true ∧ e.isRead = false := by
  cases hg : s.isGone with
  | true =>
    rw [meet_gone hl hg]
    exact ⟨.gone hg, by simp⟩
  | false =>
    cases occasion with
    | ask => exact parting_ask hl hp
    | work thread =>
      simp only [meet]
      cases hp with
      | spent hs hf hd hb =>
        rw [step_spent h thread hs hf hd hb, conclude_eq hs]
        exact ⟨.finished none rfl, by simp⟩
      | finished cause hs =>
        cases hl with
        | gone misuse _ hphase => simp [hs] at hphase
        | held hh =>
          rw [step_finished h thread (hh.number ▸ hh.told) hs]
          refine ⟨.gone rfl, List.forall_mem_cons.2 ⟨⟨rfl, rfl⟩, fun e he => ?_⟩⟩
          rcases closing_cases e he with hfarewell | hdestroyed
          · exact ⟨isIdle_of_isFarewell hfarewell, isRead_of_isFarewell hfarewell⟩
          · exact ⟨isIdle_of_isDestroyed hdestroyed, isRead_of_isDestroyed hdestroyed⟩
      | gone hgone => simp [hg] at hgone
    | drop =>
      simp only [meet]
      split
      · rename_i hfresh
        cases hp with
        | spent hs | finished cause hs => simp [hs] at hfresh
        | gone hgone => simp [hg] at hgone
      · exact ⟨hp, by simp⟩

theorem parting_life (hl : Living id conn hook past s) (hp : Parting s)
    (occasions : List Occasion) :
    Parting (s.life h occasions).value ∧
      ∀ e ∈ (s.life h occasions).events, e.isIdle = true ∧ e.isRead = false := by
  induction occasions generalizing past s with
  | nil => exact ⟨hp, by simp [life]⟩
  | cons occasion rest ih =>
    obtain ⟨hfirst, hquiet⟩ := parting_meet (h := h) hl hp occasion
    obtain ⟨hlast, hlater⟩ := ih (living_meet h occasion hl) hfirst
    exact ⟨hlast, List.forall_mem_append.2 ⟨hquiet, hlater⟩⟩

/-! ### What holds before a header has come in -/

/-- A connection that was not answered: the handler was told nothing, the client was sent
nothing but a refusal, and no header has come in. -/
structure Unanswered (past : List Event) : Prop where
  refused : ∀ e ∈ past, Outlet.Offers notImplemented e
  headless : Headless (received past)

/-- The worker has read lines, the beginning of a header, and noted what they ask for, from the
desk `d` on; nothing else has happened, and no read was begun after a header had come in. -/
structure Reading (state : σ) (d : Desk) (id : Nat) (hook : Hook) (past : List Event)
    (segments : List Bytes) (s : Session σ) : Prop extends AtLines .webSocket id hook past s where
  outlet : s.desk.outlet = d.outlet
  moved : Desk.Moves isWork d past s.desk
  phase : s.worker.phase = .fresh ∨ s.worker.phase = .serving
  state : s.worker.state = state
  whole : ∀ segment ∈ segments, IsSegment segment
  received : received past = segments.flatten ++ s.worker.buffer
  header : HeaderSoFar s.worker.upgrade.stage segments
  request : s.worker.upgrade.request = requestOf (segments.map lineOf)
  quiet : ∀ e ∈ past, e.isIdle = true
  reads : AtReads (fun before => Headless (Event.received before)) past

/-- What holds of a connection before it is answered. -/
inductive Approaching (state : σ) (d : Desk) (id : Nat) (hook : Hook) (past : List Event)
    (s : Session σ) : Prop
  | reading (segments : List Bytes) : Reading state d id hook past segments s →
      Approaching state d id hook past s
  | parting : Parting s → Unanswered past → Approaching state d id hook past s

/-- The next step of the worker takes the end of a header out of its buffer; up to now the
handler was told nothing and the client was sent nothing. -/
structure AtHeader (h : Handler σ) (state : σ) (d : Desk) (id : Nat) (hook : Hook)
    (past : List Event) (request : Request) (s : Session σ) : Prop
    extends AtLines .webSocket id hook past s where
  outlet : s.desk.outlet = d.outlet
  moved : Desk.Moves isWork d past s.desk
  phase : s.worker.phase = .serving
  state : s.worker.state = state
  quiet : ∀ e ∈ past, e.isIdle = true
  reads : AtReads (fun before => Headless (Event.received before)) past
  step : ∃ head rest stage, IsHeaderFor head request ∧ Event.received past = head ++ rest ∧
    ∀ thread, s.step h thread =
      changeOver h ⟨{ s.worker with buffer := rest, upgrade := ⟨stage, request⟩ }, s.desk⟩

/-! ### One step -/

/-- A read is begun, waits and brings something, or nothing: that is all. -/
theorem idle_fill (ha : Attending id hook past s) (hs : s.worker.phase = .serving)
    (hd : s.worker.drained = false) :
    ∀ e ∈ s.fill.events, e.isIdle = true := by
  have hbegun : ∀ e ∈ s.readEvents, e.isIdle = true :=
    List.forall_mem_append.2 ⟨fun e he => isIdle_of_isFarewell (awaited_farewell ha.ready e he),
    by simp [isIdle]⟩
  rcases (filled ha hs hd).1.noted with hevents | ⟨note, hevents, hnote⟩
  · rw [hevents]
    exact hbegun
  · rw [hevents]
    exact List.forall_mem_append.2 ⟨hbegun, List.forall_mem_singleton.2 (isIdle_of_isRead hnote)⟩

theorem Unanswered.append (hu : Unanswered past) {events : List Event}
    (hidle : ∀ e ∈ events, e.isIdle = true) (hread : ∀ e ∈ events, e.isRead = false) :
    Unanswered (past ++ events) := by
  refine ⟨List.forall_mem_append.2 ⟨hu.refused, fun e he => .inl (hidle e he)⟩, ?_⟩
  rw [received_unread hread]
  exact hu.headless

namespace Reading

variable {segments : List Bytes}

/-- While no line is in the buffer, no header has come in. -/
theorem headless (hr : Reading state d id hook past segments s)
    (hnext : next? s.worker.buffer = none) :
    Headless (Event.received past) :=
  hr.header.headless hr.whole hr.received (next?_eq_none_iff.1 hnext)

theorem unanswered (hr : Reading state d id hook past segments s)
    (hnext : next? s.worker.buffer = none) :
    Unanswered past :=
  ⟨fun e he => .inl (hr.quiet e he), hr.headless hnext⟩

/-- A line is refused: it is the first, and asks for nothing. -/
theorem refused (hr : Reading state d id hook past segments s) {line rest : Bytes}
    {cause : Violation} (hs : s.worker.phase = .serving)
    (hfeed : (s.worker.upgrade.feed line).1 = .reject cause)
    (hheadless : segments = [] → ¬ Upgrade.requestFront <+: line → Headless (Event.received past)) :
    Approaching state d id hook (past ++ (s.line h line rest).events)
      (s.line h line rest).value := by
  obtain ⟨hstage, hfront⟩ := Upgrade.feed_reject hfeed
  have hnone : segments = [] := by
    have hheader := hr.header
    rw [hstage] at hheader
    cases hheader
    rfl
  have hsent : Desk.Moves isOutput s.desk (s.desk.transmit (Outlet.send notImplemented)).events _ :=
    Desk.moves_transmit hr.ready [notImplemented] notImplemented
  have hnothing := received_of_isRead
    (hsent.each (fun _ => isRead_of_isOutput) (fun _ => isRead_of_isFarewell) hr.ready)
  rw [line_webSocket h hr.mode,
    request_eq (s := ⟨{ s.worker with buffer := rest }, s.desk⟩) h hr.ready.unreleased hs]
  simp only [hfeed]
  refine .parting (.finished _ rfl) ⟨?_, ?_⟩
  · exact List.forall_mem_append.2 ⟨fun e he => .inl (hr.quiet e he),
      Desk.offered_transmit hr.ready notImplemented⟩
  · rw [received_append, hnothing, List.append_nil]
    exact hheadless hnone hfront

/-- A line asks for something, or is one of a header: more of it is to come. -/
theorem noted (hr : Reading state d id hook past segments s) {segment rest : Bytes}
    (hs : s.worker.phase = .serving) (hsegment : IsSegment segment)
    (hbuffer : s.worker.buffer = segment ++ rest)
    (hfeed : (s.worker.upgrade.feed (lineOf segment)).1 = .continue) :
    Reading state d id hook (past ++ (s.line h (lineOf segment) rest).events)
      (segments ++ [segment])
      (s.line h (lineOf segment) rest).value := by
  rw [line_webSocket h hr.mode,
    request_eq (s := ⟨{ s.worker with buffer := rest }, s.desk⟩) h hr.ready.unreleased hs]
  simp only [hfeed, Traced.events_pure, List.append_nil]
  exact
    { hr.stays rfl rfl with
      outlet := hr.outlet
      moved := hr.moved
      phase := .inr hs
      state := hr.state
      whole := List.forall_mem_append.2 ⟨hr.whole, by simpa using hsegment⟩
      received := by
        rw [hr.received, hbuffer]
        simp
      header := hr.header.continue hfeed
      request := by
        rw [List.map_append]
        exact hr.header.request hr.request hfeed
      quiet := hr.quiet
      reads := hr.reads }

/-- An empty line ends the header. -/
theorem ended (hr : Reading state d id hook past segments s) {segment rest : Bytes}
    (hs : s.worker.phase = .serving) (hsegment : IsSegment segment)
    (hbuffer : s.worker.buffer = segment ++ rest)
    (hstep : ∀ thread, s.step h thread = s.line h (lineOf segment) rest)
    (hfeed : (s.worker.upgrade.feed (lineOf segment)).1 = .headersDone) :
    AtHeader h state d id hook past s.worker.upgrade.request s := by
  obtain ⟨hstage, hempty⟩ := Upgrade.feed_headersDone hfeed hr.header.ne_headersDone
  have hheader := hr.header
  have hall : ∀ t ∈ segments ++ [segment], IsSegment t :=
    List.forall_mem_append.2 ⟨hr.whole, by simpa using hsegment⟩
  have hfed : (s.worker.upgrade.feed (lineOf segment)).2 =
      ⟨.headersDone, s.worker.upgrade.request⟩ := by
    simp [Upgrade.feed, hstage, hempty]
  rw [hstage] at hheader
  cases hheader with
  | @lines first middle hfirst hmiddle =>
    refine
      { hr.toAtLines with
        outlet := hr.outlet
        moved := hr.moved
        phase := hs
        state := hr.state
        quiet := hr.quiet
        reads := hr.reads
        step := ⟨(first :: middle ++ [segment]).flatten, rest, .headersDone,
          ⟨first, middle, segment, rfl, hall, hfirst, hmiddle, lineOf_eq_nil hsegment hempty,
          hr.request⟩, ?_, ?_⟩ }
    · rw [hr.received, hbuffer]
      simp
    · intro thread
      rw [hstep, line_webSocket h hr.mode,
        request_eq (s := ⟨{ s.worker with buffer := rest }, s.desk⟩) h hr.ready.unreleased hs]
      simp only [hfeed, hfed]

/-- A read that lets the worker serve on. -/
theorem refilled (hr : Reading state d id hook past segments s) (hs : s.worker.phase = .serving)
    (hnext : next? s.worker.buffer = none) (hdrained : s.worker.drained = false)
    (hphase : s.fill.value.worker.phase = .serving) :
    Reading state d id hook (past ++ s.fill.events) segments s.fill.value := by
  obtain ⟨hfilled, -⟩ := filled hr.toAttending hs hdrained
  have hat := hr.moves (moves_fill hs).desk hfilled.mode (congrArg (·.outlet.framed) hfilled.desk)
  have hreads : AtReads (fun before => Headless (Event.received before))
      (past ++ s.fill.events) := by
    refine atReads_fill hr.toAttending hs hdrained hr.reads ?_
    rw [received_unread (isRead_awaited hr.ready)]
    exact hr.headless hnext
  exact
    { hat with
      outlet := (congrArg (·.outlet) hfilled.desk).trans hr.outlet
      moved := hr.moved.trans (moves_fill hs).desk
      phase := .inr hphase
      state := hfilled.state.trans hr.state
      whole := hr.whole
      received := by rw [received_append, hr.received, hfilled.buffer, List.append_assoc]
      header := hfilled.upgrade ▸ hr.header
      request := hfilled.upgrade ▸ hr.request
      quiet := List.forall_mem_append.2 ⟨hr.quiet, idle_fill hr.toAttending hs hdrained⟩
      reads := hreads }

theorem fill (hr : Reading state d id hook past segments s) (hs : s.worker.phase = .serving)
    (hnext : next? s.worker.buffer = none) (hdrained : s.worker.drained = false) :
    Approaching state d id hook (past ++ s.fill.events) s.fill.value := by
  obtain ⟨-, hrefilled⟩ := filled hr.toAttending hs hdrained
  cases hrefilled with
  | serving hphase => exact .reading segments (hr.refilled hs hnext hdrained hphase)
  | exhausted fault hphase hnone =>
    have hquiet := List.forall_mem_append.2 ⟨hr.quiet, idle_fill hr.toAttending hs hdrained⟩
    refine .parting (.finished _ hphase) ⟨fun e he => .inl (hquiet e he), ?_⟩
    rw [received_append, hnone, List.append_nil]
    exact hr.headless hnext
  | cut fault hframed =>
    rw [hr.unframed] at hframed
    cases hframed

/-- What an ended stream leaves is one more line of the request, the last; it is not empty, and
ends no header. -/
theorem tail (hr : Reading state d id hook past segments s) (hs : s.worker.phase = .serving)
    (hnext : next? s.worker.buffer = none) (hdrained : s.worker.drained = true) {data : Bytes}
    (hrest : remainder s.worker.buffer = some data) :
    Approaching state d id hook (past ++ (s.line h data []).events) (s.line h data []).value := by
  cases hfeed : (s.worker.upgrade.feed data).1 with
  | «continue» =>
    rw [line_webSocket h hr.mode,
      request_eq (s := ⟨{ s.worker with buffer := [] }, s.desk⟩) h hr.ready.unreleased hs]
    simp only [hfeed, Traced.events_pure, List.append_nil]
    exact .parting (.spent hs hr.unframed hdrained rfl) (hr.unanswered hnext)
  | headersDone =>
    obtain ⟨-, rfl⟩ := Upgrade.feed_headersDone hfeed hr.header.ne_headersDone
    simp [remainder] at hrest
  | reject cause => exact hr.refused hs hfeed fun _ _ => hr.headless hnext

/-- The worker starts: a WebSocket client is not announced yet. -/
theorem start (hr : Reading state d id hook past segments s) (hs : s.worker.phase = .fresh)
    (thread : Nat) :
    Reading state d id hook (past ++ (s.step h thread).events) segments
      (s.step h thread).value := by
  have hmoves := (moves_step h thread hr.ready (.inl hs)).desk
  rw [step_fresh h thread hs, start_webSocket h thread hr.mode] at hmoves ⊢
  exact
    { hr.toAtLines.moves hmoves rfl rfl with
      outlet := hr.outlet
      moved := hr.moved.trans hmoves
      phase := .inr rfl
      state := hr.state
      whole := hr.whole
      received := by rw [received_append, hr.received, received_log, List.append_nil]
      header := hr.header
      request := hr.request
      quiet := List.forall_mem_append.2 ⟨hr.quiet, by simp [isIdle]⟩
      reads := hr.reads.append_log _ }

/-- **One step before an answer** keeps what holds, unless it is the one that takes the end of a
header out of the buffer. -/
theorem step (hr : Reading state d id hook past segments s) (thread : Nat) :
    AtHeader h state d id hook past s.worker.upgrade.request s ∨
      Approaching state d id hook (past ++ (s.step h thread).events) (s.step h thread).value := by
  rcases hr.phase with hs | hs
  · exact .inr (.reading segments (hr.start hs thread))
  · have hstep : ∀ thread, s.step h thread = s.serveLines h :=
      fun thread => step_lines h thread hs hr.unframed
    cases hnext : next? s.worker.buffer with
    | some found =>
      obtain ⟨line, rest⟩ := found
      obtain ⟨segment, hsegment, hbuffer, rfl⟩ := next?_eq_some_iff.1 hnext
      have hline : ∀ thread, s.step h thread = s.line h (lineOf segment) rest := fun thread => by
        rw [hstep, serveLines_eq, hnext]
      cases hfeed : (s.worker.upgrade.feed (lineOf segment)).1 with
      | «continue» =>
        rw [hline]
        exact .inr (.reading _ (hr.noted hs hsegment hbuffer hfeed))
      | headersDone => exact .inl (hr.ended hs hsegment hbuffer hline hfeed)
      | reject cause =>
        rw [hline]
        refine .inr (hr.refused hs hfeed fun hnone hfront => ?_)
        rw [hr.received, hnone, hbuffer, List.flatten_nil, List.nil_append]
        exact headless_of_refused hsegment hfront
    | none =>
      rw [hstep, serveLines_eq, hnext]
      cases hdrained : s.worker.drained with
      | false => exact .inr (hr.fill hs hnext hdrained)
      | true =>
        cases hrest : remainder s.worker.buffer with
        | some data => exact .inr (hr.tail hs hnext hdrained hrest)
        | none =>
          simp only [if_true, conclude_eq hs, Traced.value_pure, Traced.events_pure,
            List.append_nil]
          exact .inr (.parting (.finished none rfl) (hr.unanswered hnext))

end Reading

/-! ### Whole lives -/

/-- A life with a step in the middle of it. -/
theorem events_life_work (h : Handler σ) (front : List Occasion) (thread : Nat)
    (back : List Occasion) (s : Session σ) :
    (s.life h (front ++ .work thread :: back)).events = (s.life h front).events ++
      (((s.life h front).value.step h thread).events ++
        (life h back ((s.life h front).value.step h thread).value).events) := by
  rw [life_append]
  rfl

theorem approach_ask (hl : Living id conn hook past s) (ha : Approaching state d id hook past s) :
    Approaching state d id hook (past ++ s.ask.events) s.ask.value := by
  cases ha with
  | reading segments hr =>
    have hquiet := asked_farewell hr.toAttending
    have hread : ∀ e ∈ s.ask.events, e.isRead = false :=
      fun e he => isRead_of_isFarewell (hquiet e he)
    have hworker := worker_ask s
    exact .reading segments
      { hr.toAtLines.asked with
        outlet := (outlet_ask s).trans hr.outlet
        moved := hr.moved.trans (moves_asked hr.toAttending isWork)
        phase := hworker ▸ hr.phase
        state := hworker ▸ hr.state
        whole := hr.whole
        received := by rw [received_unread hread, hworker, hr.received]
        header := hworker ▸ hr.header
        request := hworker ▸ hr.request
        quiet := List.forall_mem_append.2 ⟨hr.quiet, fun e he => isIdle_of_isFarewell (hquiet e he)⟩
        reads := hr.reads.append hread }
  | parting hp hu =>
    obtain ⟨hparting, hquiet⟩ := parting_ask hl hp
    exact .parting hparting (hu.append (fun e he => (hquiet e he).1) fun e he => (hquiet e he).2)

/-- **A connection on the way to its answer** stays so, or comes to the end of a header. -/
theorem approach_life (occasions : List Occasion) (hrun : ∀ occasion ∈ occasions, occasion ≠ .drop)
    (hl : Living id conn hook past s) (ha : Approaching state d id hook past s) :
    Approaching state d id hook (past ++ (s.life h occasions).events) (s.life h occasions).value ∨
      ∃ front thread back request, occasions = front ++ .work thread :: back ∧
        AtHeader h state d id hook (past ++ (s.life h front).events) request
          (s.life h front).value := by
  induction occasions generalizing past s with
  | nil => exact .inl (by simpa [life] using ha)
  | cons occasion rest ih =>
    have hstep : (∃ thread request, occasion = .work thread ∧
        AtHeader h state d id hook past request s) ∨
        Approaching state d id hook (past ++ (s.meet h occasion).events)
        (s.meet h occasion).value := by
      cases occasion with
      | ask => exact .inr (approach_ask hl ha)
      | drop => exact absurd rfl (hrun .drop (List.mem_cons_self ..))
      | work thread =>
        cases ha with
        | reading segments hr => exact (hr.step thread).imp_left fun hat => ⟨thread, _, rfl, hat⟩
        | parting hp hu =>
          obtain ⟨hparting, hquiet⟩ := parting_meet (h := h) hl hp (.work thread)
          exact .inr (.parting hparting (hu.append (fun e he => (hquiet e he).1) fun e he =>
            (hquiet e he).2))
    rcases hstep with ⟨thread, request, rfl, hat⟩ | hnext
    · exact .inr ⟨[], thread, rest, request, rfl, by simpa [life] using hat⟩
    · have hlater := ih (fun o ho => hrun o (List.mem_cons_of_mem _ ho))
        (living_meet h occasion hl) hnext
      have hlife : ∀ front, s.life h (occasion :: front) =
          ⟨((s.meet h occasion).value.life h front).value,
            (s.meet h occasion).events ++ ((s.meet h occasion).value.life h front).events⟩ :=
            fun _ => rfl
      rw [hlife, ← List.append_assoc]
      refine hlater.imp_right ?_
      rintro ⟨front, thread, back, request, rfl, hat⟩
      refine ⟨occasion :: front, thread, back, request, rfl, ?_⟩
      rw [hlife, ← List.append_assoc]
      exact hat

/-! ### The answer -/

/-- The events of telling the handler of a client that has sent its header. -/
def told (h : Handler σ) (state : σ) (d : Desk) (request : Request) : List Event :=
  .connected d.id d.link.status (some request) ::
    (d.perform (h.connected state (some request)).acts).events

/-- The handler goes on, and the header has asked for the upgrade. -/
def Upgrades (h : Handler σ) (state : σ) (request : Request) : Prop :=
  (h.connected state (some request)).flow = .continue ∧ request.upgrade = true

variable {request : Request}

/-- The handler is told, the upgrade is sent and noted, and frames follow. -/
theorem AtHeader.upgraded (ha : AtHeader h state d id hook past request s)
    (hu : Upgrades h state request) (thread : Nat) :
    let w := s.desk.perform (h.connected state (some request)).acts
    let answered :=
      w.value.desk.transmit (Outlet.send (Bytes.ofText (switchingProtocols request.key)))
    ∃ head rest stage, IsHeaderFor head request ∧ received past = head ++ rest ∧ s.step h thread =
      ⟨⟨{ s.worker with
            state := (h.connected state (some request)).state, buffer := rest,
            upgrade := ⟨stage, request⟩ },
          { answered.value.desk with
            outlet := { answered.value.desk.outlet with framed := true } }⟩,
        told h state s.desk request ++ answered.events ++
          [.log (.upgraded answered.value.desk.outlet.conn request.path stage)]⟩ := by
  obtain ⟨head, rest, stage, hheader, hreceived, hstep⟩ := ha.step
  obtain rfl := ha.state
  let v : Session σ := ⟨{ s.worker with buffer := rest, upgrade := ⟨stage, request⟩ }, s.desk⟩
  refine ⟨head, rest, stage, hheader, hreceived, ?_⟩
  rw [hstep, changeOver_eq (s := v) h ha.ready.unreleased ha.phase]
  simp only [v, hu.1, hu.2, if_true]
  rfl

/-- The answer reads nothing, and gives the handler no message. -/
theorem AtHeader.answer_quiet (ha : AtHeader h state d id hook past request s)
    (hu : Upgrades h state request) (thread : Nat) :
    received (s.step h thread).events = [] ∧ messages (s.step h thread).events = [] := by
  have hacts := Desk.moves_perform ha.ready (h.connected state (some request)).acts
  have hnone := hacts.quiet (fun _ => isInput_of_isOutput) ha.ready
  have hsent :=
    (Desk.moves_transmit (hacts.ready ha.ready) [Bytes.ofText (switchingProtocols request.key)]
    (Bytes.ofText (switchingProtocols request.key))).quiet (fun _ => isInput_of_isOutput)
    (hacts.ready ha.ready)
  obtain ⟨head, rest, stage, -, -, hstep⟩ := ha.upgraded hu thread
  rw [hstep, told, ← List.singleton_append]
  refine ⟨?_, ?_⟩
  · rw [received_append, received_append, received_append, received_of_quiet hnone]
    exact congrArg ([] ++ [] ++ · ++ []) (received_of_quiet hsent)
  · rw [messages_append, messages_append, messages_append, messages_of_quiet hnone]
    exact congrArg ([] ++ [] ++ · ++ []) (messages_of_quiet hsent)

/-- After the answer the worker serves frames; what has been read is the header and the buffer. -/
theorem AtHeader.framed (ha : AtHeader h state d id hook past request s)
    (hu : Upgrades h state request) (thread : Nat) :
    let u := (s.step h thread).value
    Attending id hook (past ++ (s.step h thread).events) u ∧ u.desk.outlet.framed = true ∧
      u.worker.phase = .serving ∧
      ∃ head, IsHeaderFor head request ∧ received (past ++ (s.step h thread).events) =
        head ++ u.worker.buffer := by
  have hmoves := (moves_step h thread ha.ready (.inr ha.phase)).desk
  obtain ⟨head, rest, stage, hheader, hreceived, hstep⟩ := ha.upgraded hu thread
  refine ⟨ha.toAttending.moves hmoves,
    by rw [hstep], by rw [hstep]; exact ha.phase, head, hheader, ?_⟩
  rw [received_append, (ha.answer_quiet hu thread).1, List.append_nil, hreceived, hstep]

/-- The handler is told, and the connection ends. -/
theorem AtHeader.declined (ha : AtHeader h state d id hook past request s)
    (hu : ¬ Upgrades h state request) (thread : Nat) :
    (s.step h thread).events = told h state s.desk request ∧ Parting (s.step h thread).value := by
  obtain ⟨head, rest, stage, -, -, hstep⟩ := ha.step
  obtain rfl := ha.state
  let v : Session σ := ⟨{ s.worker with buffer := rest, upgrade := ⟨stage, request⟩ }, s.desk⟩
  rw [hstep, changeOver_eq (s := v) h ha.ready.unreleased ha.phase]
  cases hflow : (h.connected s.worker.state (some request)).flow with
  | abort reason log => exact ⟨rfl, .finished _ rfl⟩
  | «continue» =>
    have hnot : ¬ request.upgrade = true := fun hup => hu ⟨hflow, hup⟩
    simp only [v, if_neg hnot]
    exact ⟨rfl, .finished _ rfl⟩

/-! ### The upgrade in a run -/

theorem steps_eq_life (h : Handler σ) (thread count : Nat) (s : Session σ) :
    s.steps h thread count = s.life h (List.replicate count (.work thread)) := by
  induction count generalizing s with
  | zero => rfl
  | succ count ih => simp only [steps, List.replicate_succ, life, meet, ih]

/-- An accepted client has sent nothing yet. -/
theorem Accepted.reading {readSize : Nat} {t : Transport}
    (ha : Accepted .webSocket readSize state t s) :
    Reading state s.desk s.desk.id t.hook [] [] s where
  toAtLines := ha.atLines
  outlet := rfl
  moved := .refl _
  phase := .inl (by rw [ha.worker])
  state := by rw [ha.worker]
  whole := by simp
  received := by rw [ha.worker]; rfl
  header := by rw [ha.worker]; exact .empty
  request := by rw [ha.worker]; rfl
  quiet := by simp
  reads := atReads_nil

theorem isUpgraded_of_offers {part : Bytes} {e : Event} (h : Outlet.Offers part e) :
    e.isUpgraded = false := by
  rcases h with hidle | ⟨_, _, _, rfl, -⟩
  · exact isUpgraded_of_isIdle hidle
  · rfl

/-- **If a connection is upgraded in a run**, its worker comes to the end of a header, and the
request is answered by the upgrade. -/
theorem upgrade_in_run (thread : Nat) (hl : Living id conn hook [] s)
    (hr : Reading state d id hook [] [] s) (hup : (s.run h thread).events.any isUpgraded = true) :
    ∃ front v request, AtHeader h state d id hook front request v ∧ Upgrades h state request ∧
      let u := v.step h thread
      s.run h thread = ⟨(u.value.run h thread).value,
        front ++ (u.events ++ (u.value.run h thread).events)⟩ := by
  obtain ⟨e, he, hupgraded⟩ := List.any_eq_true.1 hup
  obtain ⟨n, hrun⟩ := run_eq_life h thread s
  have hgone := isGone_run h thread s
  rw [hrun] at he hgone
  have hwork : ∀ occasion ∈ List.replicate n (Occasion.work thread), occasion ≠ .drop :=
    fun o ho => by
    rw [List.eq_of_mem_replicate ho]
    simp
  rcases approach_life (h := h) _ hwork hl (.reading [] hr)
    with hend | ⟨front, thread', back, request, hsplit, hat⟩
  · rw [List.nil_append] at hend
    cases hend with
    | reading _ hr => rcases hr.phase with hphase | hphase <;> simp [isGone, hphase] at hgone
    | parting _ hu => cases (isUpgraded_of_offers (hu.refused e he)).symm.trans hupgraded
  · obtain ⟨-, hfront, hback⟩ := List.replicate_eq_append_iff.1 hsplit
    obtain rfl : thread' = thread := by
      have := List.eq_of_mem_replicate (hback ▸ List.mem_cons_self ..)
      cases this
      rfl
    rw [List.nil_append] at hat
    have hsteps := steps_eq_life h thread' front.length s
    have hwhole := run_steps h thread' front.length s
    rw [← hfront] at hsteps
    have hnext : (s.life h front).value.isGone = false := by rw [isGone, hat.phase]
    rw [hsteps, run_step hnext] at hwhole
    refine ⟨_, _, request, hat, ?_, hwhole⟩
    by_contra hnot
    obtain ⟨htold, hparting⟩ := hat.declined hnot thread'
    have hliving := living_work h thread' (living_life h front hl)
    have hquiet := (parting_life (h := h) hliving hparting back).2
    rw [hsplit, events_life_work, htold, told] at he
    have hnone : e.isUpgraded = false := by
      rcases List.mem_append.1 he with he | he
      · exact isUpgraded_of_isIdle (hat.quiet e he)
      · rcases List.mem_append.1 he with he | he
        · rcases List.mem_cons.1 he with rfl | he
          · rfl
          · exact isUpgraded_of_perform hat.ready _ e he
        · exact isUpgraded_of_isIdle (hquiet e he).1
    cases hnone.symm.trans hupgraded

end Session
end NetShell
