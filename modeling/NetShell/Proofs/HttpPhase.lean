import Mathlib.Data.List.TakeWhile
import NetShell.Proofs.Callbacks
import NetShell.Proofs.Endings
import NetShell.Proofs.ReadSchedule
import NetShell.Proofs.ShellFrames

/-! How the shell answers over HTTP.

What a client is answered before any frame hangs on the lines of all that it sends, and on
what the end of its stream leaves (`answerTo`): nothing, a refusal, one of two pages, or the
upgrade. How its bytes come in does not matter. While it is listened to (`Session.Listening`),
the bytes received and those still to come are its stream; so when the worker comes to a line
that it refuses, to the end of the header or to the end of the stream, that line is the one
that `answerTo` means (`Session.Listening.step`). The shell never goes on with a client that
has not asked for the upgrade, so no connection of its ends for the lack of it
(`Session.http_phase`). -/
namespace NetShell
open WebSocket Event Telnet

variable {σ : Type}

/-! ### The answer that lines call for -/

/-- What a client of the shell is answered before any frame. -/
inductive Answer
  /-- nothing -/
  | silence
  /-- the first line asks for nothing that is known -/
  | refusal
  /-- there is no shell at the path -/
  | missing (request : Request)
  /-- a browser is shown a page -/
  | page (request : Request)
  | upgrade (request : Request)
  deriving DecidableEq

namespace Answer

/-- The answer to a whole header. -/
def ofRequest (request : Request) : Answer :=
  if request.path ≠ "/" ∧ request.path ≠ "/shell" then missing request
  else if request.upgrade then upgrade request
  else page request

/-- What the client is sent. -/
def bytes : Answer → Bytes
  | silence => []
  | refusal => notImplemented
  | missing _ => Shell.notFound
  | page _ => Shell.plainPage
  | upgrade request => Bytes.ofText (switchingProtocols request.key)

/-- What the shell is told. -/
def told : Answer → List Callback
  | silence | refusal => []
  | missing request | page request | upgrade request => [.connected (some request)]

/-- Frames follow. -/
def isUpgrade : Answer → Bool
  | upgrade _ => true
  | _ => false

theorem told_ofRequest (request : Request) :
    (ofRequest request).told = [.connected (some request)] := by
  unfold ofRequest
  split
  · rfl
  · split <;> rfl

end Answer

/-- The answer to the lines of a stream and what its end leaves. The first of them, which may be
what the end leaves, has to be a request line; a line that its newline leaves empty ends the
header. -/
def answerTo (lines : List Bytes) (tail : Bytes) : Answer :=
  match lines ++ lastLine tail with
  | [] => .silence
  | first :: _ =>
    if !Upgrade.requestFront.isPrefixOf first then .refusal
    else if [] ∉ lines then .silence
    else .ofRequest (requestOf (lines.takeWhile fun line => !line.isEmpty))

theorem answerTo_refusal {lines : List Bytes} {tail first : Bytes} {rest : List Bytes}
    (h : lines ++ lastLine tail = first :: rest) (hf : ¬ Upgrade.requestFront <+: first) :
    answerTo lines tail = .refusal := by
  have hnot : Upgrade.requestFront.isPrefixOf first = false := by
    simpa [← List.isPrefixOf_iff_prefix] using hf
  simp [answerTo, h, hnot]

theorem answerTo_silence {lines : List Bytes} {tail : Bytes} (hnone : [] ∉ lines)
    (hfirst : ∀ first rest, lines ++ lastLine tail = first :: rest →
      Upgrade.requestFront <+: first) :
    answerTo lines tail = .silence := by
  cases h : lines ++ lastLine tail with
  | nil => simp [answerTo, h]
  | cons first rest =>
    have hyes := List.isPrefixOf_iff_prefix.2 (hfirst first rest h)
    simp [answerTo, h, hyes, hnone]

theorem answerTo_header {first tail : Bytes} {middle more : List Bytes}
    (hf : Upgrade.requestFront <+: first) (hm : ∀ line ∈ middle, line ≠ []) :
    answerTo (first :: middle ++ [] :: more) tail = .ofRequest (requestOf (first :: middle)) := by
  have hne : first ≠ [] := by
    rintro rfl
    exact absurd hf (by decide +kernel)
  have hhead : (first :: middle ++ [] :: more).takeWhile (fun line => !line.isEmpty) =
      first :: middle := by
    have hall : ∀ line ∈ first :: middle, (!line.isEmpty) = true :=
      List.forall_mem_cons.2 ⟨by simpa using hne, fun line hl => by simpa using hm line hl⟩
    rw [List.takeWhile_append_of_pos hall]
    simp
  rw [answerTo]
  dsimp only [List.cons_append] at hhead ⊢
  rw [if_neg (by simp [List.isPrefixOf_iff_prefix.2 hf]), if_neg (by simp), hhead]

/-- A header at the front of a stream calls for its answer. -/
theorem IsHeaderFor.answer {head rest tail : Bytes} {request : Request} {segments : List Bytes}
    (hh : IsHeaderFor head request) (hcut : Segmented (head ++ rest) segments tail) :
    answerTo (segments.map lineOf) tail = .ofRequest request := by
  obtain ⟨first, middle, last, rfl, hall, hfirst, hmiddle, hlast, rfl⟩ := hh
  obtain ⟨more, tail', hrest⟩ := exists_segmented rest
  obtain ⟨rfl, rfl⟩ := hcut.unique (.append _ hall rfl hrest)
  have hempty : lineOf last = [] := by
    rcases hlast with rfl | rfl
    · decide
    · decide
  have hlines : (first :: middle ++ [last] ++ more).map lineOf =
      lineOf first :: middle.map lineOf ++ [] :: more.map lineOf := by
    simp [hempty]
  rw [hlines, answerTo_header hfirst (by simpa using hmiddle), List.map_cons]

/-- A stream that is the beginning of a header, and what its end leaves is not refused, calls for no
answer. -/
theorem Session.HeaderSoFar.silence {stage : Stage} {segments : List Bytes} {tail : Bytes}
    (hh : HeaderSoFar stage segments)
    (hlast : segments = [] → ∀ line ∈ lastLine tail, Upgrade.requestFront <+: line) :
    answerTo (segments.map lineOf) tail = .silence := by
  cases hh with
  | empty =>
    refine answerTo_silence (by simp) fun first rest heq => hlast rfl first ?_
    have heq' : lastLine tail = first :: rest := heq
    simp [heq']
  | @lines first middle hfirst hmiddle =>
    refine answerTo_silence ?_ fun line rest heq => ?_
    · intro hmem
      obtain ⟨segment, hs, hnil⟩ := List.mem_map.1 hmem
      rcases List.mem_cons.1 hs with rfl | hs
      · rw [hnil] at hfirst
        exact absurd hfirst (by decide +kernel)
      · exact hmiddle segment hs hnil
    · obtain ⟨rfl, -⟩ := List.cons.inj heq
      exact hfirst

/-- A desk whose transport takes what it is offered. -/
structure Desk.Serviceable (d : Desk) : Prop where
  ready : d.Ready
  willing : d.Willing
  fair : d.link.Fair

namespace Session

variable {h : Handler σ} {state : σ} {d : Desk} {id conn : Nat} {hook : Hook} {stream : Bytes}
  {past : List Event}
  {segments : List Bytes} {s : Session σ}

/-! ### What holds while a client is listened to -/

/-- The worker reads the beginning of a header. What has been received and what is still to come
is the client's stream, and nobody has asked for the connection's end. -/
structure Listening (stream : Bytes) (state : σ) (d : Desk) (id : Nat) (hook : Hook)
    (past : List Event) (segments : List Bytes) (s : Session σ) : Prop
    extends Reading state d id hook past segments s where
  unasked : asked id past = false
  coming : ∃ rest, s.worker.Awaits rest ∧ stream = segments.flatten ++ s.worker.buffer ++ rest

/-- What a client was sent before any frame, and what the handler was told, is an answer. -/
structure Replied (answer : Answer) (events : List Event) : Prop where
  told : callbacks events = answer.told
  unframed : ∀ e ∈ events, e.isUpgraded = false
  sent : accepted events = answer.bytes

/-- What a step comes to that answers a client and leaves nothing but to take the connection
down. -/
structure Dismissed (answer : Answer) (t : Traced (Session σ)) : Prop where
  parting : Parting t.value
  replied : Replied answer t.events
  last : answer.isUpgrade = false

theorem Replied.silence : Replied .silence [] := ⟨rfl, by simp, rfl⟩

/-- What is neither sent nor told makes no difference to the answer. -/
theorem Replied.idle {answer : Answer} {events before after : List Event}
    (hs : Replied answer events) (hb : ∀ e ∈ before, e.isIdle = true)
    (ha : ∀ e ∈ after, e.isIdle = true) :
    Replied answer (before ++ events ++ after) := by
  refine ⟨?_, List.forall_mem_append.2 ⟨List.forall_mem_append.2 ⟨?_, hs.unframed⟩, ?_⟩, ?_⟩
  · rw [callbacks_append, callbacks_append, callbacks_of_isIdle hb, callbacks_of_isIdle ha, hs.told]
    simp
  · exact fun e he => isUpgraded_of_isIdle (hb e he)
  · exact fun e he => isUpgraded_of_isIdle (ha e he)
  · rw [accepted_append, accepted_append, accepted_of_isIdle hb, accepted_of_isIdle ha, hs.sent]
    simp

namespace Listening

theorem free (hl : Listening stream state d id hook past segments s) :
    s.desk.link.status.isClosing = false :=
  hl.told.isClosing.trans hl.unasked

/-- The transport is open and takes what it is offered. -/
theorem serviceable (hl : Listening stream state d id hook past segments s) (hd : d.Serviceable) :
    s.desk.Willing ∧ s.desk.link.isOpen = true := by
  have hfair := Desk.fair_of_moves hd.ready hl.moved hd.fair
  refine ⟨?_, by rw [hfair.isOpen, hl.free]; rfl⟩
  rw [Desk.Willing, hl.outlet]
  exact hd.willing

/-- At the end of the stream everything has been received. -/
theorem spent (hl : Listening stream state d id hook past segments s)
    (hdrained : s.worker.drained = true) :
    stream = segments.flatten ++ s.worker.buffer := by
  obtain ⟨rest, ⟨-, rfl⟩ | ⟨hnot, -⟩, hstream⟩ := hl.coming
  · rw [hstream, List.append_nil]
  · cases hdrained.symm.trans hnot

theorem start (hl : Listening stream state d id hook past segments s) (hs : s.worker.phase = .fresh)
    (thread : Nat) :
    Listening stream state d id hook (past ++ (s.step h thread).events) segments
      (s.step h thread).value := by
  refine { hl.toReading.start hs thread with unasked := ?_, coming := ?_ }
  · rw [step_fresh h thread hs, start_webSocket h thread hl.mode, asked_append, hl.unasked]
    rfl
  · rw [step_fresh h thread hs, start_webSocket h thread hl.mode]
    exact hl.coming

theorem noted (hl : Listening stream state d id hook past segments s) {segment rest : Bytes}
    (hs : s.worker.phase = .serving) (hsegment : IsSegment segment)
    (hbuffer : s.worker.buffer = segment ++ rest)
    (hfeed : (s.worker.upgrade.feed (lineOf segment)).1 = .continue) :
    Listening stream state d id hook (past ++ (s.line h (lineOf segment) rest).events)
      (segments ++ [segment])
      (s.line h (lineOf segment) rest).value := by
  refine { hl.toReading.noted hs hsegment hbuffer hfeed with unasked := ?_, coming := ?_ }
  · rw [line_webSocket h hl.mode,
      request_eq (s := ⟨{ s.worker with buffer := rest }, s.desk⟩) h hl.ready.unreleased hs]
    simp only [hfeed, Traced.events_pure, List.append_nil]
    exact hl.unasked
  · obtain ⟨more, hawaits, hstream⟩ := hl.coming
    rw [line_webSocket h hl.mode,
      request_eq (s := ⟨{ s.worker with buffer := rest }, s.desk⟩) h hl.ready.unreleased hs]
    simp only [hfeed]
    refine ⟨more, hawaits, ?_⟩
    rw [hstream, hbuffer]
    simp

theorem fill (hl : Listening stream state d id hook past segments s)
    (hs : s.worker.phase = .serving) (hnext : next? s.worker.buffer = none)
    (hdrained : s.worker.drained = false) :
    Listening stream state d id hook (past ++ s.fill.events) segments s.fill.value := by
  obtain ⟨rest, ⟨hnot, -⟩ | ⟨-, budget, hcarries, hfew⟩, hstream⟩ := hl.coming
  · cases hdrained.symm.trans hnot
  · obtain ⟨hseen, -, ⟨rest', hawaits, hahead⟩ | ⟨hframed, -⟩⟩ :=
      fill_carries hl.ready hl.free hdrained hcarries hfew
    · have hphase := (Worker.ahead_inj hahead).2.trans hs
      have hbuffer : s.fill.value.worker.buffer ++ rest' =
          s.worker.buffer ++ rest := congrArg Worker.buffer hahead
      refine { hl.toReading.refilled hs hnext hdrained hphase with unasked := ?_, coming :=
        ⟨rest', hawaits, ?_⟩ }
      · rw [asked_append, hl.unasked, ← asked_seen id s.fill.events, hseen]
        rfl
      · rw [hstream, List.append_assoc, List.append_assoc, hbuffer]
    · cases hl.unframed.symm.trans hframed

/-- A line is refused: it is the first, and the client is told so. -/
theorem refused (hl : Listening stream state d id hook past segments s) (hd : d.Serviceable)
    {line : Bytes} {cause : Violation} (hs : s.worker.phase = .serving)
    (hfeed : (s.worker.upgrade.feed line).1 = .reject cause) (rest : Bytes) :
    segments = [] ∧ ¬ Upgrade.requestFront <+: line ∧ Dismissed .refusal (s.line h line rest) := by
  obtain ⟨hstage, hfront⟩ := Upgrade.feed_reject hfeed
  have hnone : segments = [] := by
    have hheader := hl.header
    rw [hstage] at hheader
    cases hheader
    rfl
  obtain ⟨hwilling, hopen⟩ := hl.serviceable hd
  have hoffered := Desk.offered_transmit hl.ready notImplemented
  have htaken := (Desk.transmit_willing hl.ready hwilling [notImplemented] notImplemented).1
  rw [hopen, if_pos rfl] at htaken
  refine ⟨hnone, hfront, ?_⟩
  rw [line_webSocket h hl.mode,
    request_eq (s := ⟨{ s.worker with buffer := rest }, s.desk⟩) h hl.ready.unreleased hs]
  simp only [hfeed]
  exact ⟨.finished _ rfl, ⟨callbacks_of_offers hoffered,
    fun e he => isUpgraded_of_offers (hoffered e he), htaken.trans (List.append_nil _)⟩, rfl⟩

variable {all : List Bytes} {tail : Bytes}

/-- The end of a header: the answer is to what that asks for. -/
theorem answer (hl : Listening stream state d id hook past segments s)
    (hcut : Segmented stream all tail) {request : Request}
    (ha : AtHeader h state d id hook past request s) :
    answerTo (all.map lineOf) tail = .ofRequest request := by
  obtain ⟨head, rest, stage, hheader, hreceived, -⟩ := ha.step
  obtain ⟨more, -, hstream⟩ := hl.coming
  rw [← hl.received, hreceived, List.append_assoc] at hstream
  exact hheader.answer (hstream ▸ hcut)

/-- The stream has ended, and no line is left but what its end leaves. -/
theorem drained (hl : Listening stream state d id hook past segments s) (hd : d.Serviceable)
    (hcut : Segmented stream all tail) (hs : s.worker.phase = .serving)
    (hnext : next? s.worker.buffer = none) (hdrained : s.worker.drained = true) :
    Dismissed (answerTo (all.map lineOf) tail) (s.serveLines h) := by
  obtain ⟨hsegments, htail⟩ := hcut.unique
    (.append segments hl.whole (hl.spent hdrained) (.tail (next?_eq_none_iff.1 hnext)))
  rw [List.append_nil] at hsegments
  subst hsegments htail
  have hlast := lastLine_of_remainder s.worker.buffer
  rw [serveLines_eq, hnext]
  simp only [hdrained, if_true]
  cases hrest : remainder s.worker.buffer with
  | none =>
    rw [hrest] at hlast
    rw [hl.header.silence (by simp [← hlast]), conclude_eq hs]
    exact ⟨.finished none rfl, .silence, rfl⟩
  | some data =>
    rw [hrest] at hlast
    dsimp only
    cases hfeed : (s.worker.upgrade.feed data).1 with
    | «continue» =>
      have hsilence : answerTo (all.map lineOf) s.worker.buffer = .silence := by
        refine hl.header.silence fun hnone line hline => ?_
        obtain rfl : line = data := by simpa [← hlast] using hline
        rcases (Upgrade.feed_continue hfeed).2 with ⟨-, hfront⟩ | ⟨hstage, -⟩
        · exact hfront
        · have hheader := hl.header
          rw [hstage, hnone] at hheader
          cases hheader
      rw [hsilence, line_webSocket h hl.mode,
        request_eq (s := ⟨{ s.worker with buffer := [] }, s.desk⟩) h hl.ready.unreleased hs]
      simp only [hfeed]
      exact ⟨.spent hs hl.unframed hdrained rfl, .silence, rfl⟩
    | headersDone =>
      obtain ⟨-, rfl⟩ := Upgrade.feed_headersDone hfeed hl.header.ne_headersDone
      simp [remainder] at hrest
    | reject cause =>
      obtain ⟨rfl, hfront, hdismissed⟩ := hl.refused (h := h) hd hs hfeed []
      rw [answerTo_refusal (by rw [← hlast]; rfl) hfront]
      exact hdismissed

/-- **One step while a client is listened to**: it is listened to, or the worker is about to take
the end of a header, or the client is dismissed with the answer that its lines call for. -/
theorem step (hl : Listening stream state d id hook past segments s) (hd : d.Serviceable)
    (hcut : Segmented stream all tail) (thread : Nat) :
    (∃ request, AtHeader h state d id hook past request s) ∨
      (∃ segments, Listening stream state d id hook (past ++ (s.step h thread).events) segments
        (s.step h thread).value) ∨
      Dismissed (answerTo (all.map lineOf) tail) (s.step h thread) := by
  rcases hl.phase with hs | hs
  · exact .inr (.inl ⟨segments, hl.start hs thread⟩)
  · have hstep : ∀ thread, s.step h thread = s.serveLines h :=
      fun thread => step_lines h thread hs hl.unframed
    cases hnext : next? s.worker.buffer with
    | some found =>
      obtain ⟨line, rest⟩ := found
      obtain ⟨segment, hsegment, hbuffer, rfl⟩ := next?_eq_some_iff.1 hnext
      have hline : ∀ thread, s.step h thread = s.line h (lineOf segment) rest := fun thread => by
        rw [hstep, serveLines_eq, hnext]
      cases hfeed : (s.worker.upgrade.feed (lineOf segment)).1 with
      | «continue» =>
        rw [hline]
        exact .inr (.inl ⟨_, hl.noted hs hsegment hbuffer hfeed⟩)
      | headersDone => exact .inl ⟨_, hl.ended hs hsegment hbuffer hline hfeed⟩
      | reject cause =>
        obtain ⟨rfl, hfront, hdismissed⟩ := hl.refused (h := h) hd hs hfeed rest
        obtain ⟨more, -, hstream⟩ := hl.coming
        obtain ⟨later, tail', hrest⟩ := exists_segmented (rest ++ more)
        rw [hbuffer, List.flatten_nil, List.nil_append, List.append_assoc] at hstream
        subst hstream
        obtain ⟨rfl, rfl⟩ := hcut.unique (.cut hsegment hrest)
        rw [hline, List.map_cons, answerTo_refusal rfl hfront]
        exact .inr (.inr hdismissed)
    | none =>
      rw [hstep]
      cases hdrained : s.worker.drained with
      | false =>
        rw [serveLines_eq, hnext]
        simp only [hdrained]
        exact .inr (.inl ⟨segments, hl.fill hs hnext hdrained⟩)
      | true => exact .inr (.inr (hl.drained hd hcut hs hnext hdrained))

end Listening

/-! ### The shell's answers -/

/-- What the shell makes of a client that has sent its header: a client that asks for the upgrade on
one of its paths is let in, and any other is sent a page and left. -/
theorem shell_connected (prompt : String) (request : Request) :
    let r := (Shell.handler ⟨prompt, .webSocket⟩).connected () (some request)
    let answer := Answer.ofRequest request
    answer.isUpgrade = true ∧ answer = .upgrade request ∧
        Upgrades (Shell.handler ⟨prompt, .webSocket⟩) () request ∧ r.acts = [] ∨
      answer.isUpgrade = false ∧ r.acts = [.send answer.bytes] ∧ ∃ reason,
        r.flow = .quiet reason := by
  have hpaths : Shell.paths.contains request.path = true ↔
      request.path = "/" ∨ request.path = "/shell" := by
    simp [Shell.paths]
  simp only [Shell.handler, Shell.connected, Answer.ofRequest, Upgrades, Bool.not_eq_true',
    ← Bool.not_eq_true, hpaths]
  by_cases hpath : request.path = "/" ∨ request.path = "/shell"
  · have hnot : ¬ (request.path ≠ "/" ∧ request.path ≠ "/shell") := by tauto
    rw [if_neg (not_not.2 hpath), if_neg hnot]
    cases hup : request.upgrade with
    | true => exact .inl (by simp [Answer.isUpgrade])
    | false => exact .inr (by simp [Answer.isUpgrade, Answer.bytes])
  · have hyes : request.path ≠ "/" ∧ request.path ≠ "/shell" := by tauto
    rw [if_pos hpath, if_pos hyes]
    exact .inr ⟨by simp [Answer.isUpgrade], rfl, _, rfl⟩

theorem discerns_shell (prompt : String) : Discerns (Shell.handler ⟨prompt, .webSocket⟩) := by
  intro state request hflow
  rcases shell_connected prompt request with ⟨-, -, hup, -⟩ | ⟨-, -, reason, hquiet⟩
  · exact hup.2
  · cases hflow.symm.trans hquiet

/-- The handler is told of a request and the client is sent its answer. -/
theorem replied_request {d : Desk} (hr : d.Ready) (hw : d.Willing) (ho : d.link.isOpen = true)
    (request : Request) :
    let answer := Answer.ofRequest request
    Replied answer (.connected d.id d.link.status (some request) ::
      (d.transmit (Outlet.send answer.bytes)).events) := by
  let data := (Answer.ofRequest request).bytes
  have htaken := (Desk.transmit_willing hr hw [data] data).1
  rw [ho, if_pos rfl] at htaken
  dsimp only
  rw [← List.singleton_append]
  refine ⟨?_, List.forall_mem_append.2 ⟨by simp [isUpgraded], ?_⟩, ?_⟩
  · rw [callbacks_append, Answer.told_ofRequest]
    exact congrArg _ (callbacks_transmit hr [data] data)
  · exact fun e he => isUpgraded_of_offers (Desk.offered_transmit hr data e he)
  · rw [accepted_append]
    exact htaken.trans (List.append_nil _)

/-- **The end of a header is answered by what it asks for**: with a page and the end of the
connection, or with the upgrade. -/
theorem AtHeader.answered {prompt : String} {request : Request} {s : Session Unit}
    (ha : AtHeader (Shell.handler ⟨prompt, .webSocket⟩) () d id hook past request s)
    (hw : s.desk.Willing) (ho : s.desk.link.isOpen = true) (thread : Nat) :
    let answer := Answer.ofRequest request
    let t := s.step (Shell.handler ⟨prompt, .webSocket⟩) thread
    Dismissed answer t ∨
      answer.isUpgrade = true ∧ ∃ front conn path stage,
        t.events = front ++ [.log (.upgraded conn path stage)] ∧
        Replied answer front := by
  let h := Shell.handler ⟨prompt, .webSocket⟩
  have hreplied := replied_request ha.ready hw ho request
  rcases shell_connected prompt request
    with ⟨hup, hanswer, hupgrades, hacts⟩ | ⟨hup, hacts, reason, hquiet⟩
  · obtain ⟨head, rest, stage, -, -, hstep⟩ := ha.upgraded hupgrades thread
    simp only [Session.told, hacts, Desk.perform, Traced.value_pure, Traced.events_pure] at hstep
    rw [hanswer] at hreplied
    exact .inr ⟨hup, _, _, _, _, congrArg Traced.events hstep, hanswer ▸ hreplied⟩
  · have hnot : ¬ Upgrades h () request := fun hupgrades => by cases hupgrades.1.symm.trans hquiet
    obtain ⟨hevents, hparting⟩ := ha.declined hnot thread
    have hsent : (s.desk.perform (h.connected () (some request)).acts).events =
        (s.desk.transmit (Outlet.send (Answer.ofRequest request).bytes)).events := by
      rw [hacts, Desk.perform_one ha.ready.unreleased]
      rfl
    rw [Session.told, hsent] at hevents
    exact .inl ⟨hparting, hevents ▸ hreplied, hup⟩

/-! ### Whole runs -/

/-- What holds of a client of the shell and its history at any time: it is listened to, or it has
been answered and its connection ends, or it has been answered with the upgrade. -/
inductive Answering (answer : Answer) (stream : Bytes) (d : Desk) (id : Nat) (hook : Hook)
    (past : List Event)
    (s : Session Unit) : Prop
  | listening (segments : List Bytes) : Listening stream () d id hook past segments s →
      Answering answer stream d id hook past s
  | dismissed : Parting s → Replied answer past → answer.isUpgrade = false →
      Answering answer stream d id hook past s
  | upgraded (before after : List Event) (conn : Nat) (path : String) (stage : Stage) :
      past = before ++ .log (.upgraded conn path stage) :: after → Replied answer before →
      answer.isUpgrade = true →
      Answering answer stream d id hook past s

theorem answering_step {prompt : String} {s : Session Unit} {all : List Bytes} {tail : Bytes}
    (hd : d.Serviceable) (hcut : Segmented stream all tail) (thread : Nat)
    (hl : Living id conn hook past s)
    (ha : Answering (answerTo (all.map lineOf) tail) stream d id hook past s) :
    let t := s.step (Shell.handler ⟨prompt, .webSocket⟩) thread
    Answering (answerTo (all.map lineOf) tail) stream d id hook (past ++ t.events) t.value := by
  let h := Shell.handler ⟨prompt, .webSocket⟩
  cases ha with
  | listening segments hlistening =>
    have hdone : ∀ {answer}, Dismissed answer (s.step h thread) → Answering answer stream d id hook
        (past ++ (s.step h thread).events) (s.step h thread).value := fun {answer} hdismissed => by
      have hreplied := hdismissed.replied.idle hlistening.quiet (List.forall_mem_nil _)
      rw [List.append_nil] at hreplied
      exact .dismissed hdismissed.parting hreplied hdismissed.last
    rcases hlistening.step (h := h) hd hcut thread
      with ⟨request, hat⟩ | ⟨segments', hnext⟩ | hdismissed
    · obtain ⟨hwilling, hopen⟩ := hlistening.serviceable hd
      rw [hlistening.answer hcut hat]
      rcases hat.answered hwilling hopen thread
        with hdismissed | ⟨hup, front, conn, path, stage, hevents, hreplied⟩
      · exact hdone hdismissed
      · have hbefore := hreplied.idle hlistening.quiet (List.forall_mem_nil _)
        rw [List.append_nil] at hbefore
        exact .upgraded _ [] conn path stage (by rw [hevents, List.append_assoc]) hbefore hup
    · exact .listening segments' hnext
    · exact hdone hdismissed
  | dismissed hparting hreplied hlast =>
    obtain ⟨hnext, hquiet⟩ := parting_meet (h := h) hl hparting (.work thread)
    have hall := hreplied.idle (List.forall_mem_nil _) fun e he => (hquiet e he).1
    exact .dismissed hnext hall hlast
  | upgraded before after conn path stage hpast hreplied hup =>
    exact .upgraded before _ conn path stage (by rw [hpast, List.append_assoc, List.cons_append])
      hreplied hup

/-- An accepted client is listened to. -/
theorem Accepted.listening {readSize : Nat} {t : Transport} {s : Session σ}
    (ha : Accepted .webSocket readSize state t s) (hc : Carries (maxFaults - 1) stream t.arrivals) :
    Listening stream state s.desk s.desk.id t.hook [] [] s := by
  have hawaits : s.worker.Awaits stream := by
    rw [ha.worker]
    refine .inr ⟨rfl, maxFaults - 1, hc, ?_⟩
    show 0 + (maxFaults - 1) < maxFaults
    decide
  exact { ha.reading with unasked := rfl, coming := ⟨stream, hawaits, by rw [ha.worker]; rfl⟩ }

/-- **How the shell answers over HTTP.** Whatever a client of the shell sends, and however it comes
in, what it is sent before its connection is framed is the answer that its lines call for, over a
transport that takes what it is offered. Until then the shell is told at most of the request. Frames
follow just if the answer is the upgrade; otherwise this is all, and the connection is gone. It
never ends because its client has not asked for the upgrade. -/
theorem http_phase (prompt : String) (thread : Nat) {hub : Hub} (hs : hub.Sound) {readSize : Nat}
    {t : Transport} {started : Int} {s : Session Unit}
    (ha : accept? .webSocket readSize () t { started } hub = some s)
    (hw : ∀ a ∈ t.acceptances, a.isWilling = true) (ho : t.hook.closed = false) {stream : Bytes}
    (hc : Carries (maxFaults - 1) stream t.arrivals) {segments : List Bytes} {tail : Bytes}
    (hcut : Segmented stream segments tail) :
    let answer := answerTo (segments.map lineOf) tail
    let ran := s.run (Shell.handler ⟨prompt, .webSocket⟩) thread
    let before := ran.events.takeWhile fun e => !e.isUpgraded
    accepted before = answer.bytes ∧ callbacks before = answer.told ∧
      (answer.isUpgrade = true →
        ∃ conn path stage after, ran.events = before ++ .log (.upgraded conn path stage) :: after) ∧
      (answer.isUpgrade = false → ran.events = before) ∧ ran.value.isGone = true ∧
      ∀ key, .log (.ended key (some (.violation .missingUpgrade))) ∉ ran.events := by
  let h := Shell.handler ⟨prompt, .webSocket⟩
  have haccepted := accepted_of_accept? hs ha
  have hliving := living_of_accept? hs ha
  have hd : s.desk.Serviceable := by
    refine ⟨haccepted.ready, ?_, haccepted.fair ho⟩
    rw [Desk.Willing, script_of_accept? ha]
    exact hw
  obtain ⟨⟨-, hend⟩, hgone⟩ := run_invariant h thread
    (I := fun past v => Living s.desk.id s.desk.outlet.conn t.hook past v ∧
      Answering (answerTo (segments.map lineOf) tail) stream s.desk s.desk.id t.hook past v)
    (fun past v _ hv => ⟨living_work h thread hv.1, answering_step hd hcut thread hv.1 hv.2⟩)
    ⟨hliving, .listening [] (haccepted.listening hc)⟩
  have hmissing := never_missing (discerns_shell prompt) thread hliving (by rw [haccepted.worker])
  rw [List.nil_append] at hend
  dsimp only
  cases hend with
  | listening _ hlistening => rcases hlistening.phase with hphase | hphase <;>
    simp [isGone, hphase] at hgone
  | dismissed _ hreplied hlast =>
    have hall : (s.run h thread).events.takeWhile (fun e => !e.isUpgraded) =
        (s.run h thread).events :=
      List.takeWhile_eq_self_iff.2 fun e he => by simpa using hreplied.unframed e he
    rw [hall]
    have hnot : (answerTo (segments.map lineOf) tail).isUpgrade ≠ true := by simp [hlast]
    exact ⟨hreplied.sent, hreplied.told, fun hup => absurd hup hnot, fun _ => rfl, hgone, hmissing⟩
  | upgraded before after conn path stage hran hreplied hup =>
    have hbefore : (s.run h thread).events.takeWhile (fun e => !e.isUpgraded) = before := by
      rw [hran, List.takeWhile_append_of_pos fun e he => by simpa using hreplied.unframed e he]
      simp [isUpgraded]
    rw [hbefore]
    have hnot : (answerTo (segments.map lineOf) tail).isUpgrade ≠ false := by simp [hup]
    exact ⟨hreplied.sent, hreplied.told, fun _ => ⟨conn, path, stage, after, hran⟩,
      fun hlast => absurd hlast hnot, hgone, hmissing⟩

/-- A client asks for a shell where there is none; its request comes in two pieces. -/
theorem http_phase_missing :
    let hub : Hub := { capacity := 1 }
    let h := Shell.handler { prompt := "> ", mode := .webSocket }
    let t : Transport :=
      { arrivals := [.data (Bytes.ofText "GET /no"), .data (Bytes.ofText "where\r\n\r\n")] }
    let stream := Bytes.ofText "GET /nowhere\r\n\r\n"
    let segments := [Bytes.ofText "GET /nowhere\r\n", Bytes.ofText "\r\n"]
    let answer := answerTo (segments.map lineOf) []
    hub.Sound ∧ Carries (maxFaults - 1) stream t.arrivals ∧ Segmented stream segments [] ∧
      answer = .missing { path := "/nowhere" } ∧
      ∃ s, accept? .webSocket 4096 () t { started := 0 } hub = some s ∧
        let ran := s.run h 1
        let before := ran.events.takeWhile fun e => !e.isUpgraded
        accepted before = answer.bytes ∧ callbacks before = answer.told ∧
          (answer.isUpgrade = true →
            ∃ conn path stage after, ran.events = before ++
              .log (.upgraded conn path stage) :: after) ∧
          (answer.isUpgrade = false → ran.events = before) ∧ ran.value.isGone = true ∧
          ∀ key, .log (.ended key (some (.violation .missingUpgrade))) ∉ ran.events := by
  intro hub h t stream segments answer
  have hs : hub.Sound := Hub.sound_empty 1
  have hstream : stream = Bytes.ofText "GET /no" ++ (Bytes.ofText "where\r\n\r\n" ++ []) := by
    decide +kernel
  have hcarries : Carries (maxFaults - 1) stream t.arrivals := by
    rw [hstream]
    exact .data (by decide +kernel) (.data (by decide +kernel) (.done _))
  have hfirst : IsSegment (Bytes.ofText "GET /nowhere\r\n") :=
    (boundary_eq_some (show boundary (Bytes.ofText "GET /nowhere\r\n") =
    some 13 by decide +kernel)).2
  have hlast : IsSegment (Bytes.ofText "\r\n") :=
    (boundary_eq_some (show boundary (Bytes.ofText "\r\n") = some 1 by decide +kernel)).2
  have hcut : Segmented stream segments [] := by
    have hlines : stream = Bytes.ofText "GET /nowhere\r\n" ++ (Bytes.ofText "\r\n" ++ []) := by
      decide +kernel
    rw [hlines]
    exact .cut hfirst (.cut hlast (.tail (boundary_eq_none rfl)))
  exact ⟨hs, hcarries, hcut,
    by decide +kernel, _, rfl, http_phase "> " 1 hs rfl (by simp [t]) rfl hcarries hcut⟩

end Session
end NetShell
