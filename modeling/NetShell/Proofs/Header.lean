import NetShell.Proofs.Runs

/-! The header of a request, and the moment of the upgrade.

Until the upgrade a WebSocket connection reads lines. If it is upgraded at all, it is at one
moment, after which the connection serves frames: what it has read until then is a header,
a request line and header lines up to an empty one, and the bytes that its buffer still
holds (`Session.upgraded_run`). -/
namespace NetShell
open WebSocket Event Telnet

variable {σ : Type}

/-- A header as a client sends it: its first line asks for something, and only its last line
is empty. -/
def IsHeader (head : Bytes) : Prop :=
  ∃ first middle last, head = (first :: middle ++ [last]).flatten ∧
    (∀ segment ∈ first :: middle ++ [last], IsSegment segment) ∧
    Upgrade.requestFront <+: lineOf first ∧
    (∀ segment ∈ middle, lineOf segment ≠ []) ∧ lineOf last = []

/-! ### Lines of a request -/

namespace WebSocket

theorem after?_eq_some_iff {front data rest : Bytes} :
    after? front data = some rest ↔ data = front ++ rest := by
  constructor
  · intro h
    unfold after? at h
    split at h
    · obtain ⟨tail, rfl⟩ := List.isPrefixOf_iff_prefix.1 ‹_›
      simpa using h
    · cases h
  · rintro rfl
    simp [after?]

theorem after?_eq_none_iff {front data : Bytes} : after? front data = none ↔ ¬ front <+: data := by
  simp [after?]

namespace Upgrade

variable {up : Upgrade} {line : Bytes}

/-- One more line is wanted: the line was a request line, or a header line that is not empty. -/
theorem feed_continue (h : (up.feed line).1 = .continue) :
    (up.feed line).2.stage = .readingHeaders ∧
      (up.stage = .needRequestLine ∧ requestFront <+: line ∨ up.stage = .readingHeaders ∧
        line ≠ []) := by
  unfold feed at h ⊢
  cases hs : up.stage with
  | needRequestLine =>
    rw [hs] at h
    dsimp only at h ⊢
    cases ha : after? requestFront line with
    | none => simp [ha] at h
    | some target => exact ⟨rfl, .inl ⟨rfl, target, (after?_eq_some_iff.1 ha).symm⟩⟩
  | readingHeaders =>
    rw [hs] at h
    cases line with
    | nil => simp at h
    | cons b rest => exact ⟨rfl, .inr ⟨rfl, by simp⟩⟩
  | headersDone => simp [hs] at h

/-- The header is complete at an empty line. -/
theorem feed_headersDone (h : (up.feed line).1 = .headersDone) (hs : up.stage ≠ .headersDone) :
    up.stage = .readingHeaders ∧ line = [] := by
  unfold feed at h
  cases hstage : up.stage with
  | needRequestLine =>
    rw [hstage] at h
    dsimp only at h
    split at h <;> cases h
  | readingHeaders =>
    rw [hstage] at h
    cases line with
    | nil => exact ⟨rfl, rfl⟩
    | cons b rest => simp at h
  | headersDone => exact absurd hstage hs

end Upgrade
end WebSocket

namespace Session

/-! ### What holds before the upgrade -/

/-- The lines read so far are the beginning of a header. -/
inductive HeaderSoFar : Stage → List Bytes → Prop
  | empty : HeaderSoFar .needRequestLine []
  | lines {first : Bytes} {middle : List Bytes} : Upgrade.requestFront <+: lineOf first →
      (∀ segment ∈ middle, lineOf segment ≠ []) → HeaderSoFar .readingHeaders (first :: middle)

/-- What holds of a connection and its history before the upgrade: the bytes received are the
lines of a header so far and the buffer; or the stream has ended and nothing is left. -/
inductive Heading (id : Nat) (hook : Hook) (past : List Event) (s : Session σ) : Prop
  | fresh (readSize : Nat) (state : σ) (arrivals : List Arrival) : AtLines .webSocket id hook past
      s → past = [] →
      s.worker = { mode := .webSocket, readSize, state, arrivals } → Heading id hook past s
  | reading (segments : List Bytes) : AtLines .webSocket id hook past s →
      s.worker.phase = .serving →
      (∀ segment ∈ segments, IsSegment segment) → received past =
      segments.flatten ++ s.worker.buffer →
      HeaderSoFar s.worker.upgrade.stage segments → Heading id hook past s
  | spent : AtLines .webSocket id hook past s → s.worker.phase = .serving →
      s.worker.drained = true →
      s.worker.buffer = [] → Heading id hook past s
  | finished (cause : Option Ending) : AtLines .webSocket id hook past s →
      s.worker.phase = .finished cause →
      Heading id hook past s
  | gone : s.isGone = true → Heading id hook past s

/-- The upgrade is complete: the bytes received are a header and the buffer. -/
structure Upgraded (id : Nat) (hook : Hook) (past : List Event) (s : Session σ) : Prop
    extends Attending id hook past s where
  framed : s.desk.outlet.framed = true
  phase : s.worker.phase = .serving
  header : ∃ head, IsHeader head ∧ received past = head ++ s.worker.buffer
  noted : ∃ path stage, past.getLast? = some (.log (.upgraded s.desk.outlet.conn path stage))

variable {h : Handler σ} {id : Nat} {hook : Hook} {past : List Event} {s : Session σ}

/-- What a step before the upgrade comes to: the connection is still before it and nothing
was noted of an upgrade, or the upgrade is complete. -/
def Headed (id : Nat) (hook : Hook) (past : List Event) (t : Traced (Session σ)) : Prop :=
  Heading id hook (past ++ t.events) t.value ∧ (∀ e ∈ t.events, e.isUpgraded = false) ∨
    Upgraded id hook (past ++ t.events) t.value

/-! ### One step -/

theorem isUpgraded_of_perform {d : Desk} (hr : d.Ready) (acts : List Act) :
    ∀ e ∈ (d.perform acts).events, e.isUpgraded = false :=
  (Desk.moves_perform hr acts).each (fun _ => isUpgraded_of_isOutput)
    (fun _ => isUpgraded_of_isFarewell) hr

/-- The end of a header: the connection is upgraded, or it ends. -/
theorem headed_changeOver {head : Bytes} (ha : AtLines .webSocket id hook past s)
    (hs : s.worker.phase = .serving) (hheader : IsHeader head)
    (hread : received past = head ++ s.worker.buffer) :
    Headed id hook past (s.changeOver h) := by
  have hmoves := (moves_changeOver h ha.ready hs).desk
  have hr := ha.ready.unreleased
  let request := s.worker.upgrade.request
  let reply := Bytes.ofText (switchingProtocols request.key)
  let w := s.desk.perform (h.connected s.worker.state (some request)).acts
  let answered := w.value.desk.transmit (Outlet.send reply)
  have hkept : Desk.Kept s.desk w.value := Desk.kept_perform hr _
  have hacts := Desk.moves_perform ha.ready (h.connected s.worker.state (some request)).acts
  have hquiet : ∀ e ∈ .connected s.desk.id s.desk.link.status (some request) :: w.events,
      e.isUpgraded = false :=
    List.forall_mem_cons.2 ⟨rfl, isUpgraded_of_perform ha.ready _⟩
  rw [changeOver_eq h hr hs] at hmoves ⊢
  cases hflow : (h.connected s.worker.state (some s.worker.upgrade.request)).flow with
  | abort reason log =>
    simp only [hflow] at hmoves ⊢
    exact .inl ⟨.finished _ (ha.moves hmoves rfl hkept.framed) rfl, hquiet⟩
  | «continue» =>
    simp only [hflow] at hmoves ⊢
    by_cases hu : s.worker.upgrade.request.upgrade = true
    · simp only [hu, if_true] at hmoves ⊢
      have hat := ha.toAttending.moves (t := ⟨s.worker, _⟩) hmoves
      have hsent := Desk.moves_transmit (hacts.ready ha.ready) [reply] reply
      have hgiven : ∀ e ∈ w.events, e.isRead = false :=
        hacts.each (fun _ => isRead_of_isOutput) (fun _ => isRead_of_isFarewell) ha.ready
      have hanswered : ∀ e ∈ answered.events, e.isRead = false :=
        hsent.each (fun _ => isRead_of_isOutput) (fun _ => isRead_of_isFarewell)
        (hacts.ready ha.ready)
      refine .inr ⟨⟨hat.number, hat.ready, hat.told⟩, rfl, hs, ⟨head, hheader, ?_⟩,
        request.path, s.worker.upgrade.stage, ?_⟩
      · rw [received_append, hread, received_of_isRead, List.append_nil]
        exact List.forall_mem_append.2
          ⟨List.forall_mem_append.2 ⟨List.forall_mem_cons.2 ⟨rfl, hgiven⟩, hanswered⟩,
          by simp [isRead]⟩
      · rw [← List.append_assoc]
        exact List.getLast?_concat
    · simp only [hu, Bool.false_eq_true, if_false] at hmoves ⊢
      exact .inl ⟨.finished _ (ha.moves hmoves rfl hkept.framed) rfl, hquiet⟩

/-- A line of the request that completes no header: one more is wanted, or it is refused. -/
theorem headed_request {line rest : Bytes} (ha : AtLines .webSocket id hook past s)
    (hs : s.worker.phase = .serving) (hline : (s.worker.upgrade.feed line).1 ≠ .headersDone)
    (hcontinue : (s.worker.upgrade.feed line).1 = .continue →
      Heading id hook past ⟨{ s.worker with buffer := rest, upgrade :=
        (s.worker.upgrade.feed line).2 }, s.desk⟩) :
    Headed id hook past (s.line h line rest) := by
  have hmoves := (moves_line h ha.ready hs line rest).desk
  rw [line_webSocket h ha.mode,
    request_eq (s := ⟨{ s.worker with buffer := rest }, s.desk⟩) h ha.ready.unreleased
    hs] at hmoves ⊢
  cases hfeed : (s.worker.upgrade.feed line).1 with
  | «continue» =>
    simp only [hfeed] at hmoves ⊢
    exact .inl ⟨by simpa using hcontinue hfeed, by simp⟩
  | headersDone => exact absurd hfeed hline
  | reject cause =>
    simp only [hfeed] at hmoves ⊢
    have hkept := Desk.kept_transmit ha.ready.unreleased [notImplemented] notImplemented
    refine .inl ⟨.finished _ (ha.moves hmoves rfl hkept.framed) rfl, ?_⟩
    exact (Desk.moves_transmit ha.ready [notImplemented] notImplemented).each
      (fun _ => isUpgraded_of_isOutput)
      (fun _ => isUpgraded_of_isFarewell) ha.ready

theorem HeaderSoFar.ne_headersDone {stage : Stage} {segments : List Bytes}
    (hh : HeaderSoFar stage segments) :
    stage ≠ .headersDone := by
  cases hh with
  | empty | lines => simp

/-- A line that is not empty, or the first that asks for something, continues a header. -/
theorem HeaderSoFar.continue {up : Upgrade} {segments : List Bytes} {segment : Bytes}
    (hh : HeaderSoFar up.stage segments) (hc : (up.feed (lineOf segment)).1 = .continue) :
    HeaderSoFar (up.feed (lineOf segment)).2.stage (segments ++ [segment]) := by
  obtain ⟨hstage, hwas⟩ := Upgrade.feed_continue hc
  rw [hstage]
  generalize up.stage = stage at hh hwas
  cases hh with
  | empty =>
    rcases hwas with ⟨-, hfirst⟩ | ⟨hreading, -⟩
    · exact .lines hfirst (by simp)
    · cases hreading
  | lines hfirst hmiddle =>
    rcases hwas with ⟨hneed, -⟩ | ⟨-, hne⟩
    · cases hneed
    · exact .lines hfirst (List.forall_mem_append.2 ⟨hmiddle, by simpa using hne⟩)

/-- An empty line completes it. -/
theorem HeaderSoFar.headersDone {up : Upgrade} {segments : List Bytes} {segment : Bytes}
    (hh : HeaderSoFar up.stage segments) (hd : (up.feed (lineOf segment)).1 = .headersDone)
    (hall : ∀ t ∈ segments ++ [segment], IsSegment t) :
    IsHeader (segments ++ [segment]).flatten := by
  obtain ⟨hstage, hempty⟩ := Upgrade.feed_headersDone hd hh.ne_headersDone
  rw [hstage] at hh
  cases hh with
  | @lines first middle hfirst hmiddle => exact ⟨first, middle, segment, rfl, hall, hfirst,
    hmiddle, hempty⟩

/-- The first line of the buffer continues the header, completes it, or is refused. -/
theorem headed_line {segments : List Bytes} {line rest : Bytes}
    (ha : AtLines .webSocket id hook past s) (hs : s.worker.phase = .serving)
    (hwhole : ∀ segment ∈ segments, IsSegment segment)
    (hread : received past = segments.flatten ++ s.worker.buffer)
    (hheader : HeaderSoFar s.worker.upgrade.stage segments)
    (hnext : next? s.worker.buffer = some (line, rest)) :
    Headed id hook past (s.line h line rest) := by
  obtain ⟨segment, hsegment, hbuffer, rfl⟩ := next?_eq_some_iff.1 hnext
  have hall : ∀ t ∈ segments ++ [segment], IsSegment t :=
    List.forall_mem_append.2 ⟨hwhole, by simpa using hsegment⟩
  have hreceived : received past = (segments ++ [segment]).flatten ++ rest := by
    rw [hread, hbuffer]
    simp
  by_cases hdone : (s.worker.upgrade.feed (lineOf segment)).1 = .headersDone
  · rw [line_webSocket h ha.mode,
      request_eq (s := ⟨{ s.worker with buffer := rest }, s.desk⟩) h ha.ready.unreleased hs]
    simp only [hdone]
    exact headed_changeOver (ha.stays rfl rfl) hs
      (hheader.headersDone hdone hall) hreceived
  · exact headed_request ha hs hdone fun hcontinue =>
      .reading (segments ++ [segment]) (ha.stays rfl rfl) hs hall hreceived
        (hheader.continue hcontinue)

/-- What an ended stream leaves in the buffer is one more line of the request; it is not
empty, so that it completes no header. -/
theorem headed_tail {segments : List Bytes} {data : Bytes} (ha : AtLines .webSocket id hook past s)
    (hs : s.worker.phase = .serving) (hheader : HeaderSoFar s.worker.upgrade.stage segments)
    (hdrained : s.worker.drained = true) (hrest : remainder s.worker.buffer = some data) :
    Headed id hook past (s.line h data []) := by
  have hne : data ≠ [] := by
    rintro rfl
    simp [remainder] at hrest
  refine headed_request ha hs
    (fun hdone => hne (Upgrade.feed_headersDone hdone hheader.ne_headersDone).2) fun _ => ?_
  exact .spent (ha.stays rfl rfl) hs hdrained rfl

theorem headed_conclude {cause : Option Ending} (ha : AtLines .webSocket id hook past s)
    (hs : s.worker.phase = .serving) :
    Headed id hook past (pure (s.conclude cause)) := by
  rw [conclude_eq hs]
  refine .inl ⟨?_, by simp⟩
  rw [Traced.events_pure, List.append_nil]
  exact .finished cause (ha.stays rfl rfl) rfl

theorem headed_fill {segments : List Bytes} (ha : AtLines .webSocket id hook past s)
    (hs : s.worker.phase = .serving) (hdrained : s.worker.drained = false)
    (hwhole : ∀ segment ∈ segments, IsSegment segment)
    (hread : received past = segments.flatten ++ s.worker.buffer)
    (hheader : HeaderSoFar s.worker.upgrade.stage segments) : Headed id hook past s.fill := by
  obtain ⟨hfilled, hrefilled⟩ := filled ha.toAttending hs hdrained
  have hat := ha.moves (moves_fill hs).desk hfilled.mode (congrArg (·.outlet.framed) hfilled.desk)
  have hbegun : ∀ e ∈ s.readEvents, e.isUpgraded = false := by
    refine List.forall_mem_append.2 ⟨fun e he => ?_, by simp [isUpgraded]⟩
    exact isUpgraded_of_isFarewell (awaited_farewell ha.ready e he)
  have hquiet : ∀ e ∈ s.fill.events, e.isUpgraded = false := by
    rcases hfilled.noted with hevents | ⟨n, hevents, hn⟩
    · rw [hevents]
      exact hbegun
    · rw [hevents]
      exact List.forall_mem_append.2 ⟨hbegun, List.forall_mem_singleton.2 (isUpgraded_of_isRead hn)⟩
  refine .inl ⟨?_, hquiet⟩
  cases hrefilled with
  | serving hphase =>
    refine .reading segments hat hphase hwhole ?_ (hfilled.upgrade ▸ hheader)
    rw [received_append, hread, hfilled.buffer, List.append_assoc]
  | exhausted fault hphase => exact .finished _ hat hphase
  | cut fault _ hphase => exact .finished _ hat hphase

/-- **One step before the upgrade.** -/
theorem headed_step (thread : Nat) (hh : Heading id hook past s) (hg : s.isGone = false) :
    Headed id hook past (s.step h thread) := by
  cases hh with
  | fresh readSize state arrivals ha hpast hworker =>
    obtain ⟨worker, desk⟩ := s
    obtain rfl : worker = { mode := .webSocket, readSize, state, arrivals } := hworker
    subst hpast
    have hmoves := (moves_step h thread ha.ready (.inl rfl)).desk
    have hstep : step h thread ⟨{ mode := .webSocket, readSize, state, arrivals }, desk⟩ = _ :=
      start_webSocket h thread rfl
    rw [hstep] at hmoves ⊢
    exact .inl ⟨.reading [] (ha.moves hmoves rfl rfl) rfl (by simp) rfl .empty,
      by simp [isUpgraded]⟩
  | reading segments ha hs hwhole hread hheader =>
    rw [step_lines h thread hs ha.unframed, serveLines_eq]
    cases hnext : next? s.worker.buffer with
    | some found => exact headed_line ha hs hwhole hread hheader hnext
    | none =>
      cases hdrained : s.worker.drained with
      | false => exact headed_fill ha hs hdrained hwhole hread hheader
      | true =>
        cases hrest : remainder s.worker.buffer with
        | some data => exact headed_tail ha hs hheader hdrained hrest
        | none => exact headed_conclude ha hs
  | spent ha hs hdrained hbuffer =>
    rw [step_spent h thread hs ha.unframed hdrained hbuffer]
    exact headed_conclude ha hs
  | finished cause ha hs =>
    rw [step_finished h thread (ha.number ▸ ha.told) hs]
    refine .inl ⟨.gone rfl, List.forall_mem_cons.2 ⟨rfl, fun e he => ?_⟩⟩
    exact (closing_cases e he).elim isUpgraded_of_isFarewell isUpgraded_of_isDestroyed
  | gone hgone =>
    rw [hgone] at hg
    cases hg

/-! ### The upgrade in a run -/

/-- If a connection is upgraded in a run, it is so at one moment: after so many steps it is `u`,
whose upgrade is complete. -/
theorem upgraded_run (thread : Nat) (hh : Heading id hook past s)
    (hup : ∃ e ∈ (s.run h thread).events, e.isUpgraded = true) :
    ∃ count u front, s.steps h thread count = ⟨u, front⟩ ∧ Upgraded id hook (past ++ front) u := by
  induction hw : s.worker.work using Nat.strongRecOn generalizing past s with
  | _ work ih =>
    obtain ⟨e, he, hupgraded⟩ := hup
    cases hg : s.isGone with
    | true =>
      rw [run_gone hg] at he
      cases he
    | false =>
      have hstep := headed_step (h := h) thread hh hg
      rw [run_step hg] at he
      rcases hstep with ⟨hheading, hnone⟩ | hu
      · have hlater : e ∈ ((s.step h thread).value.run h thread).events := by
          rcases List.mem_append.1 he with he | he
          · rw [hnone e he] at hupgraded
            cases hupgraded
          · exact he
        obtain ⟨count, u, front, hsteps, hu⟩ :=
          ih _ (hw ▸ work_step h thread s hg) hheading ⟨e, hlater, hupgraded⟩ rfl
        refine ⟨count + 1, u, (s.step h thread).events ++ front, ?_, ?_⟩
        · simp only [steps, bind, hsteps]
        · rwa [← List.append_assoc]
      · refine ⟨1, (s.step h thread).value, (s.step h thread).events, ?_, hu⟩
        simp [steps, bind]

end Session
end NetShell
