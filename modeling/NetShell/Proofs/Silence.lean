import NetShell.Proofs.Bounds

/-! What is heard of a connection that was asked to shut down.

A request ends the transport at once, wherever it comes in: before the worker starts, while a
read or a write waits, or in a callback. From then on the transport takes nothing, and nothing is
reported that follows from that (`Event.Hushed`). A message that was being written stays cut
where it was, and is not taken up again (`Event.Spelled.cut`); a read that fails, unless it was
interrupted, ends the stream as if the connection had gone away (`Session.Heeding`). The worker goes
on to the end as usual (`Session.silenced`). -/
namespace NetShell
open WebSocket Event

variable {σ : Type}

/-! ### Hushed histories -/

namespace Event

/-- What may happen to a connection that was asked to shut down: writes are refused as on a closed
descriptor, and no failure to send or to read is reported. -/
def isHushed : Event → Bool
  | .write _ _ (.ok _) => false
  | .write _ _ (.error fault) => fault == .closed
  | .log (.sendFailed ..) | .log (.readFailed ..) | .log (.ended _ (some (.exhausted _))) => false
  | _ => true

/-- From a request on, or from the beginning if there was one before, everything is hushed. -/
def Hushed (id : Nat) (asked : Bool) (events : List Event) : Prop :=
  ∀ before e after, events = before ++ e :: after → (asked || Event.asked id before) = true →
    e.isHushed = true

theorem isHushed_of_isFarewell {e : Event} (h : e.isFarewell = true) : e.isHushed = true := by
  cases e with
  | log n => cases n <;> first | rfl | cases h
  | write => cases h
  | _ => rfl

theorem isHushed_of_isDestroyed {e : Event} (h : e.isDestroyed = true) : e.isHushed = true := by
  cases e with
  | log n => cases n <;> first | rfl | cases h
  | _ => cases h

variable {id : Nat} {asked : Bool} {a b events : List Event} {e : Event}

theorem hushed_of_isHushed (h : ∀ e ∈ events, e.isHushed = true) : Hushed id asked events := by
  intro before e after heq _
  exact h e (by rw [heq]; simp)

/-- Without a request there is nothing to hush. -/
theorem hushed_of_unasked (h : (asked || Event.asked id events) = false) :
    Hushed id asked events := by
  intro before e after heq hasked
  rw [heq, asked_append, ← Bool.or_assoc, hasked] at h
  cases h

theorem Hushed.append (ha : Hushed id asked a) (hb : Hushed id (asked || Event.asked id a) b) :
    Hushed id asked (a ++ b) := by
  intro before e after heq hasked
  rcases split_append heq with ⟨front, rfl, hsecond⟩ | ⟨back, hfirst, -⟩
  · rw [asked_append, ← Bool.or_assoc] at hasked
    exact hb front e after hsecond hasked
  · exact ha before e back hfirst hasked

/-- Of a hushed history nothing is taken after a request. -/
theorem Hushed.after (h : Hushed id false events) {before after : List Event}
    (heq : events = before ++ after) (hasked : Event.asked id before = true) :
    ∀ e ∈ after, e.isHushed = true := by
  intro e he
  obtain ⟨front, back, rfl⟩ := List.append_of_mem he
  refine h (before ++ front) e back (by rw [heq, List.append_assoc]) ?_
  rw [asked_append, hasked]
  rfl

theorem accepted_of_isHushed (h : ∀ e ∈ events, e.isHushed = true) : accepted events = [] := by
  rw [accepted, List.flatMap_eq_nil_iff]
  intro e he
  have := h e he
  cases e with
  | write link offered outcome =>
    cases outcome with
    | ok count => cases this
    | error fault => rfl
  | _ => rfl

/-! ### Messages in a history -/

/-- What a history writes to the transport of a connection: one message after another, each written
in order up to its first refusal. -/
inductive Spelled (id : Nat) : List Event → Prop
  | nil : Spelled id []
  | other {e : Event} {rest : List Event} : e.isWrite = false → Spelled id rest →
      Spelled id (e :: rest)
  | message {parts : List Bytes} {events rest : List Event} {failure : Option Fault} :
      Outlet.Orderly id parts events failure → Spelled id rest → Spelled id (events ++ rest)

theorem Spelled.append (ha : Spelled id a) (hb : Spelled id b) : Spelled id (a ++ b) := by
  induction ha with
  | nil => exact hb
  | other he _ ih => exact .other he ih
  | message hm _ ih =>
    rw [List.append_assoc]
    exact .message hm ih

theorem spelled_of_isWrite (h : ∀ e ∈ events, e.isWrite = false) : Spelled id events := by
  induction events with
  | nil => exact .nil
  | cons e rest ih =>
    exact .other (h e (List.mem_cons_self ..)) (ih fun e' he' => h e' (List.mem_cons_of_mem _ he'))

/-- A history cut in two: whole messages, then the parts of the one that was being written, if there
was one, begun before the cut; what follows it are messages again. -/
structure CutAt (id : Nat) (before after : List Event) (front begun : List Event)
    (parts : List Bytes) (rest back : List Event) : Prop where
  before : before = front ++ begun
  after : after = rest ++ back
  whole : Spelled id front
  current : ∃ failure, Outlet.Orderly id parts (begun ++ rest) failure
  later : Spelled id back

/-- Wherever a history is cut, at most one message is being written. -/
theorem Spelled.cut {before after : List Event} (h : Spelled id events)
    (heq : events = before ++ after) :
    ∃ front begun parts rest back, CutAt id before after front begun parts rest back := by
  induction h generalizing before with
  | nil =>
    obtain ⟨rfl, rfl⟩ := List.append_eq_nil_iff.1 heq.symm
    exact ⟨[], [], [], [], [], rfl, rfl, .nil, ⟨_, .nothing rfl⟩, .nil⟩
  | @other e rest he htail ih =>
    cases before with
    | nil =>
      subst heq
      exact ⟨[], [], [], [], _, rfl, rfl, .nil, ⟨_, .nothing rfl⟩, .other he htail⟩
    | cons e' before =>
      obtain ⟨rfl, hrest⟩ := List.cons.inj heq
      obtain ⟨front, begun, parts, rest', back, hc⟩ := ih hrest
      exact ⟨e :: front, begun, parts, rest', back,
        by rw [hc.before]; rfl, hc.after, .other he hc.whole, hc.current,
        hc.later⟩
  | @message parts events rest failure hm htail ih =>
    rcases List.append_eq_append_iff.1 heq with ⟨front, rfl, hrest⟩ | ⟨back, hevents, rfl⟩
    · obtain ⟨whole, begun, parts', rest', back, hc⟩ := ih hrest
      exact ⟨events ++ whole, begun, parts', rest', back,
        by rw [hc.before, List.append_assoc], hc.after,
        .message hm hc.whole, hc.current, hc.later⟩
    · exact ⟨[], before, parts, back, rest, rfl, rfl, .nil, ⟨failure, hevents ▸ hm⟩, htail⟩

/-- What has been taken of the message that is cut is a front of it. -/
theorem CutAt.begins {before after front begun rest back : List Event} {parts : List Bytes}
    (hc : CutAt id before after front begun parts rest back) :
    accepted begun <+: parts.flatten := by
  obtain ⟨failure, horderly⟩ := hc.current
  have htaken := horderly.taken
  rw [accepted_append] at htaken
  exact (List.prefix_append ..).trans htaken

/-- What a worker gives rise to: hushed from a request on, and written one message after another. -/
structure Muted (id : Nat) (asked : Bool) (events : List Event) : Prop where
  hushed : Hushed id asked events
  spelled : Spelled id events

theorem Muted.append (ha : Muted id asked a) (hb : Muted id (asked || Event.asked id a) b) :
    Muted id asked (a ++ b) :=
  ⟨ha.hushed.append hb.hushed, ha.spelled.append hb.spelled⟩

/-- What is always hushed, and writes nothing. -/
theorem muted_of_quiet (h : ∀ e ∈ events, e.isHushed = true ∧ e.isWrite = false) :
    Muted id asked events :=
  ⟨hushed_of_isHushed fun e he => (h e he).1, spelled_of_isWrite fun e he => (h e he).2⟩

theorem muted_of_isFarewell (h : ∀ e ∈ events, e.isFarewell = true) : Muted id asked events :=
  muted_of_quiet fun e he => ⟨isHushed_of_isFarewell (h e he), isWrite_of_isFarewell (h e he)⟩

/-- Something that is always hushed comes first, and it is no request. -/
theorem Muted.cons (he : e.isHushed = true) (hw : e.isWrite = false) (ha : asks id e = false)
    (h : Muted id asked events) : Muted id asked (e :: events) := by
  have hfirst : Muted id asked [e] := muted_of_quiet (List.forall_mem_singleton.2 ⟨he, hw⟩)
  refine hfirst.append ?_
  have hnone : Event.asked id [e] = false := by simp [Event.asked, ha]
  rwa [hnone, Bool.or_false]

end Event

/-! ### Sealed links -/

namespace Link

variable {l : Link} {id : Nat} {hook : Hook} {past : List Event}

/-- A transport that has been ended takes nothing more. -/
def Sealed (l : Link) : Prop := l.torn = true → l.isOpen = false

/-- A request ends the transport, whether or not its calls succeed. -/
theorem isOpen_shutdown (hs : l.Sealed) : l.shutdown.value.isOpen = false := by
  cases ht : l.torn with
  | true =>
    rw [shutdown_torn ht]
    exact hs ht
  | false =>
    cases hh : l.hook with
    | none => simp [shutdown, hangUp, ht, hh, isOpen]
    | some hook =>
      rw [shutdown_open ht hh]
      rfl

theorem sealed_shutdown (l : Link) (hs : l.Sealed) : l.shutdown.value.Sealed :=
  fun _ => isOpen_shutdown hs

theorem Told.shut (ht : Told id hook past l) (hs : l.Sealed) (hasked : Event.asked id past = true) :
    l.isOpen = false := by
  have hclosing := ht.isClosing
  cases ht with
  | free _ _ _ status => rw [status, hasked] at hclosing; cases hclosing
  | claimed _ torn => exact hs torn

end Link

/-! ### Writing while a request comes in -/

namespace Outlet

/-- Writing that is hushed from a request on: the transport is shut then, and nothing but that can
be what a message failed of. -/
structure Heeds (id : Nat) (asked : Bool) (t : Traced Drained) : Prop where
  hushed : Hushed id asked t.events
  shut : (asked || Event.asked id t.events) = true → t.value.link.isOpen = false
  failure : (asked || Event.asked id t.events) = true → ∀ fault, t.value.failure = some fault →
    fault = .closed
  held : t.value.link.Sealed

variable {id : Nat} {asked : Bool} {l : Link}

/-- What is hushed comes before. -/
theorem Heeds.after {events : List Event} {t : Traced Drained}
    (h : Heeds id (asked || Event.asked id events) t) (hbefore : Hushed id asked events) :
    Heeds id asked ⟨t.value, events ++ t.events⟩ where
  hushed := hbefore.append h.hushed
  shut := by
    rw [asked_append, ← Bool.or_assoc]
    exact h.shut
  failure := by
    rw [asked_append, ← Bool.or_assoc]
    exact h.failure
  held := h.held

/-- Nobody has asked for anything. -/
theorem heeds_unasked {t : Traced Drained} (h : (asked || Event.asked id t.events) = false)
    (hs : t.value.link.Sealed) : Heeds id asked t := by
  refine ⟨hushed_of_unasked h, ?_, ?_, hs⟩
  · rw [h]
    exact nofun
  · rw [h]
    exact nofun

/-- A transport that is shut refuses the write. -/
theorem heeds_refused (left : List Acceptance) (data : Bytes) (ho : l.isOpen = false)
    (hs : l.Sealed) :
    Heeds id asked ⟨⟨left, l, some .closed⟩, [.write l.id data (.error .closed)]⟩ where
  hushed := hushed_of_isHushed (List.forall_mem_singleton.2 rfl)
  shut := fun _ => ho
  failure := fun _ _ hf => (Option.some.inj hf).symm
  held := hs

/-- There is nothing to write. -/
theorem heeds_nothing (left : List Acceptance) (hs : l.Sealed)
    (hshut : asked = true → l.isOpen = false) :
    Heeds id asked (pure ⟨left, l, none⟩) where
  hushed := hushed_of_isHushed (List.forall_mem_nil _)
  shut := fun h => hshut (by simpa using h)
  failure := fun _ _ hf => nomatch hf
  held := hs

theorem heeds_drain (script : List Acceptance) (data : Bytes) (hs : l.Sealed)
    (hshut : asked = true → l.isOpen = false) : Heeds id asked (drain script data l) := by
  induction script generalizing asked data l with
  | nil =>
    cases data with
    | nil => exact heeds_nothing [] hs hshut
    | cons b data =>
      cases ho : l.isOpen with
      | false =>
        simp only [drain, ho]
        exact heeds_refused [] (b :: data) ho hs
      | true =>
        have hnone : asked = false := by cases asked <;> simp [ho] at hshut ⊢
        simp only [drain, ho, if_true]
        exact heeds_unasked (by rw [hnone]; rfl) hs
  | cons a script ih =>
    cases data with
    | nil => exact heeds_nothing (a :: script) hs hshut
    | cons b data =>
      cases ho : l.isOpen with
      | false =>
        simp only [drain, ho]
        exact heeds_refused (a :: script) (b :: data) ho hs
      | true =>
        have hnone : asked = false := by cases asked <;> simp [ho] at hshut ⊢
        subst hnone
        -- nobody had asked before this write
        have hone : ∀ outcome, Hushed id false [.write l.id (b :: data) outcome] :=
          fun _ => hushed_of_unasked rfl
        have hopen : ∀ outcome, (false || Event.asked id [.write l.id (b :: data) outcome]) = true →
            l.isOpen = false := fun _ h => absurd h Bool.false_ne_true
        cases a with
        | shutdown =>
          have hbound : l.hook = none → l.torn = true := fun hh => by simp [Link.isOpen, hh] at ho
          have hasked : ∀ e ∈ l.shutdown.events, e.isHushed = true := fun e he =>
            isHushed_of_isFarewell (Link.isFarewell_of_shutdown hbound e he)
          simp only [drain, ho, if_true]
          exact (ih (b :: data) (Link.sealed_shutdown l hs) fun _ => Link.isOpen_shutdown hs).after
            (hushed_of_isHushed hasked)
        | fault fault =>
          simp only [drain, ho, if_true]
          cases hi : fault.isInterrupted with
          | true => exact (ih (b :: data) hs (hopen _)).after (hone _)
          | false => exact heeds_unasked rfl hs
        | upTo count =>
          simp only [drain, ho, if_true]
          cases min count (b :: data).length with
          | zero => exact heeds_unasked rfl hs
          | succ n => exact (ih _ hs (hopen _)).after (hone _)

theorem heeds_drainAll (parts : List Bytes) (script : List Acceptance) (hs : l.Sealed)
    (hshut : asked = true → l.isOpen = false) : Heeds id asked (drainAll parts script l) := by
  induction parts generalizing asked script l with
  | nil => exact heeds_nothing script hs hshut
  | cons part parts ih =>
    have hpart : Heeds id asked (drain script part l) := heeds_drain script part hs hshut
    simp only [drainAll]
    cases hf : (drain script part l).value.failure with
    | none =>
      simp only [bind, hf]
      exact (ih _ hpart.held hpart.shut).after hpart.hushed
    | some fault =>
      simp only [bind, hf, pure, List.append_nil]
      exact hpart

/-- Of a request nothing is reported: the message has failed of a closed descriptor then. -/
theorem hushed_noteFailure (conn : Nat) (data : Bytes) {failure : Option Fault}
    (hclosed : asked = true → ∀ fault, failure = some fault → fault = .closed) :
    Hushed id asked (noteFailure conn data failure).events := by
  have hasked : Event.asked id (noteFailure conn data failure).events = false := by
    rw [noteFailure_eq]
    simp [Event.asked, asks]
  cases asked with
  | false => exact hushed_of_unasked hasked
  | true =>
    cases failure with
    | none => exact hushed_of_isHushed (List.forall_mem_nil _)
    | some fault =>
      rw [hclosed rfl fault rfl]
      exact hushed_of_isHushed (List.forall_mem_nil _)

end Outlet

/-! ### Desks -/

namespace Desk

variable {hook : Hook} {past events : List Event} {d d' : Desk}

/-- A desk whose link is what the history tells of it, and whose transport takes nothing once it was
ended. -/
structure Minded (hook : Hook) (past : List Event) (d : Desk) : Prop where
  ready : d.Ready
  told : Link.Told d.id hook past d.link
  shuts : d.link.Sealed

theorem Minded.moves {Own : Event → Bool} (hm : Minded hook past d) (h : Moves Own d events d')
    (hown : ∀ e, Own e = true → e.isWork = true) : Minded hook (past ++ events) d' := by
  refine ⟨h.ready hm.ready, ?_, ?_⟩
  · rw [h.id]
    exact h.told hown hm.ready hm.told
  · rw [link, h.id]
    exact h.course.keeps Link.sealed_shutdown (fun _ _ _ hs => hs) (fun _ _ hs => hs) hm.ready.sound
      hm.ready.known
      hm.shuts

theorem Minded.shut (hm : Minded hook past d) (hasked : asked d.id past = true) :
    d.link.isOpen = false :=
  hm.told.shut hm.shuts hasked

theorem muted_transmit (hm : Minded hook past d) (parts : List Bytes) (data : Bytes) :
    Muted d.id (asked d.id past) (d.transmit (Outlet.transmit parts data)).events := by
  have hheeds : Outlet.Heeds d.id (asked d.id past)
      (Outlet.drainAll parts d.outlet.script d.link) :=
    Outlet.heeds_drainAll parts d.outlet.script hm.shuts hm.shut
  have horderly := (Outlet.orderly_drainAll parts d.outlet.script d.link).1
  rw [link_id hm.ready] at horderly
  rw [transmit_eq hm.ready.unreleased]
  have hwritten := Spelled.message horderly .nil
  rw [List.append_nil] at hwritten
  exact ⟨hheeds.hushed.append (Outlet.hushed_noteFailure _ _ hheeds.failure),
    hwritten.append (spelled_of_isWrite (Outlet.isWrite_of_noteFailure _ _ _))⟩

theorem muted_act (hm : Minded hook past d) (a : Act) :
    Muted d.id (asked d.id past) (d.act a).events := by
  rcases act_cases d a with ⟨parts, data, -, h⟩ | ⟨hub, rfl | rfl, h⟩
  · rw [h]
    exact muted_transmit hm parts data
  · rw [h, Hub.shutdown_eq]
    exact muted_of_isFarewell
      (Link.isFarewell_of_shutdown (hm.ready.sound.link_bound hm.ready.known))
  · rw [h]
    refine muted_of_quiet fun e he => ?_
    rcases Hub.stop_cases hm.ready.sound e he with hfarewell | ⟨n, rfl⟩
    · exact ⟨isHushed_of_isFarewell hfarewell, isWrite_of_isFarewell hfarewell⟩
    · exact ⟨rfl, rfl⟩

/-- **What a handler asks for is hushed from a request on**, its own requests among them. -/
theorem muted_perform (hm : Minded hook past d) (acts : List Act) :
    Muted d.id (asked d.id past) (d.perform acts).events := by
  induction acts generalizing past d with
  | nil => exact muted_of_quiet (List.forall_mem_nil _)
  | cons a rest ih =>
    have hmoves := moves_act hm.ready a
    have hrest := ih (hm.moves hmoves fun _ => isWork_of_isOutput)
    rw [hmoves.id, asked_append] at hrest
    rw [perform_cons hm.ready.unreleased]
    exact (muted_act hm a).append hrest

end Desk

namespace Session

variable {h : Handler σ} {mode : Mode} {id conn : Nat} {hook : Hook} {past : List Event}
  {s : Session σ}

/-! ### Steps -/

/-- Too many reads have failed, and the worker has yet to say that it gives up. -/
def isGivingUp (s : Session σ) : Bool :=
  match s.worker.phase with
  | .finished (some (.exhausted _)) => true
  | _ => false

/-- What a step before the end comes to for a connection that may be asked to shut down: it is
hushed, the worker gives up only if nobody has asked, and an upgrade is noted. -/
structure Heeds (past : List Event) (s : Session σ) (t : Traced (Session σ)) : Prop where
  muted : Muted s.desk.id (asked s.desk.id past) t.events
  patient : t.value.isGivingUp = true → asked s.desk.id (past ++ t.events) = false
  upgraded : t.value.desk.outlet.framed = (s.desk.outlet.framed || t.events.any isUpgraded)

theorem isUpgraded_of_transmit {d : Desk} (hr : d.Ready) (parts : List Bytes) (data : Bytes) :
    ∀ e ∈ (d.transmit (Outlet.transmit parts data)).events, e.isUpgraded = false :=
  (Desk.moves_transmit hr parts data).each (fun _ => isUpgraded_of_isOutput)
    (fun _ => isUpgraded_of_isFarewell) hr

theorem any_isUpgraded {events : List Event} (h : ∀ e ∈ events, e.isUpgraded = false) :
    events.any isUpgraded = false :=
  List.any_eq_false.2 fun e he => by simp [h e he]

/-- Nothing is upgraded, and nothing is noted. -/
theorem upgraded_of_same {events : List Event} {framed framed' : Bool} (hsame : framed' = framed)
    (h : ∀ e ∈ events, e.isUpgraded = false) : framed' = (framed || events.any isUpgraded) := by
  rw [any_isUpgraded h, Bool.or_false, hsame]

theorem isGivingUp_of_flow {flow : Flow} {w : Worker σ} {d : Desk} (hw : w.phase = flow.phase) :
    isGivingUp ⟨w, d⟩ = false := by
  cases flow <;> simp [isGivingUp, hw, Flow.phase]

theorem heeds_dispatch (h : Handler σ) (hm : s.desk.Minded hook past)
    (hs : s.worker.phase = .serving) (data : Bytes) :
    Heeds past s (s.dispatch h data) := by
  have hrunning := hm.moves (Desk.moves_transition isWork s.desk .running rfl) fun _ => id
  rw [List.append_nil] at hrunning
  let acts := (h.message s.worker.state data).acts
  have hkept := Desk.kept_perform hrunning.ready.unreleased acts
  rw [dispatch_eq h hm.ready.unreleased hs]
  refine ⟨(Desk.muted_perform hrunning acts).cons rfl rfl rfl, ?_, ?_⟩
  · rw [isGivingUp_of_flow rfl]
    exact nofun
  · exact upgraded_of_same hkept.framed
      (List.forall_mem_cons.2 ⟨rfl, isUpgraded_of_perform hrunning.ready acts⟩)

theorem heeds_changeOver (h : Handler σ) (hm : s.desk.Minded hook past)
    (hs : s.worker.phase = .serving) :
    Heeds past s (s.changeOver h) := by
  let request := s.worker.upgrade.request
  let acts := (h.connected s.worker.state (some request)).acts
  let reply := Bytes.ofText (switchingProtocols request.key)
  let w := s.desk.perform acts
  let told := Event.connected s.desk.id s.desk.link.status (some request)
  have hkept := Desk.kept_perform hm.ready.unreleased acts
  have hacts : Muted s.desk.id (asked s.desk.id past) (told :: w.events) :=
    (Desk.muted_perform hm acts).cons rfl rfl rfl
  have hframed : w.value.desk.outlet.framed =
      (s.desk.outlet.framed || (told :: w.events).any isUpgraded) :=
    upgraded_of_same hkept.framed
    (List.forall_mem_cons.2 ⟨rfl, isUpgraded_of_perform hm.ready acts⟩)
  have hanswering : w.value.desk.Minded hook (past ++ w.events) :=
    hm.moves (Desk.moves_perform hm.ready acts) fun _ => isWork_of_isOutput
  have hsent := Desk.muted_transmit hanswering [reply] reply
  rw [hkept.id, asked_append] at hsent
  rw [changeOver_eq h hm.ready.unreleased hs]
  cases (h.connected s.worker.state (some s.worker.upgrade.request)).flow with
  | abort reason log => exact ⟨hacts, fun hgiving => absurd hgiving Bool.false_ne_true, hframed⟩
  | «continue» =>
    by_cases hup : s.worker.upgrade.request.upgrade = true
    · simp only [if_pos hup]
      refine ⟨(hacts.append hsent).append (muted_of_quiet (List.forall_mem_singleton.2 ⟨rfl, rfl⟩)),
        ?_, ?_⟩
      · rw [isGivingUp, hs]
        exact fun hgiving => absurd hgiving Bool.false_ne_true
      · simp [isUpgraded]
    · simp only [if_neg hup]
      exact ⟨hacts, fun hgiving => absurd hgiving Bool.false_ne_true, hframed⟩

theorem heeds_request (h : Handler σ) (hm : s.desk.Minded hook past)
    (hs : s.worker.phase = .serving) (line : Bytes) :
    Heeds past s (s.request h line) := by
  have hserving : ∀ upgrade, isGivingUp ⟨{ s.worker with upgrade }, s.desk⟩ = false := fun _ => by
    simp [isGivingUp, hs]
  rw [request_eq h hm.ready.unreleased hs]
  cases (s.worker.upgrade.feed line).1 with
  | «continue» =>
    refine ⟨muted_of_quiet (List.forall_mem_nil _), fun hgiving => ?_, (Bool.or_false _).symm⟩
    cases (hserving _).symm.trans hgiving
  | headersDone =>
    have hdone :=
      heeds_changeOver (s := ⟨{ s.worker with upgrade := (s.worker.upgrade.feed line).2 }, s.desk⟩)
        h hm hs
    exact ⟨hdone.muted, hdone.patient, hdone.upgraded⟩
  | reject cause =>
    have hkept := Desk.kept_transmit hm.ready.unreleased [notImplemented] notImplemented
    exact ⟨Desk.muted_transmit hm _ _, nofun,
      upgraded_of_same hkept.framed (isUpgraded_of_transmit hm.ready _ _)⟩

theorem heeds_line (h : Handler σ) (hm : s.desk.Minded hook past) (hs : s.worker.phase = .serving)
    (data rest : Bytes) : Heeds past s (s.line h data rest) := by
  let taken : Session σ := ⟨{ s.worker with buffer := rest }, s.desk⟩
  cases hmode : s.worker.mode with
  | line =>
    have hdone := heeds_dispatch (s := taken) h hm hs data
    rw [line_line h hmode]
    exact ⟨hdone.muted, hdone.patient, hdone.upgraded⟩
  | webSocket =>
    have hdone := heeds_request (s := taken) h hm hs data
    rw [line_webSocket h hmode]
    exact ⟨hdone.muted, hdone.patient, hdone.upgraded⟩

theorem heeds_frame (h : Handler σ) (hm : s.desk.Minded hook past) (hs : s.worker.phase = .serving)
    (f : Frame) (rest : Bytes) : Heeds past s (s.frame h f rest) := by
  have hserving : ∀ w : Worker σ, w.phase = .serving → ∀ d, isGivingUp ⟨w, d⟩ = false :=
    fun w hw d => by
    simp [isGivingUp, hw]
  by_cases hping : f.opcode = .ping
  · let parts := [Frame.header (UInt8.ofNat Opcode.pong.code) f.payload.length, f.payload]
    rw [frame_ping h hm.ready.unreleased hping]
    refine ⟨(Desk.muted_transmit hm parts f.payload).cons rfl rfl rfl, fun hgiving => ?_, ?_⟩
    · cases (hserving _ hs _).symm.trans hgiving
    · exact upgraded_of_same (Desk.kept_transmit hm.ready.unreleased parts f.payload).framed
        (List.forall_mem_cons.2 ⟨rfl, isUpgraded_of_transmit hm.ready parts f.payload⟩)
  · by_cases hpong : f.opcode = .pong
    · rw [frame_pong h hpong]
      refine ⟨muted_of_quiet (List.forall_mem_singleton.2 ⟨rfl, rfl⟩), fun hgiving => ?_,
        (Bool.or_false _).symm⟩
      cases (hserving _ hs _).symm.trans hgiving
    · have hdone :=
        heeds_dispatch (s := ⟨{ s.worker with buffer := rest }, s.desk⟩) h hm hs f.payload
      rw [frame_other h hping hpong]
      refine ⟨hdone.muted.cons rfl rfl rfl, ?_, hdone.upgraded⟩
      intro hgiving
      have hpatient := hdone.patient hgiving
      rw [asked_append] at hpatient ⊢
      exact hpatient

theorem heeds_conclude (hs : s.worker.phase = .serving) {cause : Option Ending}
    (hc : isGivingUp ⟨{ s.worker with phase := .finished cause }, s.desk⟩ = false) :
    Heeds past s (pure (s.conclude cause)) := by
  rw [conclude_eq hs]
  refine ⟨muted_of_quiet (List.forall_mem_nil _), fun hgiving => ?_, (Bool.or_false _).symm⟩
  cases hc.symm.trans hgiving

/-- While it reads, the worker is told of a request. -/
theorem asked_awaited (hm : s.desk.Minded hook past) :
    s.deskAfter.link.status.isClosing = asked s.desk.id (past ++ s.awaited.events) := by
  have hmoved := hm.moves (s.moves_await isWork) fun _ => id
  exact hmoved.told.isClosing

theorem heeds_fill (hm : s.desk.Minded hook past) (hs : s.worker.phase = .serving) :
    Heeds past s s.fill := by
  have hserving : ∀ w : Worker σ, w.phase = .serving → ∀ d, isGivingUp ⟨w, d⟩ = false :=
    fun w hw d => by
    simp [isGivingUp, hw]
  have hasked := asked_awaited hm
  have hquiet : ∀ e ∈ s.readEvents, e.isHushed = true ∧ e.isWrite = false ∧
      e.isUpgraded = false := by
    refine List.forall_mem_append.2 ⟨fun e he => ?_, List.forall_mem_singleton.2 ⟨rfl, rfl, rfl⟩⟩
    have hfarewell := awaited_farewell hm.ready e he
    exact ⟨isHushed_of_isFarewell hfarewell, isWrite_of_isFarewell hfarewell,
      isUpgraded_of_isFarewell hfarewell⟩
  have hmuted : ∀ asked, Muted s.desk.id asked s.readEvents := fun _ =>
    muted_of_quiet fun e he => ⟨(hquiet e he).1, (hquiet e he).2.1⟩
  have hread : ∀ e ∈ s.readEvents, e.isUpgraded = false := fun e he => (hquiet e he).2.2
  have hnoted : ∀ n, Event.isUpgraded (.log n) = false → ∀ e ∈ s.readEvents ++ [.log n],
      e.isUpgraded = false :=
    fun n hn => List.forall_mem_append.2 ⟨hread, List.forall_mem_singleton.2 hn⟩
  have hfill := filling hs
  generalize s.fill = t at hfill ⊢
  cases hfill with
  | finish | data | interrupted =>
    refine ⟨hmuted _, fun hgiving => ?_, upgraded_of_same rfl hread⟩
    cases (hserving _ hs _).symm.trans hgiving
  | lost =>
    refine ⟨(hmuted _).append (muted_of_quiet (List.forall_mem_singleton.2 ⟨rfl, rfl⟩)),
      fun hgiving => ?_, upgraded_of_same rfl (hnoted _ rfl)⟩
    cases (hserving _ hs _).symm.trans hgiving
  | cut => exact ⟨hmuted _, nofun, upgraded_of_same rfl hread⟩
  | @failed fault _ hl =>
    -- a failure that is reported was not asked for
    rw [Bool.or_eq_false_iff, hasked] at hl
    have hunasked : asked s.desk.id
        (past ++ (s.readEvents ++ [.log (.readFailed s.desk.outlet.conn fault)])) = false := by
      rw [readEvents, ← List.append_assoc, ← List.append_assoc, asked_append, asked_append, hl.2]
      rfl
    refine ⟨⟨?_, (hmuted true).spelled.append (.other rfl .nil)⟩, fun _ => hunasked,
      upgraded_of_same rfl (hnoted _ rfl)⟩
    rw [asked_append] at hunasked
    exact hushed_of_unasked hunasked

theorem heeds_start (h : Handler σ) (thread : Nat) (hm : s.desk.Minded hook past) :
    Heeds past s (s.start h thread) := by
  cases hmode : s.worker.mode with
  | webSocket =>
    rw [start_webSocket h thread hmode]
    exact ⟨muted_of_quiet (List.forall_mem_singleton.2 ⟨rfl, rfl⟩), nofun, (Bool.or_false _).symm⟩
  | line =>
    have hbegun :=
      hm.moves (Desk.moves_update (d := s.desk) isWork (.begin thread (.nil _))) fun _ => id
    rw [List.append_nil] at hbegun
    let acts := (h.connected s.worker.state none).acts
    have hkept := Desk.kept_perform hbegun.ready.unreleased acts
    rw [start_line h thread hm.ready.unreleased hmode]
    refine ⟨((Desk.muted_perform hbegun acts).cons rfl rfl rfl).cons rfl rfl rfl, ?_, ?_⟩
    · rw [isGivingUp_of_flow rfl]
      exact nofun
    · exact upgraded_of_same hkept.framed
        (List.forall_mem_cons.2 ⟨rfl, List.forall_mem_cons.2
        ⟨rfl, isUpgraded_of_perform hbegun.ready acts⟩⟩)

/-- **Every step before the end is hushed from a request on.** -/
theorem heeds_step (h : Handler σ) (thread : Nat) (hm : s.desk.Minded hook past)
    (hs : s.worker.phase = .fresh ∨ s.worker.phase = .serving) :
    Heeds past s (s.step h thread) := by
  rcases hs with hs | hs
  · rw [step_fresh h thread hs]
    exact heeds_start h thread hm
  · cases hf : s.desk.outlet.framed with
    | true =>
      rw [step_frames h thread hs hf, serveFrames_eq]
      cases Frame.parse s.worker.buffer with
      | complete f size => exact heeds_frame h hm hs f _
      | incomplete =>
        cases s.worker.drained with
        | true => exact heeds_conclude hs rfl
        | false => exact heeds_fill hm hs
      | close | violation => exact heeds_conclude hs rfl
    | false =>
      rw [step_lines h thread hs hf, serveLines_eq]
      cases Telnet.next? s.worker.buffer with
      | some found => exact heeds_line h hm hs _ _
      | none =>
        cases s.worker.drained with
        | false => exact heeds_fill hm hs
        | true =>
          cases Telnet.remainder s.worker.buffer with
          | some data => exact heeds_line h hm hs _ _
          | none => exact heeds_conclude hs rfl

/-! ### The end of the stream -/

/-- How the end of the stream is noted that a failed read has found: at once before an upgrade, and
after it as the reason that the loop is over. -/
def endNotice (conn : Nat) (upgraded : Bool) (fault : Fault) : Notice :=
  if upgraded then .ended conn (some (.teardown fault)) else .readEnded conn fault

/-- Each read of a history that failed after a request, otherwise than by being interrupted, is
followed by the notice that the stream has ended; for a fault that is `due` this is what comes
next. -/
def Announced (id conn : Nat) (due : Fault → Prop) (past : List Event) : Prop :=
  ∀ before link status room fault after,
    past = before ++ .read link status room (.error fault) :: after →
    asked id before = true → fault.isInterrupted = false →
      (∃ rest, after = .log (endNotice conn (before.any isUpgraded) fault) :: rest) ∨
        after = [] ∧ before.any isUpgraded = true ∧ due fault

theorem announced_nil {due : Fault → Prop} : Announced id conn due [] := by
  intro before link status room fault after heq
  simp at heq

/-- Nothing is read, and what was due is noted first. -/
theorem Announced.append {due due' : Fault → Prop} {a b : List Event} (ha : Announced id conn due a)
    (hb : ∀ e ∈ b, e.isRead = false)
    (hdue : ∀ fault, asked id a = true → due fault →
      b = [] ∧ due' fault ∨ ∃ rest, b = .log (.ended conn (some (.teardown fault))) :: rest) :
    Announced id conn due' (a ++ b) := by
  intro before link status room fault after heq hasked hfault
  rcases split_append heq with ⟨front, -, hsecond⟩ | ⟨back, hfirst, rfl⟩
  · cases hb (.read link status room (.error fault)) (by rw [hsecond]; simp)
  · rcases ha before link status room fault back hfirst hasked hfault
      with ⟨rest, rfl⟩ | ⟨rfl, hup, hd⟩
    · exact .inl ⟨rest ++ b, rfl⟩
    · have hknown : asked id a = true := by rw [hfirst, asked_append, hasked]; rfl
      rcases hdue fault hknown hd with ⟨rfl, hd'⟩ | ⟨rest, rfl⟩
      · exact .inr ⟨rfl, hup, hd'⟩
      · exact .inl ⟨rest, by rw [hup]; rfl⟩

/-- A read, and what follows it at once. -/
theorem Announced.read {due : Fault → Prop} {a rest : List Event}
    (ha : Announced id conn (fun _ => False) a) (link : Nat) (status : Status) (room : Nat)
    (outcome : Except Fault Bytes) (hrest : ∀ e ∈ rest, e.isReading = false)
    (hnoted : ∀ fault, outcome = .error fault → asked id a = true → fault.isInterrupted = false →
      (∃ tail, rest = .log (endNotice conn (a.any isUpgraded) fault) :: tail) ∨
        rest = [] ∧ a.any isUpgraded = true ∧ due fault) :
    Announced id conn due (a ++ .read link status room outcome :: rest) := by
  intro before link' status' room' fault after heq hasked hfault
  rcases split_append heq with ⟨front, rfl, hsecond⟩ | ⟨back, hfirst, rfl⟩
  · cases front with
    | nil =>
      obtain ⟨hread, rfl⟩ := List.cons.inj hsecond
      obtain ⟨-, -, -, rfl⟩ := Event.read.inj hread
      rw [List.append_nil] at hasked ⊢
      exact hnoted fault rfl hasked hfault
    | cons e front =>
      obtain ⟨-, rfl⟩ := List.cons.inj hsecond
      cases hrest (.read link' status' room' (.error fault)) (by simp)
  · rcases ha before link' status' room' fault back hfirst hasked hfault
      with ⟨tail, rfl⟩ | ⟨-, -, hnever⟩
    · exact .inl ⟨tail ++ .read link status room outcome :: rest, rfl⟩
    · exact hnever.elim

/-- The stream of an upgraded connection has ended by this fault, and the loop is over. -/
def Owes (s : Session σ) (fault : Fault) : Prop :=
  s.worker.phase = .finished (some (.teardown fault))

/-- A read that fails after a request finds the end of the stream. -/
theorem announced_fill (hm : s.desk.Minded hook past) (hs : s.worker.phase = .serving)
    (hup : s.desk.outlet.framed = past.any isUpgraded)
    (hn : Announced s.desk.id s.desk.outlet.conn s.Owes past) :
    Announced s.desk.id s.desk.outlet.conn s.fill.value.Owes (past ++ s.fill.events) := by
  have hfarewell := awaited_farewell hm.ready
  have hasked := asked_awaited hm
  let waited := past ++ s.awaited.events
  have hwaited : Announced s.desk.id s.desk.outlet.conn (fun _ => False) waited :=
    hn.append (fun e he => isRead_of_isFarewell (hfarewell e he)) fun fault _ howes =>
    Phase.noConfusion (hs.symm.trans howes)
  have hframed : waited.any isUpgraded = s.desk.outlet.framed := by
    rw [List.any_append, any_isUpgraded fun e he => isUpgraded_of_isFarewell (hfarewell e he),
      Bool.or_false, hup]
  have hread : ∀ due rest, (∀ e ∈ rest, e.isReading = false) →
      (∀ fault, s.awaited.value.outcome = .error fault → asked s.desk.id waited = true →
      fault.isInterrupted = false →
        (∃ tail, rest = .log (endNotice s.desk.outlet.conn (waited.any isUpgraded) fault) :: tail) ∨
          rest = [] ∧ waited.any isUpgraded = true ∧ due fault) →
      Announced s.desk.id s.desk.outlet.conn due (past ++ (s.readEvents ++ rest)) := by
    intro due rest hquiet hnoted
    rw [readEvents, List.append_assoc, ← List.append_assoc past]
    exact hwaited.read _ _ _ _ hquiet hnoted
  have hbare : ∀ due, (∀ fault, s.awaited.value.outcome = .error fault →
      asked s.desk.id waited = true →
      fault.isInterrupted = false → waited.any isUpgraded = true ∧ due fault) →
      Announced s.desk.id s.desk.outlet.conn due (past ++ s.readEvents) := by
    intro due hnoted
    have hall :=
      hread due [] (List.forall_mem_nil _) fun fault ho ha hi => .inr ⟨rfl, hnoted fault ho ha hi⟩
    rwa [List.append_nil] at hall
  have hlog : ∀ n, ∀ e ∈ [Event.log n], e.isReading = false :=
    fun _ => List.forall_mem_singleton.2 rfl
  have hfill := filling hs
  generalize s.fill = t at hfill ⊢
  cases hfill with
  | finish ho | data _ ho => exact hbare _ fun fault herror => by cases ho.symm.trans herror
  | @interrupted fault hi ho =>
    refine hbare _ fun fault' herror _ hi' => ?_
    obtain rfl : fault = fault' := Except.error.inj (ho.symm.trans herror)
    cases hi.symm.trans hi'
  | @lost fault _ _ hf ho =>
    refine hread _ _ (hlog _) fun fault' herror _ _ => .inl ⟨[], ?_⟩
    obtain rfl : fault = fault' := Except.error.inj (ho.symm.trans herror)
    rw [hframed, hf]
    rfl
  | @cut fault _ _ hf ho =>
    refine hbare _ fun fault' herror _ _ => ⟨hframed.trans hf, ?_⟩
    obtain rfl : fault = fault' := Except.error.inj (ho.symm.trans herror)
    rfl
  | failed _ hl =>
    -- nobody has asked, or the read would have found the end
    refine hread _ _ (hlog _) fun fault' _ hknown _ => ?_
    rw [Bool.or_eq_false_iff, hasked] at hl
    cases hl.2.symm.trans hknown

/-! ### Lives -/

/-- What holds of a connection at any time, whether or not it was asked to shut down. -/
structure Heeded (id conn : Nat) (past : List Event) (s : Session σ) : Prop where
  muted : Muted id false past
  patient : s.isGivingUp = true → asked id past = false
  upgraded : s.desk.outlet.framed = past.any isUpgraded
  shuts : s.isGone = false → s.desk.link.Sealed
  noted : Announced id conn s.Owes past

theorem Heeded.minded (hd : Heeded id conn past s) (ha : Attending id hook past s)
    (hg : s.isGone = false) :
    s.desk.Minded hook past :=
  ⟨ha.ready, by rw [ha.number]; exact ha.told, hd.shuts hg⟩

/-- A request from outside, the worker not being about to give up. -/
theorem heeded_ask (hh : Held id conn hook past s) (hg : s.isGone = false)
    (hpatient : s.isGivingUp = false) (hd : Heeded id conn past s) :
    Heeded id conn (past ++ s.ask.events) s.ask.value := by
  have hfarewell := asked_farewell hh.toAttending
  have hworker := worker_ask s
  have howes : s.ask.value.Owes = s.Owes := by
    funext fault
    rw [Owes, Owes, hworker]
  refine ⟨hd.muted.append (muted_of_isFarewell hfarewell), fun hgiving => ?_, ?_, fun _ => ?_, ?_⟩
  · rw [isGivingUp, hworker] at hgiving
    cases hpatient.symm.trans hgiving
  · rw [List.any_append, any_isUpgraded fun e he => isUpgraded_of_isFarewell (hfarewell e he),
      Bool.or_false, outlet_ask]
    exact hd.upgraded
  · exact ((hd.minded hh.toAttending hg).moves (moves_asked hh.toAttending isWork) fun _ hwork =>
      hwork).shuts
  · refine hd.noted.append (fun e he => isRead_of_isFarewell (hfarewell e he))
      fun fault hasked hdue => .inl ⟨?_, ?_⟩
    · -- the second request finds nothing to do
      obtain rfl := hh.number
      have hclosing := hh.told.isClosing
      rw [ask_eq, Hub.shutdown_eq]
      cases hh.told with
      | free _ _ _ status =>
        rw [hasked] at hclosing
        cases status.symm.trans hclosing
      | claimed _ torn =>
        show s.desk.link.shutdown.events = []
        rw [Link.shutdown_torn torn]
        rfl
    · rw [howes]
      exact hdue

/-- Taking the connection down, `front` being what comes first. -/
theorem heeded_takeDown (hh : Held id conn hook past s) (hd : Heeded id conn past s)
    {front : List Event} (hmuted : Muted id (asked id past) front)
    (hfront : ∀ e ∈ front, e.isRead = false ∧ e.isUpgraded = false)
    (hdue : ∀ fault, s.Owes fault → ∃ rest,
      front = .log (.ended conn (some (.teardown fault))) :: rest) :
    Heeded id conn (past ++ (front ++ (s.takeDown none).events)) (s.takeDown none).value := by
  have htold := hh.told
  rw [← hh.number] at htold
  rw [takeDown_eq htold]
  have hclosing : ∀ e ∈ closing s.desk.id hook s.desk.outlet.conn (asked s.desk.id past),
      (e.isHushed = true ∧ e.isWrite = false) ∧ e.isRead = false ∧ e.isUpgraded = false := by
    intro e he
    rcases closing_cases e he with hfarewell | hdestroyed
    · exact ⟨⟨isHushed_of_isFarewell hfarewell, isWrite_of_isFarewell hfarewell⟩,
        isRead_of_isFarewell hfarewell, isUpgraded_of_isFarewell hfarewell⟩
    · exact ⟨⟨isHushed_of_isDestroyed hdestroyed, isWrite_of_isDestroyed hdestroyed⟩,
        isRead_of_isDestroyed hdestroyed, isUpgraded_of_isDestroyed hdestroyed⟩
  have hall := List.forall_mem_append.2 ⟨hfront, fun e he => (hclosing e he).2⟩
  refine ⟨hd.muted.append (hmuted.append (muted_of_quiet fun e he => (hclosing e he).1)), nofun, ?_,
    nofun, ?_⟩
  · rw [List.any_append, any_isUpgraded fun e he => (hall e he).2, Bool.or_false]
    exact hd.upgraded
  · refine hd.noted.append (fun e he => (hall e he).1) fun fault _ howes => .inr ?_
    obtain ⟨rest, rfl⟩ := hdue fault howes
    exact ⟨rest ++ _, rfl⟩

/-- A step before the end. -/
theorem heeded_serve (h : Handler σ) (thread : Nat) (hh : Held id conn hook past s)
    (hphase : s.worker.phase = .fresh ∨ s.worker.phase = .serving) (hd : Heeded id conn past s) :
    Heeded id conn (past ++ (s.step h thread).events) (s.step h thread).value := by
  have hm :=
    hd.minded hh.toAttending (by rcases hphase with hphase | hphase <;> rw [isGone, hphase])
  have hstep := heeds_step h thread hm hphase
  have hmoves := moves_step h thread hh.ready hphase
  have hbills := bills_meet h (.work thread) (.held hh (hphase.imp (fun hfresh => hfresh) .inl))
  obtain rfl := hh.number
  obtain rfl := hh.key
  have hnever : ∀ fault, ¬ s.Owes fault := fun fault howes => by
    rcases hphase with hphase | hphase <;> cases hphase.symm.trans howes
  refine ⟨hd.muted.append hstep.muted, hstep.patient, ?_,
    fun _ => (hm.moves hmoves.desk fun _ hwork => hwork).shuts, ?_⟩
  · rw [hstep.upgraded, hd.upgraded, List.any_append]
  · rcases hbills.reading with ⟨hunread, -⟩ | ⟨hs, -, hfill⟩
    · exact hd.noted.append hunread fun fault _ howes => absurd howes (hnever fault)
    · have hfilled := announced_fill hm hs hd.upgraded hd.noted
      rw [← hfill] at hfilled
      exact hfilled

/-- A step of the worker. -/
theorem heeded_work (h : Handler σ) (thread : Nat) (hl : Living id conn hook past s)
    (hg : s.isGone = false) (hd : Heeded id conn past s) :
    Heeded id conn (past ++ (s.step h thread).events) (s.step h thread).value := by
  cases hl with
  | gone misuse _ hphase =>
    rw [isGone, hphase] at hg
    cases hg
  | held hh hphase =>
    rcases hphase with hphase | hphase | ⟨cause, hphase⟩
    · exact heeded_serve h thread hh (.inl hphase) hd
    · exact heeded_serve h thread hh (.inr hphase) hd
    · rw [step_last h thread hphase]
      obtain rfl := hh.key
      refine heeded_takeDown hh hd ⟨?_, .other rfl .nil⟩ (List.forall_mem_singleton.2 ⟨rfl, rfl⟩)
        fun fault howes => ?_
      · -- the worker gives up only on a connection that nobody has asked to end
        cases hgiving : s.isGivingUp with
        | true =>
          refine hushed_of_unasked ?_
          rw [hd.patient hgiving]
          rfl
        | false =>
          refine hushed_of_isHushed (List.forall_mem_singleton.2 ?_)
          rw [isGivingUp, hphase] at hgiving
          cases cause with
          | none => rfl
          | some cause => cases cause <;> first | rfl | cases hgiving
      · obtain rfl := Phase.finished.inj (hphase.symm.trans howes)
        exact ⟨[], rfl⟩

/-- **Whatever happens next, a connection that was asked to shut down is heard of no more.** -/
theorem heeded_meet (h : Handler σ) (occasion : Occasion) (hl : Living id conn hook past s)
    (hpatient : occasion = .ask → s.isGivingUp = false) (hd : Heeded id conn past s) :
    Heeded id conn (past ++ (s.meet h occasion).events) (s.meet h occasion).value := by
  cases hg : s.isGone with
  | true =>
    rw [meet_gone hl hg, Traced.events_pure, List.append_nil]
    exact hd
  | false =>
    cases occasion with
    | work thread => exact heeded_work h thread hl hg hd
    | ask =>
      cases hl with
      | gone misuse _ hphase =>
        rw [isGone, hphase] at hg
        cases hg
      | held hh => exact heeded_ask hh hg (hpatient rfl) hd
    | drop =>
      simp only [meet]
      split
      · rename_i hphase
        cases hl with
        | gone misuse _ hgone => cases hphase.symm.trans hgone
        | held hh =>
          exact heeded_takeDown hh hd (muted_of_quiet (List.forall_mem_nil _))
            (List.forall_mem_nil _)
            fun fault howes => Phase.noConfusion (hphase.symm.trans howes)
      · rw [Traced.events_pure, List.append_nil]
        exact hd

/-- Nobody outside asks for the connection's end in the moment between the last read that failed too
often and the notice that the worker gives up. -/
def Timely (h : Handler σ) : List Occasion → Session σ → Prop
  | [], _ => True
  | occasion :: rest, s => (occasion = .ask → s.isGivingUp = false) ∧
    Timely h rest (s.meet h occasion).value

theorem heeded_life (h : Handler σ) {occasions : List Occasion} (hl : Living id conn hook past s)
    (htimely : s.Timely h occasions) (hd : Heeded id conn past s) :
    Heeded id conn (past ++ (s.life h occasions).events) (s.life h occasions).value := by
  induction occasions generalizing past s with
  | nil => simpa [life] using hd
  | cons occasion rest ih =>
    have := ih (living_meet h occasion hl) htimely.2 (heeded_meet h occasion hl htimely.1 hd)
    rw [List.append_assoc] at this
    exact this

theorem timely_works (h : Handler σ) (steps thread : Nat) (s : Session σ) :
    s.Timely h (List.replicate steps (.work thread)) := by
  induction steps generalizing s with
  | zero => trivial
  | succ steps ih => exact ⟨nofun, ih _⟩

/-- A connection that has been accepted has nothing to answer for. -/
theorem Accepted.heeded {readSize : Nat} {state : σ} {t : Transport}
    (ha : Accepted mode readSize state t s) (conn : Nat) : Heeded s.desk.id conn [] s := by
  refine ⟨muted_of_quiet (List.forall_mem_nil _), fun _ => rfl, ha.unframed, fun _ htorn => ?_,
    announced_nil⟩
  cases ha.told with
  | free _ torn => cases torn.symm.trans htorn
  | claimed _ _ _ calls => cases calls

/-- What comes `after` a request, when `before` had happened. -/
structure Silenced (id conn : Nat) (before after : List Event) : Prop where
  /-- no failure to send or to read is reported, nor that the worker gives up -/
  hushed : ∀ e ∈ after, e.isHushed = true
  untaken : accepted after = []
  /-- a message that was being written is cut at a front of it -/
  cut : ∃ front begun parts rest back, CutAt id before after front begun parts rest back ∧
    accepted begun <+: parts.flatten
  /-- a read that fails is the last, and ends the stream as if the connection had gone away -/
  ended : ∀ front link status room fault back,
    after = front ++ .read link status room (.error fault) :: back →
    fault.isInterrupted = false → (∀ e ∈ back, e.isReading = false) ∧
      ∃ rest, back = .log (endNotice conn ((before ++ front).any isUpgraded) fault) :: rest

/-- What has happened to a connection that is gone was silent from each request on. -/
theorem Heeded.silenced_after (hd : Heeded id conn past s) (hg : s.isGone = true)
    (hunread : AtReads (fun before => spent id false before = false) past)
    {before after : List Event} (heq : past = before ++ after) (hasked : asked id before = true) :
    Silenced id conn before after := by
  have hhushed := hd.muted.hushed.after heq hasked
  obtain ⟨front, begun, parts, rest, back, hcut⟩ := hd.muted.spelled.cut heq
  refine ⟨hhushed, accepted_of_isHushed hhushed,
    ⟨front, begun, parts, rest, back, hcut, hcut.begins⟩, ?_⟩
  rintro front link status room fault back rfl hfault
  rw [← List.append_assoc] at heq
  have hknown : asked id (before ++ front) = true := by rw [asked_append, hasked]; rfl
  constructor
  · -- no read is begun after one that has found the end of the stream
    intro e he
    obtain ⟨middle, last, rfl⟩ := List.append_of_mem he
    cases e with
    | read link' status' room' outcome' =>
      have hopen : spent id false (before ++ front ++ .read link status room (.error fault) ::
          middle) = false :=
        hunread _ link' status' room' outcome' last (by rw [heq]; simp)
      rw [spent_append, Bool.or_eq_false_iff] at hopen
      have hfound := hopen.2
      simp [spent, finds, hknown, hfault] at hfound
    | _ => rfl
  · rcases hd.noted (before ++ front) link status room fault back heq hknown hfault
      with hnoted | ⟨-, -, howes⟩
    · exact hnoted
    · rw [isGone, howes] at hg
      cases hg

/-- **Silence after a request.** Wherever a connection is asked to shut down in the course of its
life, from then on its transport takes nothing, a message that was being written stays cut, no
failure is reported, and the next read that fails, unless it was interrupted, ends the stream. Its
worker goes on to the end. -/
theorem silenced (h : Handler σ) (thread : Nat) {hub : Hub} (hs : hub.Sound) {readSize : Nat}
    {state : σ} {t : Transport} {started : Int}
    (ha : accept? mode readSize state t { started } hub = some s) (occasions : List Occasion)
    (htimely : s.Timely h occasions) :
    let lived := s.life h occasions
    let ran := lived.value.run h thread
    ran.value.worker.phase = .gone none ∧
      (∀ front back, occasions = front ++ .ask :: back → (s.life h front).value.isGone = false →
        asked s.desk.id lived.events = true) ∧
      asked s.desk.id lived.events = s.requested h occasions ∧
      ∀ before after, lived.events ++ ran.events = before ++ after → asked s.desk.id before = true →
        Silenced s.desk.id s.desk.outlet.conn before after := by
  intro lived ran
  have haccepted := accepted_of_accept? hs ha
  have hliving := living_of_accept? hs ha
  obtain ⟨steps, hsteps⟩ := run_eq_life h thread lived.value
  have hlived := living_life h occasions hliving
  have hheeded := heeded_life h hlived (timely_works h steps thread lived.value)
    (heeded_life h hliving htimely (haccepted.heeded s.desk.outlet.conn))
  have haccount := account_life (h := h) (occasions ++ List.replicate steps (.work thread)) hliving
    (haccepted.account h (script_of_accept? ha))
  rw [← hsteps, List.nil_append] at hheeded
  rw [life_append, ← hsteps, List.nil_append] at haccount
  refine ⟨gone_run h thread hlived (whole_life h occasions hliving haccepted.whole), ?_, ?_,
    fun before after heq hasked =>
    hheeded.silenced_after (isGone_run h thread _) haccount.unread heq hasked⟩
  · rintro front back rfl hg
    exact asked_of_ask h hliving hg
  · exact asked_life h hliving occasions

/-- The greeting of a terminal is cut by a request, and the read after it fails. -/
theorem silenced_greeting :
    let hub : Hub := { capacity := 1 }
    let h := Shell.handler { prompt := "> ", mode := .line }
    let t : Transport :=
      { arrivals := [.fault (.plain .interrupted), .fault (.plain .timedOut)], acceptances :=
      [.upTo 1, .shutdown] }
    hub.Sound ∧ ∃ s, accept? .line 2 () t { started := 0 } hub = some s ∧
      s.Timely h [.work 1, .ask] ∧
      let lived := s.life h [.work 1, .ask]
      let ran := lived.value.run h 1
      ran.value.worker.phase = .gone none ∧ asked s.desk.id lived.events = true ∧
        Silenced s.desk.id s.desk.outlet.conn lived.events ran.events := by
  intro hub h t
  have htimely : ∀ s, accept? .line 2 () t { started := 0 } hub = some s →
    s.Timely h [.work 1, .ask] := by
    intro s ha
    cases ha
    exact ⟨nofun, fun _ => rfl, trivial⟩
  obtain ⟨hphase, hasked, -, hsilenced⟩ :=
    silenced h 1 (Hub.sound_empty 1) (s := _) (t := t) rfl [.work 1, .ask] (htimely _ rfl)
  exact ⟨Hub.sound_empty 1, _, rfl, htimely _ rfl, hphase, hasked [.work 1] [] rfl rfl,
    hsilenced _ _ rfl (hasked [.work 1] [] rfl rfl)⟩

end Session
end NetShell
