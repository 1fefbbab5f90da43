import NetShell.Proofs.Teardown

/-! Why connections end.

A connection ends at a step of its loop, for the reason that this step gives; the step after it
notes the reason and takes the connection down. That a client has not asked for the upgrade is
one of the reasons, but only for a handler that goes on with such a client: with any other no
connection ends for the lack of it (`Session.never_missing`). -/
namespace NetShell
open WebSocket Event

variable {σ : Type}

namespace Event

/-- The notice that the loop is over. -/
def isEnded : Event → Bool
  | .log (.ended ..) => true
  | _ => false

theorem isEnded_of_isOutput {e : Event} (h : e.isOutput = true) : e.isEnded = false := by
  cases e with
  | log n => cases n <;> first | rfl | cases h
  | _ => rfl

theorem isEnded_of_isFarewell {e : Event} (h : e.isFarewell = true) : e.isEnded = false := by
  cases e with
  | log n => cases n <;> first | rfl | cases h
  | _ => rfl

theorem isEnded_of_isRead {e : Event} (h : e.isRead = true) : e.isEnded = false := by
  cases e with
  | log n => cases n <;> first | rfl | cases h
  | _ => rfl

end Event

/-- A line is refused for not being a request line. -/
theorem WebSocket.Upgrade.feed_reject_cause {up : Upgrade} {line : Bytes} {cause : Violation}
    (h : (up.feed line).1 = .reject cause) : cause = .malformedRequestLine := by
  unfold feed at h
  split at h
  · split at h
    · cases h
      rfl
    · cases h
  · split at h <;> cases h
  · cases h

/-- What violates the framing is no lack of an upgrade. -/
theorem WebSocket.Frame.parse_violation {data : Bytes} {cause : Violation}
    (h : parse data = .violation cause) :
    cause ≠ .missingUpgrade := by
  have hlength : ∀ {opcode final data}, parseLength opcode final data = .violation cause →
      cause ≠ .missingUpgrade := by
    intro opcode final data h
    unfold parseLength at h
    split at h
    · cases h
    · dsimp only at h
      split at h
      · cases h
      · split at h
        · cases h
          simp
        · split at h
          · cases h
            simp
          · unfold parseBody at h
            split at h
            · dsimp only at h
              split at h <;> cases h
            · cases h
  unfold parse at h
  split at h
  · cases h
  · split at h
    · exact hlength h
    · exact hlength h
    · exact hlength h
    · cases h
    · cases h
      simp

namespace Session

variable {h : Handler σ} {id conn : Nat} {hook : Hook} {s : Session σ}

/-- Why a step may leave its worker out of the loop. Faults are too many only where something is
read, and an upgrade is missing only where the handler goes on with a client that has not asked for
it. -/
inductive Reason (h : Handler σ) (events : List Event) : Option Ending → Prop
  | spent : Reason h events none
  | aborted (reason : String) (log : Bool) : Reason h events (some (.aborted reason log))
  | peerClosed : Reason h events (some .peerClosed)
  | violation {cause : Violation} : cause ≠ .missingUpgrade →
      Reason h events (some (.violation cause))
  | missing {state : σ} {request : Request} : (h.connected state (some request)).flow = .continue →
      request.upgrade = false → Reason h events (some (.violation .missingUpgrade))
  | teardown (fault : Fault) : Reason h events (some (.teardown fault))
  | exhausted {e : Event} (fault : Fault) : e ∈ events → e.isRead = true →
      Reason h events (some (.exhausted fault))

theorem Reason.mono {events events' : List Event} {cause : Option Ending}
    (hr : Reason h events cause) (hsub : events ⊆ events') : Reason h events' cause := by
  cases hr with
  | spent => exact .spent
  | aborted reason log => exact .aborted reason log
  | peerClosed => exact .peerClosed
  | violation hne => exact .violation hne
  | missing hflow hup => exact .missing hflow hup
  | teardown fault => exact .teardown fault
  | exhausted fault hmem hread => exact .exhausted fault (hsub hmem) hread

theorem reason_flow {events : List Event} {flow : Flow} {cause : Option Ending}
    (hc : flow.phase = .finished cause) :
    Reason h events cause := by
  cases flow with
  | «continue» => cases hc
  | abort reason log =>
    obtain rfl := Phase.finished.inj hc
    exact .aborted reason log

/-- What a step comes to before the end of the loop: the end is not noted yet, and if the loop is
over there is a reason for it. -/
structure Toils (h : Handler σ) (t : Traced (Session σ)) : Prop where
  going : ∀ e ∈ t.events, e.isEnded = false
  reason : ∀ cause, t.value.worker.phase = .finished cause → Reason h t.events cause

/-- The worker serves on. -/
theorem toils_serving {t : Traced (Session σ)} (hg : ∀ e ∈ t.events, e.isEnded = false)
    (hs : t.value.worker.phase = .serving) : Toils h t :=
  ⟨hg, fun cause hc => by rw [hs] at hc; cases hc⟩

/-- The loop is over. -/
theorem toils_finished {t : Traced (Session σ)} {cause : Option Ending}
    (hg : ∀ e ∈ t.events, e.isEnded = false) (hs : t.value.worker.phase = .finished cause)
    (hr : Reason h t.events cause) : Toils h t := by
  refine ⟨hg, fun cause' hc => ?_⟩
  obtain rfl := Phase.finished.inj (hs.symm.trans hc)
  exact hr

theorem going_perform {d : Desk} (hr : d.Ready) (acts : List Act) :
    ∀ e ∈ (d.perform acts).events, e.isEnded = false :=
  (Desk.moves_perform hr acts).each (fun _ => isEnded_of_isOutput)
    (fun _ => isEnded_of_isFarewell) hr

theorem going_transmit {d : Desk} (hr : d.Ready) (parts : List Bytes) (data : Bytes) :
    ∀ e ∈ (d.transmit (Outlet.transmit parts data)).events, e.isEnded = false :=
  (Desk.moves_transmit hr parts data).each (fun _ => isEnded_of_isOutput)
    (fun _ => isEnded_of_isFarewell) hr

theorem toils_dispatch (h : Handler σ) (hr : s.desk.Ready) (hs : s.worker.phase = .serving)
    (data : Bytes) :
    Toils h (s.dispatch h data) := by
  rw [dispatch_eq h hr.unreleased hs]
  have hready := (Desk.moves_transition isWork s.desk .running rfl).ready hr
  exact ⟨List.forall_mem_cons.2 ⟨rfl, going_perform hready _⟩, fun _ => reason_flow⟩

theorem toils_changeOver (h : Handler σ) (hr : s.desk.Ready) (hs : s.worker.phase = .serving) :
    Toils h (s.changeOver h) := by
  let request := s.worker.upgrade.request
  have hacts := going_perform hr (h.connected s.worker.state (some request)).acts
  have hready := (Desk.moves_perform hr (h.connected s.worker.state (some request)).acts).ready hr
  have hsent := going_transmit hready [Bytes.ofText (switchingProtocols request.key)]
    (Bytes.ofText (switchingProtocols request.key))
  have htold : ∀ e ∈ Event.connected s.desk.id s.desk.link.status (some request) ::
      (s.desk.perform (h.connected s.worker.state (some request)).acts).events, e.isEnded = false :=
    List.forall_mem_cons.2 ⟨rfl, hacts⟩
  rw [changeOver_eq h hr.unreleased hs]
  cases hflow : (h.connected s.worker.state (some s.worker.upgrade.request)).flow with
  | abort reason log => exact toils_finished htold rfl (.aborted reason log)
  | «continue» =>
    dsimp only
    cases hup : s.worker.upgrade.request.upgrade with
    | true =>
      refine toils_serving
        (List.forall_mem_append.2 ⟨List.forall_mem_append.2 ⟨htold, hsent⟩, ?_⟩) hs
      exact List.forall_mem_singleton.2 rfl
    | false => exact toils_finished htold rfl (.missing hflow hup)

theorem toils_line (h : Handler σ) (hr : s.desk.Ready) (hs : s.worker.phase = .serving)
    (data rest : Bytes) :
    Toils h (s.line h data rest) := by
  cases hm : s.worker.mode with
  | line =>
    rw [line_line h hm]
    exact toils_dispatch (s := ⟨{ s.worker with buffer := rest }, s.desk⟩) h hr hs data
  | webSocket =>
    rw [line_webSocket h hm,
      request_eq (s := ⟨{ s.worker with buffer := rest }, s.desk⟩) h hr.unreleased hs]
    cases hfeed : (s.worker.upgrade.feed data).1 with
    | «continue» => exact toils_serving (by simp) hs
    | headersDone =>
      exact toils_changeOver
        (s := ⟨{ s.worker with buffer := rest, upgrade := (s.worker.upgrade.feed data).2 }, s.desk⟩)
        h hr hs
    | reject cause =>
      exact toils_finished (going_transmit hr [notImplemented] notImplemented) rfl
        (.violation (by simp [Upgrade.feed_reject_cause hfeed]))

theorem toils_frame (h : Handler σ) (hr : s.desk.Ready) (hs : s.worker.phase = .serving) (f : Frame)
    (rest : Bytes) :
    Toils h (s.frame h f rest) := by
  by_cases hping : f.opcode = .ping
  · rw [frame_ping h hr.unreleased hping]
    exact toils_serving (List.forall_mem_cons.2 ⟨rfl, going_transmit hr _ f.payload⟩) hs
  · by_cases hpong : f.opcode = .pong
    · rw [frame_pong h hpong]
      exact toils_serving (List.forall_mem_singleton.2 rfl) hs
    · have hdispatch :=
        toils_dispatch (s := ⟨{ s.worker with buffer := rest }, s.desk⟩) h hr hs f.payload
      rw [frame_other h hping hpong]
      exact ⟨List.forall_mem_cons.2 ⟨rfl, hdispatch.going⟩,
        fun cause hc => (hdispatch.reason cause hc).mono (List.subset_cons_self ..)⟩

theorem toils_fill (h : Handler σ) (hr : s.desk.Ready) (hs : s.worker.phase = .serving) :
    Toils h s.fill := by
  have hread : ∀ e ∈ s.readEvents, e.isEnded = false :=
    List.forall_mem_append.2 ⟨fun e he => isEnded_of_isFarewell (awaited_farewell hr e he),
    by simp [isEnded]⟩
  have hnoted : ∀ n, Event.isRead (.log n) = true → ∀ e ∈ s.readEvents ++ [.log n],
      e.isEnded = false :=
    fun n hn => List.forall_mem_append.2 ⟨hread, List.forall_mem_singleton.2 (isEnded_of_isRead hn)⟩
  have hfill := filling hs
  generalize s.fill = t at hfill ⊢
  cases hfill with
  | finish | data | interrupted => exact toils_serving hread hs
  | lost => exact toils_serving (hnoted _ rfl) hs
  | cut => exact toils_finished hread rfl (.teardown _)
  | @failed fault =>
    by_cases hmany : maxFaults ≤ s.worker.faults + 1
    · have hmem : Event.log (.readFailed s.desk.outlet.conn fault) ∈
          s.readEvents ++ [.log (.readFailed s.desk.outlet.conn fault)] := List.mem_concat_self
      exact toils_finished (hnoted _ rfl) (if_pos hmany) (.exhausted fault hmem rfl)
    · exact toils_serving (hnoted _ rfl) (if_neg hmany)

theorem toils_conclude (hs : s.worker.phase = .serving) {cause : Option Ending}
    (hc : Reason h [] cause) :
    Toils h (pure (s.conclude cause)) := by
  rw [conclude_eq hs]
  exact toils_finished (List.forall_mem_nil _) rfl hc

/-- **A step before the end of the loop notes no end, and ends the loop only for a reason.** -/
theorem toils_step (h : Handler σ) (thread : Nat) (hr : s.desk.Ready)
    (hs : s.worker.phase = .fresh ∨ s.worker.phase = .serving) : Toils h (s.step h thread) := by
  rcases hs with hs | hs
  · rw [step_fresh h thread hs]
    cases hm : s.worker.mode with
    | webSocket =>
      rw [start_webSocket h thread hm]
      exact toils_serving (List.forall_mem_singleton.2 rfl) rfl
    | line =>
      have hready := (Desk.moves_update (d := s.desk) isWork (.begin thread (.nil _))).ready hr
      rw [start_line h thread hr.unreleased hm]
      exact ⟨List.forall_mem_cons.2 ⟨rfl, List.forall_mem_cons.2 ⟨rfl, going_perform hready _⟩⟩,
        fun _ => reason_flow⟩
  · cases hf : s.desk.outlet.framed with
    | true =>
      rw [step_frames h thread hs hf, serveFrames_eq]
      cases hp : Frame.parse s.worker.buffer with
      | complete f size => exact toils_frame h hr hs f _
      | incomplete =>
        dsimp only
        split
        · exact toils_conclude hs .spent
        · exact toils_fill h hr hs
      | close => exact toils_conclude hs .peerClosed
      | violation cause => exact toils_conclude hs (.violation (Frame.parse_violation hp))
    | false =>
      rw [step_lines h thread hs hf, serveLines_eq]
      split
      · exact toils_line h hr hs _ _
      · split
        · split
          · exact toils_line h hr hs _ _
          · exact toils_conclude hs .spent
        · exact toils_fill h hr hs

/-! ### The lack of an upgrade -/

/-- A handler goes on only with clients that have asked for the upgrade. -/
def Discerns (h : Handler σ) : Prop :=
  ∀ state request, (h.connected state (some request)).flow = .continue → request.upgrade = true

theorem Discerns.not_reason (hh : Discerns h) {events : List Event} :
    ¬ Reason h events (some (.violation .missingUpgrade)) := by
  intro hr
  cases hr with
  | violation hne => exact hne rfl
  | missing hflow hup => exact Bool.false_ne_true (hup.symm.trans (hh _ _ hflow))

/-- A connection has not come to an end for the lack of an upgrade, and none is noted. -/
structure Spared (key : Nat) (past : List Event) (s : Session σ) : Prop where
  cause : s.worker.phase ≠ .finished (some (.violation .missingUpgrade))
  unnoted : .log (.ended key (some (.violation .missingUpgrade))) ∉ past

theorem spared_step {past : List Event} {key : Nat} (hh : Discerns h) (thread : Nat)
    (hl : Living id conn hook past s) (hg : s.isGone = false) (hs : Spared key past s) :
    Spared key (past ++ (s.step h thread).events) (s.step h thread).value := by
  cases hl with
  | gone misuse _ hphase => simp [isGone, hphase] at hg
  | held hheld hphase =>
    have hserve : s.worker.phase = .fresh ∨ s.worker.phase = .serving →
        Spared key (past ++ (s.step h thread).events) (s.step h thread).value := by
      intro hphase
      have ht := toils_step h thread hheld.ready hphase
      refine ⟨fun hc => hh.not_reason (ht.reason _ hc), fun hmem => ?_⟩
      rcases List.mem_append.1 hmem with hmem | hmem
      · exact hs.unnoted hmem
      · cases ht.going _ hmem
    rcases hphase with hphase | hphase | ⟨cause, hphase⟩
    · exact hserve (.inl hphase)
    · exact hserve (.inr hphase)
    · have ht := hheld.told
      rw [← hheld.number] at ht
      rw [step_finished h thread ht hphase]
      refine ⟨by simp [takeDown_eq ht], fun hmem => ?_⟩
      rcases List.mem_append.1 hmem with hmem | hmem
      · exact hs.unnoted hmem
      · rcases List.mem_cons.1 hmem with heq | hmem
        · -- the end is noted with the cause that the worker was left with
          obtain ⟨-, rfl⟩ :
              key = s.desk.outlet.conn ∧ some (.violation .missingUpgrade) = cause := by
            simpa using heq
          exact hs.cause hphase
        · rcases closing_cases _ hmem with hfarewell | hdestroyed
          · cases hfarewell
          · cases hdestroyed

/-- **No connection ends for the lack of an upgrade** if its handler goes on only with clients that
have asked for it. -/
theorem never_missing (hh : Discerns h) (thread : Nat) (hl : Living id conn hook [] s)
    (hs : s.worker.phase = .fresh) (key : Nat) :
    .log (.ended key (some (.violation .missingUpgrade))) ∉ (s.run h thread).events := by
  obtain ⟨⟨-, hspared⟩, -⟩ := run_invariant h thread
    (I := fun past s => Living id conn hook past s ∧ Spared key past s)
    (fun past s hg ⟨hl, hs⟩ => ⟨living_work h thread hl, spared_step hh thread hl hg hs⟩)
    ⟨hl, by simp [hs], by simp⟩
  exact hspared.unnoted

end Session
end NetShell
