import NetShell.Proofs.Requests
import NetShell.Shell

/-! A connection's transport is ended once.

The life of a connection is a list of occasions: someone asks for its end, its worker takes
a step, or it is dropped before its worker has started. Requests may come at any time, also
during the reads, the writes and the callbacks of a step, and when the connection is long
gone (`Session.requested`); whichever comes first before the end shows in the calls that it
makes (`Session.asked_life`). However a life goes, it can be brought to an end, and at its end
the transport was shut down once and then closed once, the notice of a request was given once
or not at all, and nothing of the connection is left that a later request could reach
(`Session.torn_down_once`). -/
namespace NetShell
open Event

variable {σ : Type}

/-- What may happen next to a connection. -/
inductive Occasion
  /-- someone asks for its end -/
  | ask
  /-- its worker takes a step on a thread -/
  | work (thread : Nat)
  /-- it is dropped, if its worker has not started -/
  | drop

namespace Session

/-- A request from outside to shut the connection down. -/
def ask (s : Session σ) : Traced (Session σ) := do
  let hub ← s.desk.hub.shutdown s.desk.id
  pure (s.seat hub)

/-- What an occasion comes to. -/
def meet (h : Handler σ) (s : Session σ) : Occasion → Traced (Session σ)
  | .ask => s.ask
  | .work thread => s.step h thread
  | .drop =>
    match s.worker.phase with
    | .fresh => s.discard
    | _ => pure s

/-- A connection's life, one occasion after another. -/
def life (h : Handler σ) : List Occasion → Session σ → Traced (Session σ)
  | [], s => pure s
  | occasion :: rest, s => do
    let s ← s.meet h occasion
    life h rest s

/-- Whether someone asks for the connection's end on an occasion: from outside, or meanwhile. -/
def requests (h : Handler σ) (s : Session σ) : Occasion → Bool
  | .ask => true
  | .work thread => s.hears h thread
  | .drop => false

/-- Whether someone asks for the connection's end in a part of its life, as long as it is not
gone. -/
def requested (h : Handler σ) : List Occasion → Session σ → Bool
  | [], _ => false
  | occasion :: rest, s => !s.isGone &&
    (s.requests h occasion || requested h rest (s.meet h occasion).value)

/-- A connection has been destroyed, and its transport was ended once: by the first request,
which has claimed the status, or when it was destroyed. -/
structure TornDown (id conn : Nat) (hook : Hook) (past : List Event) (s : Session σ) : Prop where
  calls : calls id past =
    let status := if asked id past then Status.closing else .closed
    [.shutdown id status hook.shutdowns.head?, .close id status hook.closes.head?]
  logged : logged id false past = if asked id past then 1 else 0
  destroyed : ∃ before, past = before ++ [.log (.destroyed conn !asked id past)] ∧
    ∀ e ∈ before, e.isDestroyed = false
  status : (s.desk.hub.link id).status = .closed
  transport : (s.desk.hub.link id).hook = none
  entry : s.desk.hub.roster.get? conn = none ∧ id ∉ s.desk.hub.roster.toList
  later : s.desk.hub.shutdown id = pure s.desk.hub
  sound : s.desk.hub.Sound

variable {id conn : Nat} {hook : Hook} {past : List Event} {s : Session σ}

/-! ### The moment of destruction -/

theorem calls_closing (asked : Bool) :
    calls id (closing id hook conn asked) =
      if asked then []
      else [.shutdown id .closed hook.shutdowns.head?, .close id .closed hook.closes.head?] := by
  cases asked with
  | true => rfl
  | false =>
    have hcalls := Link.calls_farewell id id .closed hook
    rw [if_pos rfl] at hcalls
    rw [closing, calls_append]
    simp only [Bool.false_eq_true, if_false, hcalls]
    rfl

theorem logged_closing (last asked : Bool) : logged id last (closing id hook conn asked) = 0 := by
  cases asked with
  | true => rfl
  | false =>
    rw [closing]
    simp only [Bool.false_eq_true, if_false, Link.logged_farewell]
    rfl

/-- What a destroyed connection's history tells of the calls that ended its transport; `front`
is what its worker does first. -/
theorem told_closing (conn : Nat) {l : Link} (ht : Link.Told id hook past l) {front : List Event}
    (hfront : ∀ e ∈ front, e.isWork = true) :
    let events := past ++ (front ++ closing id hook conn (asked id past))
    let status := if asked id past then Status.closing else .closed
    asked id events = asked id past ∧
      calls id events = [.shutdown id status hook.shutdowns.head?,
        .close id status hook.closes.head?] ∧
      logged id false events = if asked id past then 1 else 0 := by
  intro events status
  have hcalls : calls id events = calls id past ++
      calls id (closing id hook conn (asked id past)) := by
    simp only [events, calls_append, calls_of_isWork hfront, List.nil_append]
  have hlogged : logged id false events = logged id false past := by
    simp only [events, logged_append, logged_of_isWork hfront, logged_closing, Nat.add_zero]
  have hasked := ht.isClosing
  rw [calls_closing] at hcalls
  cases ht with
  | free _ _ _ hstatus hnone hunlogged =>
    have hpast : asked id past = false := hasked.symm.trans hstatus
    rw [hpast, hnone] at hcalls
    simp only [status, hpast]
    refine ⟨?_, hcalls, hlogged.trans hunlogged⟩
    rw [← asked_calls, hcalls]
    simp [asked, asks]
  | claimed _ _ hstatus hended hnoted =>
    have hpast : asked id past = true := by rw [← hasked, hstatus]; rfl
    rw [hpast, hended] at hcalls
    simp only [status, hpast]
    refine ⟨?_, hcalls, hlogged.trans hnoted⟩
    rw [← asked_calls, hcalls]
    simp [asked, asks]

/-- A worker at its desk whose connection is a member and has not been destroyed. -/
structure Held (id conn : Nat) (hook : Hook) (past : List Event) (s : Session σ) : Prop
    extends Attending id hook past s where
  key : s.desk.outlet.conn = conn
  entry : s.desk.hub.roster.get? conn = some id
  held : s.desk.link.held = true
  intact : ∀ e ∈ past, e.isDestroyed = false

theorem Held.moves (hh : Held id conn hook past s) {events : List Event} {t : Session σ}
    (hm : Desk.Moves isWork s.desk events t.desk) : Held id conn hook (past ++ events) t := by
  refine ⟨hh.toAttending.moves hm, hm.conn.trans hh.key, ?_, ?_,
    List.forall_mem_append.2 ⟨hh.intact, ?_⟩⟩
  · rw [hm.course.members.2]
    exact hh.entry
  · rw [Desk.link, hm.id]
    exact hm.course.held hh.ready.sound hh.ready.known hh.held
  · exact hm.course.each (fun _ => isDestroyed_of_isWork) (fun _ => isDestroyed_of_isFarewell)
      hh.ready.sound
      hh.ready.known

/-- A stop of the server reaches the connection. -/
theorem Held.live (hh : Held id conn hook past s) : s.desk.id ∈ s.desk.hub.live := by
  rw [hh.number]
  refine List.mem_filter.2 ⟨Slab.mem_toList.2 ⟨conn, hh.entry⟩, ?_⟩
  rw [← hh.number]
  exact hh.held

/-- A closed connection's transport is out of reach of every request. -/
theorem shutdown_closed {hub : Hub} (hs : hub.Sound) (hknown : id < hub.links.length)
    (hstatus : (hub.link id).status = .closed) (htorn : (hub.link id).torn = true) :
    hub.shutdown id = pure hub := by
  have hl : { hub.link id with status := (hub.link id).status.claimed } = hub.link id := by
    rw [hstatus]
    show { hub.link id with status := .closed } = hub.link id
    rw [← hstatus]
  rw [Hub.shutdown_eq, Link.shutdown_torn htorn, hl]
  show (⟨hub.setLink (hub.link id), []⟩ : Traced Hub) = ⟨hub, []⟩
  rw [Hub.setLink_link hs hknown]

/-- **Taking a connection down ends its transport, unless a request has done so.** -/
theorem tornDown_takeDown (hh : Held id conn hook past s) {front : List Event}
    (hfront : ∀ e ∈ front, e.isWork = true) (misuse : Option Misuse) :
    TornDown id conn hook (past ++ (front ++ (s.takeDown misuse).events))
      (s.takeDown misuse).value := by
  obtain ⟨hasked, hcalls, hlogged⟩ := told_closing conn hh.told hfront
  obtain rfl := hh.number
  have hsound := hh.ready.sound
  have hknown := hh.ready.known
  let l := { s.desk.link with status := .closed, torn := true, hook := none }
  let left := (s.desk.hub.setLink l).deregister conn
  have hl : left.link s.desk.id = l := Hub.link_setLink (hsound.link_id hknown) hknown
  have hleft : left.Sound := Hub.sound_deregister (Hub.sound_setLink hsound fun _ => rfl) conn
  have hlater :=
    shutdown_closed hleft (by simpa [left, Hub.deregister] using hknown) (congrArg Link.status hl)
    (congrArg Link.torn hl)
  rw [takeDown_eq hh.told, hh.key]
  refine ⟨?_, ?_, ?_, ?_, ?_, ⟨Slab.get?_erase _ _, ?_⟩, hlater, hleft⟩
  · rw [hasked]
    exact hcalls
  · rw [hasked]
    exact hlogged
  · rw [hasked]
    refine ⟨past ++ (front ++
      if asked s.desk.id past then [] else Link.farewell s.desk.id .closed hook), ?_, ?_⟩
    · simp only [closing, List.append_assoc]
    · refine List.forall_mem_append.2 ⟨hh.intact,
        List.forall_mem_append.2 ⟨fun e he => ?_, fun e he => ?_⟩⟩
      · exact isDestroyed_of_isWork (hfront e he)
      · split at he
        · cases he
        · exact isDestroyed_of_isFarewell (Link.isFarewell_of_farewell e he)
  · show (left.link s.desk.id).status = .closed
    rw [hl]
  · show (left.link s.desk.id).hook = none
    rw [hl]
  · exact Slab.not_mem_erase hsound.once hh.entry

/-! ### Occasions -/

/-- What holds of a connection after any part of its life: its worker is at its desk, or it has
been destroyed. -/
inductive Living (id conn : Nat) (hook : Hook) (past : List Event) (s : Session σ) : Prop
  | held : Held id conn hook past s →
      s.worker.phase = .fresh ∨ s.worker.phase = .serving ∨
      (∃ cause, s.worker.phase = .finished cause) →
      Living id conn hook past s
  | gone (misuse : Option Misuse) : s.desk.id = id → s.worker.phase = .gone misuse →
      TornDown id conn hook past s →
      Living id conn hook past s

theorem ask_eq (s : Session σ) :
    s.ask = ⟨s.seat (s.desk.hub.shutdown s.desk.id).value,
      (s.desk.hub.shutdown s.desk.id).events⟩ := by
  simp [ask, bind, pure]

theorem living_ask (hl : Living id conn hook past s) :
    Living id conn hook (past ++ s.ask.events) s.ask.value := by
  rw [ask_eq]
  cases hl with
  | held hh hphase =>
    have hcourse := Hub.course_shutdown isWork s.desk.hub s.desk.id hh.ready.known
    exact .held (hh.moves (t := s.seat _) ⟨rfl, rfl, rfl, hcourse⟩) hphase
  | gone misuse hid hphase ht =>
    subst hid
    rw [ht.later, Traced.events_pure, List.append_nil]
    exact .gone misuse rfl hphase ht

theorem living_work (h : Handler σ) (thread : Nat) (hl : Living id conn hook past s) :
    Living id conn hook (past ++ (s.step h thread).events) (s.step h thread).value := by
  have hserve : Held id conn hook past s → s.worker.phase = .fresh ∨ s.worker.phase = .serving →
      Living id conn hook (past ++ (s.step h thread).events) (s.step h thread).value := by
    intro hh hphase
    have hm := moves_step h thread hh.ready hphase
    exact .held (hh.moves hm.desk) (.inr hm.phase)
  cases hl with
  | held hh hphase =>
    rcases hphase with hphase | hphase | ⟨cause, hphase⟩
    · exact hserve hh (.inl hphase)
    · exact hserve hh (.inr hphase)
    · have hnumber := hh.number
      rw [step_last h thread hphase]
      exact .gone none (by rw [← hnumber]; rfl) rfl (tornDown_takeDown hh (by simp [isWork]) none)
  | gone misuse hid hphase ht =>
    have hstep : s.step h thread = pure s := by simp [step, hphase]
    rw [hstep, Traced.events_pure, List.append_nil]
    exact .gone misuse hid hphase ht

theorem living_drop (h : Handler σ) (hl : Living id conn hook past s) :
    Living id conn hook (past ++ (s.meet h .drop).events) (s.meet h .drop).value := by
  simp only [meet]
  split
  · cases hl with
    | held hh =>
      have hnumber := hh.number
      exact .gone none (by rw [← hnumber]; rfl) rfl
        (tornDown_takeDown hh (List.forall_mem_nil _) none)
    | gone misuse _ hphase => simp [hphase] at *
  · simpa using hl

/-- **Whatever happens next keeps what holds of a connection.** -/
theorem living_meet (h : Handler σ) (occasion : Occasion) (hl : Living id conn hook past s) :
    Living id conn hook (past ++ (s.meet h occasion).events) (s.meet h occasion).value := by
  cases occasion with
  | ask => exact living_ask hl
  | work thread => exact living_work h thread hl
  | drop => exact living_drop h hl

/-- No misuse has broken the loop of a worker that is through. -/
def Whole (s : Session σ) : Prop := ∀ misuse, s.worker.phase = .gone misuse → misuse = none

/-- **Whatever happens, no misuse breaks the loop.** -/
theorem whole_meet (h : Handler σ) (occasion : Occasion) (hl : Living id conn hook past s)
    (hw : s.Whole) :
    (s.meet h occasion).value.Whole := by
  have hdown : (s.takeDown none).value.Whole := fun misuse hphase => (Phase.gone.inj hphase).symm
  cases occasion with
  | ask =>
    intro misuse hphase
    have hsame : s.ask.value.worker = s.worker := by rw [ask_eq]; rfl
    rw [meet, hsame] at hphase
    exact hw misuse hphase
  | drop =>
    simp only [meet]
    split
    · exact hdown
    · exact hw
  | work thread =>
    show (s.step h thread).value.Whole
    cases hl with
    | gone misuse _ hphase =>
      have hstep : s.step h thread = pure s := by simp [step, hphase]
      rw [hstep]
      exact hw
    | held hh hphase =>
      have hserve : s.worker.phase = .fresh ∨ s.worker.phase = .serving →
          (s.step h thread).value.Whole := by
        intro hphase misuse hgone
        rcases (moves_step h thread hh.ready hphase).phase with hserving | ⟨cause, hfinished⟩
        · cases hserving.symm.trans hgone
        · cases hfinished.symm.trans hgone
      rcases hphase with hphase | hphase | ⟨cause, hphase⟩
      · exact hserve (.inl hphase)
      · exact hserve (.inr hphase)
      · rw [step_last h thread hphase]
        exact hdown

/-- A request to a connection of which nothing is left does nothing. -/
theorem ask_gone (hl : Living id conn hook past s) (hg : s.isGone = true) : s.ask = pure s := by
  cases hl with
  | held _ hphase =>
    rcases hphase with hphase | hphase | ⟨cause, hphase⟩ <;> simp [isGone, hphase] at hg
  | gone misuse hid _ ht =>
    subst hid
    rw [ask_eq, ht.later]
    rfl

theorem meet_gone {h : Handler σ} (hl : Living id conn hook past s) (hg : s.isGone = true)
    (occasion : Occasion) :
    s.meet h occasion = pure s := by
  cases occasion with
  | ask => exact ask_gone hl hg
  | work thread =>
    show s.step h thread = pure s
    unfold isGone at hg
    unfold step
    split at hg
    · rw [‹s.worker.phase = _›]
    · cases hg
  | drop =>
    simp only [meet]
    split
    · rename_i hphase
      simp [isGone, hphase] at hg
    · rfl

/-- A request from outside is like any other. -/
theorem moves_asked (ha : Attending id hook past s) (Own : Event → Bool) :
    Desk.Moves Own s.desk s.ask.events s.ask.value.desk := by
  rw [ask_eq]
  exact ⟨rfl, rfl, rfl, Hub.course_shutdown Own s.desk.hub s.desk.id ha.ready.known⟩

theorem asked_farewell (ha : Attending id hook past s) : ∀ e ∈ s.ask.events, e.isFarewell = true :=
  (moves_asked ha fun _ => false).each (by simp) (fun _ he => he) ha.ready

theorem worker_ask (s : Session σ) : s.ask.value.worker = s.worker := by rw [ask_eq]; rfl

theorem outlet_ask (s : Session σ) : s.ask.value.desk.outlet = s.desk.outlet := by rw [ask_eq]; rfl

/-- A request from outside leaves the worker at its lines. -/
theorem AtLines.asked {mode : Mode} (ha : AtLines mode id hook past s) :
    AtLines mode id hook (past ++ s.ask.events) s.ask.value :=
  ha.moves (moves_asked ha.toAttending isWork) (congrArg Worker.mode (worker_ask s))
    (congrArg Outlet.framed (outlet_ask s))

theorem living_life (h : Handler σ) (occasions : List Occasion) (hl : Living id conn hook past s) :
    Living id conn hook (past ++ (s.life h occasions).events) (s.life h occasions).value := by
  induction occasions generalizing past s with
  | nil => simpa [life] using hl
  | cons occasion rest ih =>
    have := ih (living_meet h occasion hl)
    rw [List.append_assoc] at this
    exact this

/-- The worker of a connection that has been accepted has not started. -/
theorem Accepted.whole {mode : Mode} {readSize : Nat} {state : σ} {t : Transport}
    (ha : Accepted mode readSize state t s) : s.Whole := by
  intro misuse hgone
  rw [ha.worker] at hgone
  cases hgone

theorem whole_life (h : Handler σ) (occasions : List Occasion) (hl : Living id conn hook past s)
    (hw : s.Whole) :
    (s.life h occasions).value.Whole := by
  induction occasions generalizing past s with
  | nil => exact hw
  | cons occasion rest ih => exact ih (living_meet h occasion hl) (whole_meet h occasion hl hw)

theorem life_append (h : Handler σ) (a b : List Occasion) (s : Session σ) :
    s.life h (a ++ b) =
      ⟨((s.life h a).value.life h b).value, (s.life h a).events ++
        ((s.life h a).value.life h b).events⟩ := by
  induction a generalizing s with
  | nil => simp [life]
  | cons occasion rest ih =>
    show (do life h (rest ++ b) (← s.meet h occasion)) = _
    simp [bind, ih, life]

/-- A run is a life in which the worker takes one step after another. -/
theorem run_eq_life (h : Handler σ) (thread : Nat) (s : Session σ) :
    ∃ steps, s.run h thread = s.life h (List.replicate steps (.work thread)) := by
  induction hw : s.worker.work using Nat.strongRecOn generalizing s with
  | _ work ih =>
    cases hg : s.isGone with
    | true => exact ⟨0, by rw [run_gone hg]; rfl⟩
    | false =>
      obtain ⟨steps, hsteps⟩ := ih _ (hw ▸ work_step h thread s hg) (s.step h thread).value rfl
      refine ⟨steps + 1, ?_⟩
      rw [run_step hg, hsteps]
      rfl

/-- The run of a connection that has not been broken ends without a misuse. -/
theorem gone_run (h : Handler σ) (thread : Nat) (hl : Living id conn hook past s) (hw : s.Whole) :
    (s.run h thread).value.worker.phase = .gone none := by
  have hgone := isGone_run h thread s
  obtain ⟨steps, hsteps⟩ := run_eq_life h thread s
  have hwhole := whole_life h (List.replicate steps (.work thread)) hl hw
  rw [← hsteps] at hwhole
  unfold isGone at hgone
  split at hgone
  · rename_i misuse hphase
    rw [hphase, hwhole misuse hphase]
  · cases hgone

/-! ### Requests -/

/-- After its loop the worker takes the connection down, whatever is asked. -/
theorem hears_finished (h : Handler σ) (thread : Nat) {cause : Option Ending}
    (hh : Held id conn hook past s) (hs : s.worker.phase = .finished cause) :
    s.hears h thread = false := by
  have hquiet : ∀ e ∈ Event.log (.ended s.desk.outlet.conn cause) ::
      closing s.desk.id hook s.desk.outlet.conn (asked s.desk.id past), e.isInput = false :=
    List.forall_mem_cons.2 ⟨rfl, isInput_closing⟩
  have htold : Link.Told s.desk.id hook past s.desk.link := by
    rw [hh.number]
    exact hh.told
  have hdown := takeDown_eq htold none
  have hpending : (s.takeDown none).value.pending = s.pending := by rw [hdown]; rfl
  simp only [hears, step_finished h thread htold hs, wishes_of_quiet h _ hquiet, hpending]
  simp

/-- **On any occasion before the end**, what the history says of requests is what was asked for. -/
theorem asked_meet (h : Handler σ) (hl : Living id conn hook past s) (hg : s.isGone = false)
    (occasion : Occasion) :
    asked id (past ++ (s.meet h occasion).events) = (asked id past || s.requests h occasion) := by
  cases hl with
  | gone misuse _ hphase => simp [isGone, hphase] at hg
  | held hh hphase =>
    have hdown : ∀ front, (∀ e ∈ front, e.isWork = true) →
        asked id (past ++ (front ++ (s.takeDown none).events)) = asked id past := by
      intro front hfront
      obtain rfl := hh.number
      rw [takeDown_eq hh.told]
      exact (told_closing _ hh.told hfront).1
    have hserve : ∀ thread, s.worker.phase = .fresh ∨ s.worker.phase = .serving →
        asked id (past ++ (s.step h thread).events) = (asked id past || s.hears h thread) := by
      intro thread hopen
      have hmoves := moves_step h thread hh.ready hopen
      have hclaimed := (heard_step (h := h) thread hh.toAttending hh.live hopen).claimed
      rw [(hh.moves hmoves.desk).told.isClosing, hh.told.isClosing] at hclaimed
      exact hclaimed
    cases occasion with
    | ask =>
      obtain rfl := hh.number
      have hasked := hh.told.asked_ask
      simp only [meet, requests, ask_eq, Hub.shutdown_eq, Bool.or_true]
      exact hasked
    | work thread =>
      rcases hphase with hfresh | hserving | ⟨cause, hfinished⟩
      · exact hserve thread (.inl hfresh)
      · exact hserve thread (.inr hserving)
      · simp only [meet, requests, hears_finished h thread hh hfinished, Bool.or_false]
        rw [step_last h thread hfinished]
        exact hdown _ (by simp [isWork])
    | drop =>
      simp only [meet, requests, Bool.or_false]
      split
      · exact hdown [] (List.forall_mem_nil _)
      · simp

theorem life_gone {h : Handler σ} (hl : Living id conn hook past s) (hg : s.isGone = true)
    (occasions : List Occasion) : s.life h occasions = pure s := by
  induction occasions with
  | nil => rfl
  | cons occasion rest ih =>
    show (do life h rest (← s.meet h occasion)) = pure s
    rw [meet_gone hl hg]
    simp only [bind, Traced.value_pure, Traced.events_pure, ih, List.append_nil]
    rfl

/-- **The history tells whether a connection was asked to shut down before its end**, wherever a
request came in: from outside, while its transport read or wrote, in a callback, or by a stop. -/
theorem asked_life (h : Handler σ) (hl : Living id conn hook past s) (occasions : List Occasion) :
    asked id (past ++ (s.life h occasions).events) =
      (asked id past || s.requested h occasions) := by
  induction occasions generalizing past s with
  | nil => simp [life, requested]
  | cons occasion rest ih =>
    cases hg : s.isGone with
    | true =>
      rw [life_gone hl hg]
      simp [requested, hg]
    | false =>
      have hrest := ih (living_meet h occasion hl)
      rw [asked_meet h hl hg, List.append_assoc, Bool.or_assoc] at hrest
      rw [requested, hg]
      exact hrest

/-- A request from outside made before the end shows in the history. -/
theorem asked_of_ask (h : Handler σ) {before after : List Occasion} (hl : Living id conn hook [] s)
    (hg : (s.life h before).value.isGone = false) :
    asked id (s.life h (before ++ .ask :: after)).events = true := by
  have hlater := asked_life h (living_life h before hl) (.ask :: after)
  rw [life_append]
  simpa [requested, requests, hg] using hlater

/-! ### Whole lives -/

theorem living_of_accept? {hub : Hub} (hs : hub.Sound) {mode : Mode} {readSize : Nat} {state : σ}
    {t : Transport} {started : Int} (ha : accept? mode readSize state t { started } hub = some s) :
    Living s.desk.id s.desk.outlet.conn t.hook [] s := by
  have haccepted := accepted_of_accept? hs ha
  refine .held ⟨haccepted.attending, rfl, haccepted.entry,
    by rw [link_of_accept? hs ha], by simp⟩ (.inl ?_)
  rw [haccepted.worker]

/-- The next connection finds a sound hub, whatever this one's life was and has come to. -/
theorem sound_life (h : Handler σ) {hub : Hub} (hs : hub.Sound) {mode : Mode} {readSize : Nat}
    {state : σ} {t : Transport} {started : Int} {s : Session σ}
    (ha : accept? mode readSize state t { started } hub = some s) (occasions : List Occasion) :
    (s.life h occasions).value.desk.hub.Sound := by
  have hlife := living_life h occasions (living_of_accept? hs ha)
  cases hlife with
  | held hh => exact hh.ready.sound
  | gone misuse _ _ ht => exact ht.sound

/-- **A connection's transport is ended exactly once**, whatever its life: it can always be
brought to an end, at its end it is torn down, and a request made before that shows, from outside
or while its worker is at work. -/
theorem torn_down_once (h : Handler σ) (thread : Nat) {hub : Hub} (hs : hub.Sound) {mode : Mode}
    {readSize : Nat} {state : σ} {t : Transport} {started : Int} {s : Session σ}
    (ha : accept? mode readSize state t { started } hub = some s) (occasions : List Occasion) :
    (∃ steps, (s.life h (occasions ++ List.replicate steps (.work thread))).value.isGone = true) ∧
      ((s.life h occasions).value.isGone = true →
        TornDown s.desk.id s.desk.outlet.conn t.hook (s.life h occasions).events
          (s.life h occasions).value) ∧
      (∀ before after, occasions = before ++ .ask :: after →
        (s.life h before).value.isGone = false →
        asked s.desk.id (s.life h occasions).events = true) ∧
      asked s.desk.id (s.life h occasions).events = s.requested h occasions := by
  have hfresh := living_of_accept? hs ha
  refine ⟨?_, fun hg => ?_, ?_, ?_⟩
  · obtain ⟨steps, hsteps⟩ := run_eq_life h thread (s.life h occasions).value
    refine ⟨steps, ?_⟩
    rw [life_append, ← hsteps]
    exact isGone_run h thread _
  · have hend := living_life h occasions hfresh
    rw [List.nil_append] at hend
    cases hend with
    | gone misuse _ _ ht => exact ht
    | held _ hphase =>
      rcases hphase with hphase | hphase | ⟨cause, hphase⟩
      all_goals
        rw [isGone, hphase] at hg
        cases hg
  · rintro before after rfl hg
    exact asked_of_ask h hfresh hg
  · exact asked_life h hfresh occasions

/-- A connection whose transport fails to shut down is asked to end once before it is dropped
unrun and once after it. -/
theorem torn_down_once_dropped :
    let hub : Hub := { capacity := 1 }
    let h := Shell.handler { prompt := "> ", mode := .webSocket }
    let hook : Hook := { shutdowns := [.plain .notConnected] }
    hub.Sound ∧ ∃ s, accept? .webSocket 16 () { hook } { started := 0 } hub = some s ∧
      (s.life h [.ask, .drop, .ask]).value.isGone = true ∧
      TornDown s.desk.id s.desk.outlet.conn hook (s.life h [.ask, .drop, .ask]).events
        (s.life h [.ask, .drop, .ask]).value ∧
      asked s.desk.id (s.life h [.ask, .drop, .ask]).events = true := by
  intro hub h hook
  have hs : hub.Sound := Hub.sound_empty 1
  exact ⟨hs, _, rfl, rfl, (torn_down_once h 1 hs rfl [.ask, .drop, .ask]).2.1 rfl,
    (torn_down_once h 1 hs rfl [.ask, .drop, .ask]).2.2.1 [] [.drop, .ask] rfl rfl⟩

end Session
end NetShell
