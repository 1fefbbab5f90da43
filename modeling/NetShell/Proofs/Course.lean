import NetShell.Proofs.Events
import NetShell.Proofs.Roster

/-! What may happen to the shared half of a connection.

Whatever a worker does before it takes its connection down, it does to the hub by few
elementary moves: it has an event of its own, it moves its status on, it asks a connection
to shut down, it raises the stopping flag. A *course* is any number of these, with their
events; `Own` says which events the worker may have of its own. What each move keeps, a
course keeps: a hub stays sound (`Hub.Course.sound`), and a connection's link stays what
the history tells of it (`Hub.Course.told`). -/
namespace NetShell

namespace Link

/-! ### Ending a transport -/

/-- The events of shutting a transport down and closing it. -/
def farewell (id : Nat) (status : Status) (hook : Hook) : List Event :=
  .shutdown id status hook.shutdowns.head? :: (noteFailure hook.shutdowns.head?).events ++
    .close id status hook.closes.head? :: (noteFailure hook.closes.head?).events

variable {l : Link} {hook : Hook}

theorem hangUp_torn (h : l.torn = true) : l.hangUp = pure (l, false) := by
  simp [hangUp, h]

theorem hangUp_open (h : l.torn = false) (hh : l.hook = some hook) :
    l.hangUp = ⟨({ l with torn := true, hook := some hook.shutdown.2.close.2 }, true),
      farewell l.id l.status hook⟩ := by
  simp [hangUp, h, hh, bind, pure, Traced.record, farewell, Hook.shutdown, Hook.close]

theorem shutdown_torn (h : l.torn = true) :
    l.shutdown = pure { l with status := l.status.claimed } := by
  rw [shutdown, hangUp_torn (l := { l with status := l.status.claimed }) h]
  rfl

theorem shutdown_open (h : l.torn = false) (hh : l.hook = some hook) :
    l.shutdown =
      ⟨{ l with status := l.status.claimed, torn := true, hook := some hook.shutdown.2.close.2 },
        farewell l.id l.status.claimed hook ++ [.log .shutDown]⟩ := by
  rw [shutdown, hangUp_open (l := { l with status := l.status.claimed }) h hh]
  simp [bind, pure, Traced.note, Traced.record]

theorem destroy_torn (h : l.torn = true) :
    l.destroy = pure ({ l with status := .closed, hook := none }, false) := by
  rw [destroy, hangUp_torn (l := { l with status := .closed }) h]
  rfl

theorem destroy_open (h : l.torn = false) (hh : l.hook = some hook) :
    l.destroy =
      ⟨({ l with status := .closed, torn := true, hook := none }, true),
        farewell l.id .closed hook⟩ := by
  rw [destroy, hangUp_open (l := { l with status := .closed }) h hh]
  simp [bind, pure]

theorem isWork_of_noteFailure {failure : Option Fault} :
    ∀ e ∈ (noteFailure failure).events, e.isWork = true := by
  intro e he
  cases failure with
  | none => cases he
  | some fault =>
    simp only [noteFailure] at he
    split at he
    · cases he
    · simp only [Traced.events_note, List.mem_singleton] at he
      subst he
      rfl

theorem isFarewell_of_noteFailure {failure : Option Fault} :
    ∀ e ∈ (noteFailure failure).events, e.isFarewell = true := by
  intro e he
  cases failure with
  | none => cases he
  | some fault =>
    simp only [noteFailure] at he
    split at he
    · cases he
    · simp only [Traced.events_note, List.mem_singleton] at he
      subst he
      rfl

theorem isFarewell_of_farewell {id : Nat} {status : Status} :
    ∀ e ∈ farewell id status hook, e.isFarewell = true := by
  intro e he
  simp only [farewell, List.cons_append, List.mem_cons, List.mem_append] at he
  rcases he with rfl | he | rfl | he
  · rfl
  · exact isFarewell_of_noteFailure e he
  · rfl
  · exact isFarewell_of_noteFailure e he

theorem calls_farewell (id j : Nat) (status : Status) (hook : Hook) :
    Event.calls id (farewell j status hook) =
      if j = id then [.shutdown j status hook.shutdowns.head?,
        .close j status hook.closes.head?] else [] := by
  have hnone : ∀ f, Event.calls id (noteFailure f).events = [] :=
    fun _ => Event.calls_of_isWork isWork_of_noteFailure
  simp only [Event.calls] at hnone
  by_cases h : j = id
  · simp [farewell, Event.calls, Event.ends, h, hnone]
  · simp [farewell, Event.calls, Event.ends, h, hnone]

theorem closedLast_noteFailure (id : Nat) (last : Bool) (failure : Option Fault) :
    Event.closedLast id last (noteFailure failure).events = last := by
  cases failure with
  | none => rfl
  | some fault =>
    simp only [noteFailure]
    split <;> rfl

/-- After a transport was closed, the notice of a request is about that transport. -/
theorem logged_farewell (id j : Nat) (last : Bool) (status : Status) (hook : Hook)
    (rest : List Event) :
    Event.logged id last (farewell j status hook ++ rest) = Event.logged id (j == id) rest := by
  have hnone : ∀ f last, Event.logged id last (noteFailure f).events = 0 := fun _ _ =>
    Event.logged_of_isWork isWork_of_noteFailure
  simp only [farewell, List.cons_append, List.append_assoc, Event.logged,
    Event.logged_append, hnone, closedLast_noteFailure, Nat.zero_add]

/-- Without a transport that it could end, a connection has been torn down. -/
theorem bound_shutdown (h : l.hook = none → l.torn = true) :
    l.shutdown.value.hook = none → l.shutdown.value.torn = true := by
  cases ht : l.torn with
  | true => simp [shutdown_torn ht, ht]
  | false =>
    cases hh : l.hook with
    | none => simp [h hh] at ht
    | some hook => simp [shutdown_open ht hh]

@[simp] theorem id_shutdown : l.shutdown.value.id = l.id := by
  simp only [shutdown, Traced.value_bind, hangUp]
  split
  · rfl
  · split <;> rfl

/-- A request claims the status, whether or not it is the first. -/
theorem status_shutdown (l : Link) : l.shutdown.value.status = l.status.claimed := by
  simp only [shutdown, Traced.value_bind, hangUp]
  split
  · rfl
  · split <;> rfl

theorem isClosing_shutdown (l : Link) : l.shutdown.value.status.isClosing = true := by
  rw [status_shutdown]
  cases l.status <;> rfl

/-- A worker's move takes no claim back and makes none. -/
theorem isClosing_transition {next : Status} (hn : next.isClosing = false) :
    (l.transition next).status.isClosing = l.status.isClosing := by
  cases hl : l.status.isClosing with
  | true => simp only [transition, Status.moved, hl, if_true]
  | false => simp only [transition, Status.moved, hl, Bool.false_eq_true, if_false, hn]

/-- Requests do not decide whether someone holds a connection. -/
theorem held_shutdown (l : Link) : l.shutdown.value.held = l.held := by
  simp only [shutdown, Traced.value_bind, hangUp]
  split
  · rfl
  · split <;> rfl

theorem isFarewell_of_shutdown (h : l.hook = none → l.torn = true) :
    ∀ e ∈ l.shutdown.events, e.isFarewell = true := by
  intro e he
  cases ht : l.torn with
  | true => simp [shutdown_torn ht] at he
  | false =>
    cases hh : l.hook with
    | none => simp [h hh] at ht
    | some hook =>
      rw [shutdown_open ht hh] at he
      rcases List.mem_append.1 he with he | he
      · exact isFarewell_of_farewell e he
      · rw [List.mem_singleton.1 he]
        rfl

/-- A request to one connection is not about another. -/
theorem shutdown_ne {id : Nat} (hl : l.id ≠ id) (h : l.hook = none → l.torn = true) :
    Event.calls id l.shutdown.events = [] ∧ ∀ last, Event.logged id last l.shutdown.events = 0 := by
  cases ht : l.torn with
  | true => simp [shutdown_torn ht, Event.logged]
  | false =>
    cases hh : l.hook with
    | none => simp [h hh] at ht
    | some hook =>
      rw [shutdown_open ht hh]
      refine ⟨?_, fun last => ?_⟩
      · rw [Event.calls_append, calls_farewell, if_neg hl]
        rfl
      · rw [logged_farewell]
        simp [Event.logged, hl]

/-! ### What a history tells of a link -/

/-- What the events `past` of a connection with transport `hook` tell of its link before it
is destroyed: nobody has asked for its end, its transport is untouched and its status free;
or someone has, and its transport was ended once and its status claimed. -/
inductive Told (id : Nat) (hook : Hook) (past : List Event) (l : Link) : Prop
  | free (number : l.id = id) (torn : l.torn = false) (transport : l.hook = some hook)
      (status : l.status.isClosing = false) (calls : Event.calls id past = [])
      (logged : Event.logged id false past = 0)
  | claimed (number : l.id = id) (torn : l.torn = true) (status : l.status = .closing)
      (calls : Event.calls id past =
        [.shutdown id .closing hook.shutdowns.head?, .close id .closing hook.closes.head?])
      (logged : Event.logged id false past = 1)

namespace Told

variable {id : Nat} {past : List Event}

/-- The status is claimed just when the connection was asked to shut down. -/
theorem isClosing (h : Told id hook past l) : l.status.isClosing = Event.asked id past := by
  rw [← Event.asked_calls]
  cases h with
  | free _ _ _ status calls => rw [status, calls]; rfl
  | claimed _ _ status calls => rw [status, calls]; simp [Status.isClosing, Event.asked, Event.asks]

theorem bound (h : Told id hook past l) : l.hook = none → l.torn = true := by
  cases h with
  | free _ _ transport => simp [transport]
  | claimed _ torn => exact fun _ => torn

/-- Events that are not about the link tell nothing of it. -/
theorem quiet (h : Told id hook past l) {events : List Event} (hc : Event.calls id events = [])
    (hl : ∀ last, Event.logged id last events = 0) : Told id hook (past ++ events) l := by
  cases h with
  | free number torn transport status calls logged =>
    exact .free number torn transport status (by simp [calls, hc])
      (by rw [Event.logged_append, logged, hl])
  | claimed number torn status calls logged =>
    exact .claimed number torn status (by simp [calls, hc])
      (by rw [Event.logged_append, logged, hl])

theorem work (h : Told id hook past l) {events : List Event} (hw : ∀ e ∈ events, e.isWork = true) :
    Told id hook (past ++ events) l :=
  h.quiet (Event.calls_of_isWork hw) fun _ => Event.logged_of_isWork hw

theorem ask (h : Told id hook past l) :
    Told id hook (past ++ l.shutdown.events) l.shutdown.value := by
  cases h with
  | free number torn transport status calls logged =>
    have hclaimed : l.status.claimed = .closing := by
      cases hs : l.status <;> first | rfl | simp [hs, Status.isClosing] at status
    rw [shutdown_open torn transport]
    refine .claimed number rfl hclaimed ?_ ?_
    · rw [Event.calls_append, Event.calls_append, calls, calls_farewell, if_pos number,
        number, hclaimed]
      rfl
    · rw [Event.logged_append, logged, logged_farewell]
      simp [Event.logged, number]
  | claimed number torn status calls logged =>
    rw [shutdown_torn torn]
    exact .claimed number torn (by rw [Traced.value_pure, status]; rfl) (by simp [calls])
      (by simp [logged])

/-- A request shows in the history, whether or not it is the first. -/
theorem asked_ask (h : Told id hook past l) :
    Event.asked id (past ++ l.shutdown.events) = true := by
  rw [← h.ask.isClosing]
  exact isClosing_shutdown l

theorem transition (h : Told id hook past l) {next : Status} (hn : next.isClosing = false) :
    Told id hook past (l.transition next) := by
  cases h with
  | free number torn transport status calls logged =>
    exact .free number torn transport (by simp [Link.transition, Status.moved, status, hn])
      calls logged
  | claimed number torn status calls logged =>
    exact .claimed number torn (by simp [Link.transition, Status.moved, status, Status.isClosing])
      calls logged

theorem begin (h : Told id hook past l) (thread : Nat) : Told id hook past { l with thread } := by
  cases h with
  | free number torn transport status calls logged =>
    exact .free number torn transport status calls logged
  | claimed number torn status calls logged => exact .claimed number torn status calls logged

end Told

/-! ### Courses of a link -/

/-- What a worker may do to its own link, and the events of that. -/
inductive Course (Own : Event → Bool) : Link → List Event → Link → Prop
  | nil (l : Link) : Course Own l [] l
  | event {e : Event} {l l' : Link} {events : List Event} : Own e = true → Course Own l events l' →
      Course Own l (e :: events) l'
  | ask {l l' : Link} {events : List Event} : Course Own l.shutdown.value events l' →
      Course Own l (l.shutdown.events ++ events) l'
  | move {l l' : Link} {events : List Event} (next : Status) : next.isClosing = false →
      Course Own (l.transition next) events l' → Course Own l events l'
  | begin {l l' : Link} {events : List Event} (thread : Nat) :
      Course Own { l with thread } events l' →
      Course Own l events l'

namespace Course

variable {Own : Event → Bool} {l' l'' : Link} {events events' : List Event}

theorem trans (h : Course Own l events l') (h' : Course Own l' events' l'') :
    Course Own l (events ++ events') l'' := by
  induction h with
  | nil => exact h'
  | event he _ ih => exact .event he (ih h')
  | ask _ ih =>
    rw [List.append_assoc]
    exact .ask (ih h')
  | move next hn _ ih => exact .move next hn (ih h')
  | begin thread _ ih => exact .begin thread (ih h')

/-- Events of the worker's own, and nothing else. -/
theorem own (l : Link) (h : ∀ e ∈ events, Own e = true) : Course Own l events l := by
  induction events with
  | nil => exact .nil l
  | cons e rest ih =>
    exact .event (h e (List.mem_cons_self ..)) (ih fun e' he' => h e' (List.mem_cons_of_mem _ he'))

theorem mono {Wide : Event → Bool} (hw : ∀ e, Own e = true → Wide e = true)
    (h : Course Own l events l') :
    Course Wide l events l' := by
  induction h with
  | nil => exact .nil _
  | event he _ ih => exact .event (hw _ he) ih
  | ask _ ih => exact .ask ih
  | move next hn _ ih => exact .move next hn ih
  | begin thread _ ih => exact .begin thread ih

theorem told (h : Course Own l events l') (hown : ∀ e, Own e = true → e.isWork = true) {id : Nat}
    {past : List Event} (ht : Told id hook past l) : Told id hook (past ++ events) l' := by
  induction h generalizing past with
  | nil => simpa using ht
  | @event e _ _ rest he _ ih =>
    have hone : ∀ e' ∈ [e], e'.isWork = true :=
      fun e' he' => by rw [List.mem_singleton.1 he']; exact hown e he
    have := ih (ht.work hone)
    rwa [List.append_assoc] at this
  | ask _ ih =>
    rw [← List.append_assoc]
    exact ih ht.ask
  | move next hn _ ih => exact ih (ht.transition hn)
  | begin thread _ ih => exact ih (ht.begin thread)

theorem bound (h : Course Own l events l') (hb : l.hook = none → l.torn = true) :
    l'.hook = none → l'.torn = true := by
  induction h with
  | nil => exact hb
  | event _ _ ih => exact ih hb
  | ask _ ih => exact ih (bound_shutdown hb)
  | move _ _ _ ih => exact ih hb
  | begin _ _ ih => exact ih hb

theorem id_eq (h : Course Own l events l') : l'.id = l.id := by
  induction h with
  | nil => rfl
  | event _ _ ih => exact ih
  | ask _ ih => rw [ih, id_shutdown]
  | move _ _ _ ih => exact ih
  | begin _ _ ih => exact ih

/-- What a request, a move of the status and the start of the worker keep of a link, a course
keeps. -/
theorem keeps {P : Link → Prop} (hask : ∀ l, P l → P l.shutdown.value)
    (hmove : ∀ l next, next.isClosing = false → P l → P (l.transition next))
    (hbegin : ∀ l thread, P l → P { l with thread }) (h : Course Own l events l') (hl : P l) :
    P l' := by
  induction h with
  | nil => exact hl
  | event _ _ ih => exact ih hl
  | ask _ ih => exact ih (hask _ hl)
  | move next hn _ ih => exact ih (hmove _ next hn hl)
  | begin thread _ ih => exact ih (hbegin _ thread hl)

/-- A worker does not take a status back that a request has claimed. -/
theorem isClosing (h : Course Own l events l') (hl : l.status.isClosing = true) :
    l'.status.isClosing = true :=
  h.keeps (P := fun l => l.status.isClosing = true) (fun l _ => isClosing_shutdown l)
    (fun l next hn hl => by rwa [isClosing_transition hn]) (fun _ _ hl => hl) hl

/-- What holds of the worker's own events and of those of a request holds of all. -/
theorem each {P : Event → Prop} (h : Course Own l events l') (hown : ∀ e, Own e = true → P e)
    (hask : ∀ e, e.isFarewell = true → P e) (hb : l.hook = none → l.torn = true) :
    ∀ e ∈ events, P e := by
  induction h with
  | nil => simp
  | event he _ ih => exact List.forall_mem_cons.2 ⟨hown _ he, ih hb⟩
  | ask _ ih =>
    exact List.forall_mem_append.2
      ⟨fun e he => hask e (isFarewell_of_shutdown hb e he), ih (bound_shutdown hb)⟩
  | move _ _ _ ih => exact ih hb
  | begin _ _ ih => exact ih hb

end Course
end Link

/-! ### Courses of a hub -/

namespace Hub

/-- What the worker of connection `id` may do to a hub, and the events of that. -/
inductive Course (Own : Event → Bool) (id : Nat) : Hub → List Event → Hub → Prop
  | nil (hub : Hub) : Course Own id hub [] hub
  | event {e : Event} {hub hub' : Hub} {events : List Event} : Own e = true →
      Course Own id hub events hub' →
      Course Own id hub (e :: events) hub'
  | own {l : Link} {hub hub' : Hub} {events events' : List Event} : Link.Course Own (hub.link id)
      events l →
      Course Own id (hub.setLink l) events' hub' → Course Own id hub (events ++ events') hub'
  | ask {hub hub' : Hub} {events : List Event} (j : Nat) : j < hub.links.length →
      Course Own id (hub.shutdown j).value events hub' →
      Course Own id hub ((hub.shutdown j).events ++ events) hub'
  | stopping {hub hub' : Hub} {events : List Event} : Course Own id { hub with stopping := true }
      events hub' →
      Course Own id hub events hub'

theorem shutdown_eq (hub : Hub) (id : Nat) :
    hub.shutdown id = ⟨hub.setLink (hub.link id).shutdown.value,
      (hub.link id).shutdown.events⟩ := by
  simp [shutdown, bind, pure]

theorem sound_shutdown {hub : Hub} (hs : hub.Sound) {id : Nat} (h : id < hub.links.length) :
    (hub.shutdown id).value.Sound := by
  rw [shutdown_eq]
  exact sound_setLink hs (Link.bound_shutdown (hs.link_bound h))

theorem sound_stopping {hub : Hub} (hs : hub.Sound) : Sound { hub with stopping := true } :=
  ⟨hs.numbered, hs.bound, hs.roster, hs.known, hs.once⟩

theorem Sound.live_known {hub : Hub} (hs : hub.Sound) : ∀ k ∈ hub.live, k < hub.links.length :=
  fun k hk =>
  hs.known k (List.mem_of_mem_filter hk)

theorem isClosing_shutdown {hub : Hub} (hs : hub.Sound) {j : Nat} (hj : j < hub.links.length) :
    ((hub.shutdown j).value.link j).status.isClosing = true := by
  rw [shutdown_eq, link_setLink (Link.id_shutdown.trans (hs.link_id hj)) hj]
  exact Link.isClosing_shutdown _

namespace Course

variable {Own : Event → Bool} {id : Nat} {hub hub' hub'' : Hub} {events events' : List Event}

theorem trans (h : Course Own id hub events hub') (h' : Course Own id hub' events' hub'') :
    Course Own id hub (events ++ events') hub'' := by
  induction h with
  | nil => exact h'
  | event he _ ih => exact .event he (ih h')
  | own hl _ ih =>
    rw [List.append_assoc]
    exact .own hl (ih h')
  | ask j hj _ ih =>
    rw [List.append_assoc]
    exact .ask j hj (ih h')
  | stopping _ ih => exact .stopping (ih h')

theorem mono {Wide : Event → Bool} (hw : ∀ e, Own e = true → Wide e = true)
    (h : Course Own id hub events hub') :
    Course Wide id hub events hub' := by
  induction h with
  | nil => exact .nil _
  | event he _ ih => exact .event (hw _ he) ih
  | own hl _ ih => exact .own (hl.mono hw) ih
  | ask j hj _ ih => exact .ask j hj ih
  | stopping _ ih => exact .stopping ih

theorem of_link {l : Link} (h : Link.Course Own (hub.link id) events l) :
    Course Own id hub events (hub.setLink l) := by
  simpa using Course.own h (.nil _)

/-- Connections stay, and no one joins or leaves. -/
theorem members (h : Course Own id hub events hub') :
    hub'.links.length = hub.links.length ∧ hub'.roster = hub.roster := by
  induction h with
  | nil => exact ⟨rfl, rfl⟩
  | event _ _ ih => exact ih
  | own _ _ ih => simpa using ih
  | ask j _ _ ih => simpa [shutdown_eq] using ih
  | stopping _ ih => exact ih

theorem sound (h : Course Own id hub events hub') (hs : hub.Sound) (hid : id < hub.links.length) :
    hub'.Sound := by
  induction h with
  | nil => exact hs
  | event _ _ ih => exact ih hs hid
  | own hl _ ih => exact ih (sound_setLink hs (hl.bound (hs.link_bound hid))) (by simpa using hid)
  | ask j hj _ ih => exact ih (sound_shutdown hs hj) (by simpa [shutdown_eq] using hid)
  | stopping _ ih => exact ih (sound_stopping hs) hid

theorem each {P : Event → Prop} (h : Course Own id hub events hub') (hown : ∀ e, Own e = true → P e)
    (hask : ∀ e, e.isFarewell = true → P e) (hs : hub.Sound) (hid : id < hub.links.length) :
    ∀ e ∈ events, P e := by
  induction h with
  | nil => simp
  | event he _ ih => exact List.forall_mem_cons.2 ⟨hown _ he, ih hs hid⟩
  | own hl _ ih =>
    have hb := hs.link_bound hid
    exact List.forall_mem_append.2
      ⟨hl.each hown hask hb, ih (sound_setLink hs (hl.bound hb)) (by simpa using hid)⟩
  | ask j hj _ ih =>
    refine List.forall_mem_append.2
      ⟨fun e he => ?_, ih (sound_shutdown hs hj) (by simpa [shutdown_eq] using hid)⟩
    rw [shutdown_eq] at he
    exact hask e (Link.isFarewell_of_shutdown (hs.link_bound hj) e he)
  | stopping _ ih => exact ih (sound_stopping hs) hid

/-- What a request, a move of the status and the start of the worker keep of a link, a course of
the hub keeps of the worker's own. -/
theorem keeps {P : Link → Prop} (hask : ∀ l, P l → P l.shutdown.value)
    (hmove : ∀ l next, next.isClosing = false → P l → P (l.transition next))
    (hbegin : ∀ l thread, P l → P { l with thread }) (h : Course Own id hub events hub')
    (hs : hub.Sound) (hid : id < hub.links.length) (hl : P (hub.link id)) : P (hub'.link id) := by
  induction h with
  | nil => exact hl
  | event _ _ ih => exact ih hs hid hl
  | @own l _ _ _ _ hc _ ih =>
    have hnumber : l.id = id := hc.id_eq.trans (hs.link_id hid)
    refine ih (sound_setLink hs (hc.bound (hs.link_bound hid))) (by simpa using hid) ?_
    rw [link_setLink hnumber hid]
    exact hc.keeps hask hmove hbegin hl
  | @ask hub _ _ j hj _ ih =>
    refine ih (sound_shutdown hs hj) (by simpa [shutdown_eq] using hid) ?_
    have hnumber : (hub.link j).shutdown.value.id = j := Link.id_shutdown.trans (hs.link_id hj)
    rw [shutdown_eq]
    by_cases hj' : j = id
    · subst hj'
      rw [link_setLink hnumber hj]
      exact hask _ hl
    · rw [link_setLink_ne (by rw [hnumber]; exact hj')]
      exact hl
  | stopping _ ih => exact ih (sound_stopping hs) hid hl

theorem isClosing (h : Course Own id hub events hub') (hs : hub.Sound) (hid : id < hub.links.length)
    (hl : (hub.link id).status.isClosing = true) : (hub'.link id).status.isClosing = true :=
  h.keeps (P := fun l => l.status.isClosing = true) (fun l _ => Link.isClosing_shutdown l)
    (fun l next hn hl => by rwa [Link.isClosing_transition hn]) (fun _ _ hl => hl) hs hid hl

/-- Whoever holds the connection of a worker holds it on. -/
theorem held (h : Course Own id hub events hub') (hs : hub.Sound) (hid : id < hub.links.length)
    (hl : (hub.link id).held = true) : (hub'.link id).held = true := by
  have hask : ∀ l : Link, l.held = true → l.shutdown.value.held = true :=
    fun l hl => by rwa [Link.held_shutdown]
  exact h.keeps hask (fun _ _ _ hl => hl) (fun _ _ hl => hl) hs hid hl

/-- A connection that is live stays so while its worker is at work. -/
theorem live (h : Course Own id hub events hub') (hs : hub.Sound) (hlive : id ∈ hub.live) :
    id ∈ hub'.live := by
  obtain ⟨hmember, hheld⟩ := List.mem_filter.1 hlive
  rw [Hub.live, h.members.2]
  exact List.mem_filter.2 ⟨hmember, h.held hs (hs.known id hmember) hheld⟩

/-- **Along a course the link stays what the history tells of it.** -/
theorem told (h : Course Own id hub events hub') (hown : ∀ e, Own e = true → e.isWork = true)
    (hs : hub.Sound) (hid : id < hub.links.length) {hook : Hook} {past : List Event}
    (ht : Link.Told id hook past (hub.link id)) :
    Link.Told id hook (past ++ events) (hub'.link id) := by
  induction h generalizing past with
  | nil => simpa using ht
  | @event e _ _ rest he _ ih =>
    have hone : ∀ e' ∈ [e], e'.isWork = true :=
      fun e' he' => by rw [List.mem_singleton.1 he']; exact hown e he
    have := ih hs hid (ht.work hone)
    rwa [List.append_assoc] at this
  | @own l _ _ _ _ hl _ ih =>
    have hnumber : l.id = id := hl.id_eq.trans (hs.link_id hid)
    rw [← List.append_assoc]
    refine ih (sound_setLink hs (hl.bound (hs.link_bound hid))) (by simpa using hid) ?_
    rw [link_setLink hnumber hid]
    exact hl.told hown ht
  | @ask hub _ _ j hj _ ih =>
    rw [← List.append_assoc]
    refine ih (sound_shutdown hs hj) (by simpa [shutdown_eq] using hid) ?_
    have hnumber : (hub.link j).shutdown.value.id = j := Link.id_shutdown.trans (hs.link_id hj)
    rw [shutdown_eq]
    by_cases hj' : j = id
    · subst hj'
      rw [link_setLink hnumber hj]
      exact ht.ask
    · rw [link_setLink_ne (by rw [hnumber]; exact hj')]
      obtain ⟨hc, hl⟩ :=
        Link.shutdown_ne (l := hub.link j) (by rw [hs.link_id hj]; exact hj') (hs.link_bound hj)
      exact ht.quiet hc hl
  | stopping _ ih => exact ih (sound_stopping hs) hid ht

end Course
end Hub
end NetShell
