import NetShell.Proofs.Neighbours

/-! Who is a member of a hub.

Connections are accepted, take steps in any order, are dropped, are asked to shut down one by
one or all at once. Whatever the order, the members are the connections that were accepted and
are not gone, each under a key of its own below the capacity; a connection takes its own key
out of the roster and no other, and while it is in the roster someone holds it
(`Floor.membership`).

A deed leaves every connection but its own where it was (`Hub.Apart`), so what is to be shown of
one is how its own connection stands after it. -/
namespace NetShell
open Event

variable {σ : Type}

/-! ### A hub and its connections -/

/-- A hub with every connection that it has accepted, at the place of its number. -/
structure Floor (σ : Type) where
  hub : Hub
  sessions : List (Session σ) := []

/-- One thing that happens. -/
inductive Deed (σ : Type)
  /-- a connection comes in -/
  | accept (mode : Mode) (readSize : Nat) (state : σ) (transport : Transport) (started : Int)
  /-- a connection's worker takes a step on a thread -/
  | work (id thread : Nat)
  /-- a connection is dropped, whether or not its worker has started -/
  | drop (id : Nat)
  /-- someone asks for a connection's end -/
  | shutdown (id : Nat)
  /-- someone asks for the end of all -/
  | closeAll

namespace Floor

/-- A connection has come to a new state. Once it is gone nobody holds it. -/
def put (f : Floor σ) (id : Nat) (s : Session σ) : Floor σ where
  hub := if s.isGone then s.desk.hub.setLink { s.desk.link with held := false } else s.desk.hub
  sessions := f.sessions.set id s

/-- A connection that is not gone does something, at the hub as it finds it. -/
def attend (f : Floor σ) (id : Nat) (use : Session σ → Traced (Session σ)) : Traced (Floor σ) :=
  match f.sessions[id]? with
  | none => pure f
  | some s =>
    if s.isGone then pure f
    else do
      let s ← use (s.seat f.hub)
      pure (f.put id s)

/-- A deed. One that nobody can do changes nothing. -/
def act (h : Handler σ) (f : Floor σ) : Deed σ → Traced (Floor σ)
  | .accept mode readSize state t started =>
    match Session.accept? mode readSize state t { started } f.hub with
    | none => pure f
    | some s => pure { hub := s.desk.hub, sessions := f.sessions ++ [s] }
  | .work id thread => f.attend id fun s => s.step h thread
  | .drop id => f.attend id Session.discard
  | .shutdown id =>
    if id < f.sessions.length then do
      let hub ← f.hub.shutdown id
      pure { f with hub }
    else pure f
  | .closeAll => do
    let (_, hub) ← f.hub.closeAll
    pure { f with hub }

/-- Deeds one after another. -/
def play (h : Handler σ) (f : Floor σ) : List (Deed σ) → Traced (Floor σ)
  | [] => pure f
  | deed :: rest => do
    let f ← f.act h deed
    play h f rest

end Floor

/-! ### How connections stand -/

/-- A connection that someone holds: it is a member under its own key, and what the history tells
of it holds. -/
structure Enrolled (hub : Hub) (past : List Event) (id : Nat) (hook : Hook)
    (s : Session σ) : Prop where
  attending : Session.Attending id hook past (s.seat hub)
  entry : hub.roster.get? s.desk.outlet.conn = some id
  held : (hub.link id).held = true
  phase : s.worker.phase = .fresh ∨ s.worker.phase = .serving ∨ ∃ cause,
    s.worker.phase = .finished cause

/-- How a connection stands that was accepted. It is a member until it is gone. -/
inductive Lot (hub : Hub) (past : List Event) (id : Nat) (s : Session σ) : Prop
  | member (hook : Hook) : Enrolled hub past id hook s → Lot hub past id s
  | gone : s.isGone = true → id ∉ hub.roster.toList → (hub.link id).Departed id past →
      Lot hub past id s

theorem Enrolled.isGone {hub : Hub} {past : List Event} {id : Nat} {hook : Hook} {s : Session σ}
    (he : Enrolled hub past id hook s) : s.isGone = false := by
  rcases he.phase with hphase | hphase | ⟨cause, hphase⟩ <;> simp [Session.isGone, hphase]

theorem stable_lot : Hub.Stable (Lot (σ := σ)) := by
  intro own hub events hub' past id s ha hne hs hknown hl
  cases hl with
  | member hook he =>
    obtain rfl := he.attending.number
    exact .member hook ⟨⟨rfl, ⟨hs, hknown, he.attending.ready.unreleased⟩,
      ha.told hne he.attending.told⟩,
      (ha.keys hne _).1 he.entry, ha.held hne he.held, he.phase⟩
  | gone hgone hout hdeparted =>
    exact .gone hgone (fun hmem => hout ((ha.members hne).2 hmem)) (ha.departed hne hdeparted)

/-! ### What every deed keeps -/

namespace Floor

/-- What holds after any deeds: every connection has its lot, the others are unknown, and no key
was ever given that the capacity does not allow. -/
structure Kept (capacity : Nat) (f : Floor σ) (past : List Event) : Prop
    extends Hub.Muster Lot f.hub past f.sessions where
  limit : f.hub.capacity = capacity
  room : f.hub.roster.slots.length ≤ capacity

variable {capacity : Nat} {f : Floor σ} {past events : List Event} {id : Nat} {hook : Hook}
  {s : Session σ}

theorem kept_empty (capacity : Nat) : Kept capacity ({ hub := { capacity } } : Floor σ) [] :=
  ⟨Hub.muster_empty capacity, rfl, Nat.zero_le _⟩

/-- What is asked of connections keeps what holds. -/
theorem Kept.asked (hk : Kept capacity f past) {hub : Hub}
    (hapart : Hub.Apart none f.hub events hub) (hcourse : Hub.Course isWork id f.hub events hub)
    (hsound : hub.Sound) :
    Kept capacity { f with hub } (past ++ events) := by
  obtain ⟨hlinks, hroster⟩ := hcourse.members
  refine ⟨hk.next stable_lot hapart hsound (hlinks.trans hk.places) (fun _ _ => rfl) (by simp),
    hcourse.capacity.trans hk.limit, ?_⟩
  rw [hroster]
  exact hk.room

/-! ### One deed after another -/

theorem attend_eq (hsession : f.sessions[id]? = some s) (hg : s.isGone = false)
    (use : Session σ → Traced (Session σ)) :
    f.attend id use = ⟨f.put id (use (s.seat f.hub)).value, (use (s.seat f.hub)).events⟩ := by
  simp [attend, hsession, hg, bind, pure]

/-- Only a connection that someone holds does anything. -/
theorem Kept.attend (hk : Kept capacity f past) (id : Nat) (use : Session σ → Traced (Session σ))
    (huse : ∀ {s hook}, Enrolled f.hub past id hook s →
      Kept capacity (f.put id (use (s.seat f.hub)).value) (past ++ (use (s.seat f.hub)).events)) :
    Kept capacity (f.attend id use).value (past ++ (f.attend id use).events) := by
  cases hsession : f.sessions[id]? with
  | none => simpa [Floor.attend, hsession] using hk
  | some s =>
    cases hk.lots hsession with
    | member hook he =>
      rw [attend_eq hsession he.isGone]
      exact huse he
    | gone hgone => simpa [Floor.attend, hsession, hgone] using hk

/-- A connection that comes in is a member from then on. -/
theorem kept_accept (h : Handler σ) (hk : Kept capacity f past) (mode : Mode) (readSize : Nat)
    (state : σ) (t : Transport) (started : Int) :
    let deed := Deed.accept mode readSize state t started
    Kept capacity (f.act h deed).value (past ++ (f.act h deed).events) := by
  intro deed
  cases ha : Session.accept? mode readSize state t { started } f.hub with
  | none => simpa [deed, act, ha] using hk
  | some s =>
    have hnew := Session.accepted_of_accept? hk.sound ha
    have hlink := Session.link_of_accept? hk.sound ha
    have hhub := Session.hub_of_accept? ha
    have hj := Hub.joined_of_accept? hk.sound (by simp) hhub
    have hadmitted := Hub.admitted_of_accept? hhub
    have hnumber : s.desk.id = f.sessions.length := hj.number.trans hk.places
    have helsewhere : Elsewhere s.desk.id past := hk.unknown (by omega)
    simp only [deed, act, ha, Traced.value_pure, Traced.events_pure]
    refine ⟨hk.next stable_lot (Hub.apart_accept? hk.sound hhub) hj.sound ?_ ?_ ?_, ?_, ?_⟩
    · simp [hj.links, hk.places]
    · intro j hj
      have hne : f.sessions.length ≠ j := by simpa [hnumber] using hj
      grind
    · rintro _ ⟨⟩
      have htold := hnew.told.quiet helsewhere.1 helsewhere.2
      refine ⟨s, by rw [hnumber, List.getElem?_concat_length], .member t.hook
        ⟨⟨rfl, hnew.ready, ?_⟩, hnew.entry, congrArg Link.held hlink,
        .inl (congrArg Worker.phase hnew.worker)⟩⟩
      rw [List.append_nil]
      exact htold
    · rw [hadmitted.joined]
      exact hk.limit
    · have hlength := Slab.length_slots_insert hk.sound.roster s.desk.id
      have hspace : f.hub.roster.size < capacity := hk.limit ▸ hadmitted.space
      have := hk.room
      show s.desk.hub.roster.slots.length ≤ capacity
      rw [hadmitted.joined]
      show (f.hub.roster.insert s.desk.id).2.slots.length ≤ capacity
      omega

/-- A connection at work stays a member. -/
theorem Kept.serving (h : Handler σ) (thread : Nat) (hk : Kept capacity f past)
    (he : Enrolled f.hub past id hook s)
    (hphase : s.worker.phase = .fresh ∨ s.worker.phase = .serving) :
    let step := (s.seat f.hub).step h thread
    Kept capacity (f.put id step.value) (past ++ step.events) := by
  intro step
  have hm : (s.seat f.hub).Moves step := Session.moves_step h thread he.attending.ready hphase
  have hattending := he.attending.moves hm.desk
  have hnumber : s.desk.id = id := he.attending.number
  subst hnumber
  have hcourse : Hub.Course isWork s.desk.id f.hub step.events step.value.desk.hub := hm.desk.course
  have hknown : s.desk.id < f.hub.links.length := he.attending.ready.known
  obtain ⟨hlinks, hroster⟩ := hcourse.members
  have hserving : step.value.isGone = false := by
    rcases hm.phase with hphase | ⟨cause, hphase⟩ <;> simp [Session.isGone, hphase]
  have hput : f.put s.desk.id step.value =
      { hub := step.value.desk.hub, sessions := f.sessions.set s.desk.id step.value } := by
    simp [put, hserving]
  rw [hput]
  refine ⟨hk.next stable_lot (hcourse.apart hk.sound hknown) hattending.ready.sound ?_ ?_ ?_,
    hcourse.capacity.trans hk.limit, ?_⟩
  · simp [hlinks, hk.places]
  · intro j hj
    exact List.getElem?_set_ne (by simpa using hj)
  · rintro _ ⟨⟩
    refine ⟨_, List.getElem?_set_self (by rwa [← hk.places]),
      .member hook ⟨hattending, ?_, ?_, .inr hm.phase⟩⟩
    · rw [hm.desk.conn, hroster]
      exact he.entry
    · exact hcourse.held hk.sound hknown he.held
  · rw [hroster]
    exact hk.room

/-- The link of a connection that was taken down, held by no one. -/
def leftLink (f : Floor σ) (id : Nat) : Link :=
  { f.hub.link id with status := .closed, torn := true, hook := none, held := false }

/-- Taking a connection down closes its link for good and frees its key. -/
theorem put_taken (hs : f.hub.Sound) (he : Enrolled f.hub past id hook s) :
    let taken := (s.seat f.hub).takeDown none
    taken.value.isGone = true ∧ f.put id taken.value =
      { hub := (f.hub.setLink (f.leftLink id)).deregister s.desk.outlet.conn
        sessions := f.sessions.set id taken.value } := by
  intro taken
  have hnumber : s.desk.id = id := he.attending.number
  have hready := he.attending.ready
  have htaken : taken = _ :=
    Session.takeDown_eq (s := s.seat f.hub) (hnumber ▸ he.attending.told) none
  subst hnumber
  have hgone : taken.value.isGone = true := by
    rw [htaken]
    rfl
  let closed : Link := { f.leftLink s.desk.id with held := (f.hub.link s.desk.id).held }
  have hclosed : ((f.hub.setLink closed).deregister s.desk.outlet.conn).link s.desk.id = closed :=
    Hub.link_setLink (hs.link_id hready.known) hready.known
  have hlast : { taken.value.desk.link with held := false } = f.leftLink s.desk.id := by
    rw [htaken]
    exact congrArg (fun l : Link => { l with held := false }) hclosed
  have hagain : (f.hub.setLink closed).setLink (f.leftLink s.desk.id) =
      f.hub.setLink (f.leftLink s.desk.id) :=
    Hub.setLink_setLink rfl
  refine ⟨hgone, ?_⟩
  rw [put, if_pos hgone, hlast, htaken]
  exact congrArg (fun hub : Hub => Floor.mk (hub.deregister _) _) hagain

/-- A connection that is taken down is a member no more. -/
theorem Kept.takeDown (hk : Kept capacity f past) (he : Enrolled f.hub past id hook s)
    {front : List Event} (hfront : ∀ e ∈ front, e.isWork = true) :
    let taken := (s.seat f.hub).takeDown none
    Kept capacity (f.put id taken.value) (past ++ (front ++ taken.events)) := by
  intro taken
  obtain ⟨hgone, hput⟩ := put_taken hk.sound he
  have hknown : id < f.hub.links.length := he.attending.number ▸ he.attending.ready.known
  have hdeparted := he.attending.told.departed hfront s.desk.outlet.conn
  have hevents : taken.events = Session.closing id hook s.desk.outlet.conn
      (Event.asked id past) := by
    obtain rfl := he.attending.number
    exact congrArg Traced.events (Session.takeDown_eq he.attending.told none)
  have hleft : (f.leftLink id).id = id := hk.sound.link_id hknown
  have helsewhere : ∀ j, id ≠ j → Elsewhere j (front ++ taken.events) := fun j hj => by
    rw [hevents]
    exact (elsewhere_of_isWork hfront).append (Link.elsewhere_closing hj _ _)
  have hapart := (Hub.apart_setLink f.hub hleft helsewhere).leave he.entry
  have hsound :=
    Hub.sound_deregister (Hub.sound_setLink (l := f.leftLink id) hk.sound fun _ => rfl)
      s.desk.outlet.conn
  have hlink : ((f.hub.setLink (f.leftLink id)).deregister s.desk.outlet.conn).link id =
      f.leftLink id :=
    Hub.link_setLink hleft hknown
  rw [hput]
  refine ⟨hk.next stable_lot hapart hsound ?_ ?_ ?_, hk.limit, ?_⟩
  · simpa [Hub.deregister] using hk.places
  · intro j hj
    exact List.getElem?_set_ne (by simpa using hj)
  · rintro _ ⟨⟩
    refine ⟨_, List.getElem?_set_self (hk.places ▸ hknown), .gone hgone ?_ ?_⟩
    · exact Slab.not_mem_erase hk.sound.once he.entry
    · rw [hlink, hevents]
      exact ⟨rfl, rfl, rfl, hdeparted.ended⟩
  · show (f.hub.roster.erase s.desk.outlet.conn).slots.length ≤ capacity
    rw [Slab.length_slots_erase]
    exact hk.room

theorem kept_work (h : Handler σ) (hk : Kept capacity f past) (id thread : Nat) :
    Kept capacity (f.act h (.work id thread)).value
      (past ++ (f.act h (.work id thread)).events) := by
  refine hk.attend id _ fun {s hook} he => ?_
  rcases he.phase with hphase | hphase | ⟨cause, hphase⟩
  · exact hk.serving h thread he (.inl hphase)
  · exact hk.serving h thread he (.inr hphase)
  · rw [Session.step_last h thread (s := s.seat f.hub) hphase]
    exact hk.takeDown he (by simp [isWork])

theorem kept_drop (h : Handler σ) (hk : Kept capacity f past) (id : Nat) :
    Kept capacity (f.act h (.drop id)).value (past ++ (f.act h (.drop id)).events) :=
  hk.attend id _ fun he => hk.takeDown he (List.forall_mem_nil _)

theorem kept_shutdown (h : Handler σ) (hk : Kept capacity f past) (id : Nat) :
    Kept capacity (f.act h (.shutdown id)).value (past ++ (f.act h (.shutdown id)).events) := by
  by_cases hid : id < f.sessions.length
  · have hknown : id < f.hub.links.length := by rwa [hk.places]
    have hkept :=
      hk.asked (Hub.apart_shutdown hk.sound hknown) (Hub.course_shutdown isWork f.hub id hknown)
      (Hub.sound_shutdown hk.sound hknown)
    simpa [act, hid, bind, pure] using hkept
  · simpa [act, hid] using hk

theorem kept_closeAll (h : Handler σ) (hk : Kept capacity f past) :
    Kept capacity (f.act h .closeAll).value (past ++ (f.act h .closeAll).events) := by
  have hknown := hk.sound.live_known
  have hcourse : Hub.Course isWork 0 f.hub _ _ := Hub.course_shutdownAll 0 _ _ hknown
  have hkept :=
    hk.asked (Hub.apart_shutdownAll hk.sound hknown) hcourse (Hub.sound_shutdownAll hk.sound hknown)
  simpa [act, Hub.closeAll, bind, pure] using hkept

/-- **Every deed keeps what holds of a hub and its connections.** -/
theorem kept_act (h : Handler σ) (deed : Deed σ) (hk : Kept capacity f past) :
    Kept capacity (f.act h deed).value (past ++ (f.act h deed).events) := by
  cases deed with
  | accept mode readSize state t started => exact kept_accept h hk mode readSize state t started
  | work id thread => exact kept_work h hk id thread
  | drop id => exact kept_drop h hk id
  | shutdown id => exact kept_shutdown h hk id
  | closeAll => exact kept_closeAll h hk

theorem kept_play (h : Handler σ) (deeds : List (Deed σ)) (hk : Kept capacity f past) :
    Kept capacity (f.play h deeds).value (past ++ (f.play h deeds).events) := by
  induction deeds generalizing f past with
  | nil => simpa [play] using hk
  | cons deed rest ih =>
    have hrest := ih (kept_act h deed hk)
    rw [List.append_assoc] at hrest
    exact hrest

theorem put_put (f : Floor σ) (id : Nat) (s t : Session σ) :
    (f.put id s).put id t = f.put id t := by
  simp [put]

/-- A worker's whole run, nothing coming between, is so many of its steps. -/
theorem run_eq_play (h : Handler σ) (id thread : Nat) (f : Floor σ) :
    ∃ steps, f.attend id (fun s => s.run h thread) =
      f.play h (List.replicate steps (.work id thread)) := by
  cases hsession : f.sessions[id]? with
  | none => exact ⟨0, by simp [attend, hsession, play]⟩
  | some s =>
    induction hw : s.worker.work using Nat.strongRecOn generalizing f s with
    | _ work ih =>
      cases hg : s.isGone with
      | true => exact ⟨0, by simp [attend, hsession, hg, play]⟩
      | false =>
        let next := (s.seat f.hub).step h thread
        have hfirst : f.act h (.work id thread) = ⟨f.put id next.value, next.events⟩ :=
          attend_eq hsession hg _
        have hrun : f.attend id (fun s => s.run h thread) =
            ⟨f.put id (next.value.run h thread).value,
            next.events ++ (next.value.run h thread).events⟩ := by
          rw [attend_eq hsession hg, Session.run_step (s := s.seat f.hub) hg]
        cases hnext : next.value.isGone with
        | true =>
          refine ⟨1, ?_⟩
          simp [hrun, Session.run_gone hnext, play, hfirst, bind, pure]
        | false =>
          have hlt : id < f.sessions.length := (List.getElem?_eq_some_iff.1 hsession).1
          have hsession' : (f.put id next.value).sessions[id]? = some next.value := by
            simp [put, List.getElem?_set_self hlt]
          have hseat : next.value.seat (f.put id next.value).hub = next.value := by
            simp [put, hnext, Session.seat]
          have hless : next.value.worker.work < work :=
            hw ▸ Session.work_step h thread (s.seat f.hub) hg
          obtain ⟨steps, hsteps⟩ := ih _ hless (f.put id next.value) next.value hsession' rfl
          refine ⟨steps + 1, ?_⟩
          rw [attend_eq hsession' hnext, hseat, put_put] at hsteps
          rw [List.replicate_succ, play, hfirst]
          simp only [bind, ← hsteps, hrun]

/-! ### The members -/

/-- The members of a hub are what they should be, and whatever shows them agrees. -/
structure Exact (h : Handler σ) (capacity : Nat) (f : Floor σ) (past : List Event) : Prop where
  /-- those that were accepted and are not gone -/
  members : ∀ id, id ∈ f.hub.roster.toList ↔ ∃ s, f.sessions[id]? = some s ∧ s.isGone = false
  once : f.hub.roster.toList.Nodup
  /-- no key stands for two members, and the order is that of the keys -/
  ascending : (f.hub.roster.entries.map Prod.fst).Pairwise (· < ·)
  /-- a member's key is the one that it was given -/
  keys : ∀ key id, (key, id) ∈ f.hub.roster.entries → ∃ s,
    f.sessions[id]? = some s ∧ s.desk.outlet.conn = key
  below : ∀ entry ∈ f.hub.roster.entries, entry.1 < capacity
  room : f.hub.roster.entries.length ≤ capacity
  accepts : ∀ mode readSize state t started,
    (Session.accept? (σ := σ) mode readSize state t { started } f.hub).isSome ↔
      f.hub.roster.entries.length < capacity
  refuses : ∀ mode readSize state t started, capacity ≤ f.hub.roster.entries.length →
    f.act h (.accept mode readSize state t started) = pure f
  size : f.hub.size = f.hub.roster.entries.length
  live : f.hub.live = f.hub.roster.entries.map Prod.snd
  report : f.hub.report = String.join
    ((Hub.reportHeader :: f.hub.roster.entries.map fun entry =>
      Hub.reportRow (f.hub.link entry.2)).map (· ++ "\n"))
  asked : f.hub.closeAll.value.1 = f.hub.roster.entries.length
  stays : f.hub.closeAll.value.2.roster = f.hub.roster
  closes : ∀ id ∈ f.hub.roster.toList, (f.hub.closeAll.value.2.link id).status.isClosing = true ∧
    EndedOnce id (past ++ f.hub.closeAll.events)

theorem Kept.member (hk : Kept capacity f past) (hid : id ∈ f.hub.roster.toList) :
    ∃ s hook, f.sessions[id]? = some s ∧ Enrolled f.hub past id hook s := by
  obtain ⟨s, hsession, hlot⟩ := hk.of_known (hk.sound.known id hid)
  cases hlot with
  | member hook he => exact ⟨s, hook, hsession, he⟩
  | gone _ hout => exact absurd hid hout

theorem Kept.members (hk : Kept capacity f past) (id : Nat) :
    id ∈ f.hub.roster.toList ↔ ∃ s, f.sessions[id]? = some s ∧ s.isGone = false := by
  constructor
  · intro hid
    obtain ⟨s, hook, hsession, he⟩ := hk.member hid
    exact ⟨s, hsession, he.isGone⟩
  · rintro ⟨s, hsession, hg⟩
    cases hk.lots hsession with
    | member hook he => exact Slab.mem_toList.2 ⟨_, he.entry⟩
    | gone hgone => simp [hg] at hgone

theorem Kept.live (hk : Kept capacity f past) : f.hub.live = f.hub.roster.toList := by
  refine List.filter_eq_self.2 fun id hid => ?_
  obtain ⟨s, hook, -, he⟩ := hk.member hid
  exact he.held

/-- A connection is accepted just if there is room. -/
theorem isSome_accept? (hub : Hub) (mode : Mode) (readSize : Nat) (state : σ) (t : Transport)
    (started : Int) :
    (Session.accept? mode readSize state t { started } hub).isSome ↔ hub.size < hub.capacity := by
  rw [Session.accept?, Option.isSome_map, Hub.accept?_eq]
  split <;> simp <;> omega

/-- Asking all members to shut down ends the transport of each, if that was not done before. -/
theorem Kept.closes (hk : Kept capacity f past) (hid : id ∈ f.hub.roster.toList) :
    (f.hub.closeAll.value.2.link id).status.isClosing = true ∧
      EndedOnce id (past ++ f.hub.closeAll.events) := by
  obtain ⟨s, hook, -, he⟩ := hk.member hid
  obtain rfl := he.attending.number
  have hknown := hk.sound.live_known
  have hclosing := Hub.isClosing_shutdownAll hk.sound hknown (by rwa [hk.live])
  have htold := (Hub.apart_shutdownAll hk.sound hknown).told (by simp) he.attending.told
  simp only [Hub.closeAll, Traced.value_bind, Traced.value_pure, Traced.events_bind,
    Traced.events_pure, List.append_nil]
  exact ⟨hclosing, htold.endedOnce hclosing⟩

theorem Kept.exact (h : Handler σ) (hk : Kept capacity f past) : Exact h capacity f past := by
  have hsize : f.hub.size = f.hub.roster.entries.length := (Slab.length_entries _).symm
  have hlive : f.hub.live = f.hub.roster.entries.map Prod.snd := by
    rw [hk.live, Slab.map_snd_entries]
  have hslots := Slab.size_le_slots f.hub.roster
  have hroom := hk.room
  refine ⟨hk.members, hk.sound.once, Slab.ascending_entries _, ?_, ?_, ?_, ?_, ?_, hsize, hlive,
    ?_, ?_, ?_,
    fun id => hk.closes⟩
  · intro key id hentry
    have hkey := Slab.mem_entries.1 hentry
    obtain ⟨s, hook, hsession, he⟩ := hk.member (Slab.mem_toList.2 ⟨key, hkey⟩)
    exact ⟨s, hsession, Slab.key_unique hk.sound.once he.entry hkey⟩
  · rintro ⟨key, id⟩ hentry
    have := Slab.lt_of_get? (Slab.mem_entries.1 hentry)
    show key < capacity
    omega
  · rw [Slab.length_entries]
    omega
  · intro mode readSize state t started
    rw [isSome_accept?, hsize, hk.limit]
  · intro mode readSize state t started hfull
    have hnone : Session.accept? mode readSize state t { started } f.hub = none := by
      rw [← Option.not_isSome_iff_eq_none, isSome_accept?, hsize, hk.limit]
      omega
    simp [act, hnone]
  · rw [Hub.report, hlive, List.map_map]
    rfl
  · simp [Hub.closeAll, hlive]
  · have hcourse : Hub.Course isWork 0 f.hub _ _ :=
      Hub.course_shutdownAll 0 f.hub.live f.hub hk.sound.live_known
    exact hcourse.members.2

/-- **Membership is exact.** -/
theorem membership (h : Handler σ) (capacity : Nat) (deeds : List (Deed σ)) :
    let played := play h { hub := { capacity } } deeds
    Exact h capacity played.value played.events :=
  (kept_play h deeds (kept_empty capacity)).exact h

/-- A freed key comes to stand for another connection, and the third of three is refused. -/
example :
    let h := Shell.handler { prompt := "> ", mode := .line }
    let comes : Deed Unit := .accept .line 16 () {} 0
    (play h { hub := { capacity := 2 } } [comes, comes, comes, .closeAll, .drop 0,
      comes]).value.hub.roster.entries =
      [(0, 2), (1, 1)] := by
  rfl

end Floor
end NetShell
