import NetShell.Proofs.Teardown

/-! What one connection's doings tell of another.

Many connections share a hub, and one history tells of all of them. What holds of one of them
lasts while others are at work if it is kept by events that are about others (`Event.Elsewhere`)
and by requests to shut down, the one thing that others can do to it (`Link.Lasting`). So it is
with what the history tells of a connection before it is destroyed (`Link.Told`) and after
(`Link.Departed`).

Whatever happens to a hub happens to one connection at most and leaves the others where they
were (`Hub.Apart`). How all connections stand is therefore kept if the one stands again
(`Hub.Muster.next`). -/
namespace NetShell
open Event

/-! ### Events about others -/

/-- The events neither end a connection's transport nor note a request to it. -/
def Event.Elsewhere (id : Nat) (events : List Event) : Prop :=
  calls id events = [] ∧ ∀ last, logged id last events = 0

/-- A connection's transport was shut down once and then closed once. -/
def Event.EndedOnce (id : Nat) (events : List Event) : Prop :=
  ∃ status failure failure',
    calls id events = [.shutdown id status failure, .close id status failure']

namespace Event

variable {id : Nat} {a b : List Event}

theorem elsewhere_nil (id : Nat) : Elsewhere id [] := ⟨rfl, fun _ => rfl⟩

theorem Elsewhere.append (ha : Elsewhere id a) (hb : Elsewhere id b) : Elsewhere id (a ++ b) :=
  ⟨by rw [calls_append, ha.1, hb.1]; rfl, fun last => by rw [logged_append, ha.2, hb.2]⟩

theorem elsewhere_of_isWork (h : ∀ e ∈ a, e.isWork = true) : Elsewhere id a :=
  ⟨calls_of_isWork h, fun _ => logged_of_isWork h⟩

end Event

namespace Link

variable {id j : Nat} {hook : Hook} {past events : List Event} {l l' : Link} {Own : Event → Bool}

/-- Ending a transport is about no other. -/
theorem elsewhere_farewell (hne : j ≠ id) (asked : Bool) :
    Elsewhere id (if asked then [] else farewell j .closed hook) := by
  cases asked with
  | true => exact elsewhere_nil id
  | false =>
    refine ⟨by simp [calls_farewell, hne], fun last => ?_⟩
    have hlogged := logged_farewell id j last .closed hook []
    rwa [List.append_nil] at hlogged

/-- Taking a connection down is about no other. -/
theorem elsewhere_closing (hne : j ≠ id) (conn : Nat) (asked : Bool) :
    Elsewhere id (Session.closing j hook conn asked) :=
  (elsewhere_farewell hne asked).append ⟨rfl, fun _ => rfl⟩

/-- What a worker does to its own link is about no other. -/
theorem Course.elsewhere (h : Course Own l events l') (hown : ∀ e, Own e = true → e.isWork = true)
    (hb : l.hook = none → l.torn = true) (hne : l.id ≠ id) : Elsewhere id events := by
  induction h with
  | nil => exact elsewhere_nil id
  | @event e _ _ rest he _ ih =>
    have hone : ∀ e' ∈ [e], e'.isWork = true := by simpa using hown e he
    exact (elsewhere_of_isWork hone).append (ih hb hne)
  | ask _ ih =>
    exact Elsewhere.append (shutdown_ne hne hb) (ih (bound_shutdown hb) (by rwa [id_shutdown]))
  | move _ _ _ ih => exact ih hb hne
  | begin _ _ ih => exact ih hb hne

/-! ### What lasts -/

/-- What holds of a connection's link and the history lasts while others are at work; `known` says
that the connection may be asked to shut down. -/
structure Lasting (id : Nat) (known : Prop) (P : List Event → Link → Prop) : Prop where
  quiet : ∀ {past events l}, P past l → Elsewhere id events → P (past ++ events) l
  ask : known → ∀ {past l}, P past l → P (past ++ l.shutdown.events) l.shutdown.value

/-- A connection has been destroyed, and its transport was ended once. -/
structure Departed (id : Nat) (past : List Event) (l : Link) : Prop where
  status : l.status = .closed
  torn : l.torn = true
  transport : l.hook = none
  ended : EndedOnce id past

theorem Departed.isClosing (h : Departed id past l) : l.status.isClosing = true := by
  rw [h.status]
  rfl

theorem lasting_told (id : Nat) (hook : Hook) (known : Prop) : Lasting id known (Told id hook) :=
  ⟨fun h he => h.quiet he.1 he.2, fun _ _ _ h => h.ask⟩

theorem lasting_departed (id : Nat) (known : Prop) : Lasting id known (Departed id) := by
  refine ⟨fun h he => ⟨h.status, h.torn, h.transport, ?_⟩, fun _ past l h => ?_⟩
  · rw [EndedOnce, calls_append, he.1, List.append_nil]
    exact h.ended
  · have hstatus : l.status.claimed = .closed := by rw [h.status]; rfl
    rw [shutdown_torn h.torn]
    exact ⟨hstatus, h.torn, h.transport, by simpa using h.ended⟩

theorem lasting_held (id : Nat) (known : Prop) : Lasting id known (fun _ l => l.held = true) :=
  ⟨fun h _ => h, fun _ _ l h => by rwa [held_shutdown]⟩

/-- Nothing is told of a connection that nobody knows yet. -/
theorem lasting_unknown (id : Nat) : Lasting id False (fun past _ => Elsewhere id past) :=
  ⟨fun h he => h.append he, False.elim⟩

/-- Once a status is claimed it stays so. -/
theorem lasting_closing (id : Nat) (known : Prop) :
    Lasting id known (fun _ l => l.status.isClosing = true) :=
  ⟨fun h _ => h, fun _ _ l _ => isClosing_shutdown l⟩

/-- The request that claimed the status has ended the transport. -/
theorem Told.endedOnce (ht : Told id hook past l) (hstatus : l.status.isClosing = true) :
    EndedOnce id past := by
  cases ht with
  | free _ _ _ hfree => simp [hfree] at hstatus
  | claimed _ _ _ hcalls => exact ⟨_, _, _, hcalls⟩

/-- A destroyed connection, before its key is freed. -/
theorem Told.destroyed (ht : Told id hook past l) :
    Departed id (past ++ l.destroy.events) l.destroy.value.1 := by
  have hended := (Session.told_closing 0 ht (List.forall_mem_nil _)).2.1
  have hsame : calls id (past ++ l.destroy.events) =
      calls id (past ++ ([] ++ Session.closing id hook 0 (asked id past))) := by
    rw [ht.destroy]
    simp [Session.closing, calls, ends]
  rw [ht.destroy] at hsame ⊢
  exact ⟨rfl, rfl, rfl, _, _, _, hsame.trans hended⟩

/-- A destroyed connection, as its history told of it. -/
theorem Told.departed (ht : Told id hook past l) {front : List Event}
    (hfront : ∀ e ∈ front, e.isWork = true) (conn : Nat) :
    Departed id (past ++ (front ++ Session.closing id hook conn (asked id past)))
      { l with status := .closed, torn := true, hook := none } :=
  ⟨rfl, rfl, rfl, _, _, _, (Session.told_closing conn ht hfront).2.1⟩

end Link

/-! ### Other connections of a hub -/

namespace Hub

variable {Own : Event → Bool} {hub hub' : Hub} {id j : Nat} {known : Prop} {P : List Event →
  Link → Prop}
  {past events : List Event}

theorem lasts_shutdown (hs : hub.Sound) (hP : Link.Lasting j known P)
    (hj : j < hub.links.length → known) {k : Nat} (hk : k < hub.links.length)
    (h : P past (hub.link j)) :
    P (past ++ (hub.shutdown k).events) ((hub.shutdown k).value.link j) := by
  have hnumber : (hub.link k).shutdown.value.id = k := Link.id_shutdown.trans (hs.link_id hk)
  rw [shutdown_eq]
  by_cases hkj : k = j
  · subst hkj
    rw [link_setLink hnumber hk]
    exact hP.ask (hj hk) h
  · have hne : (hub.link k).id ≠ j := by rwa [hs.link_id hk]
    rw [link_setLink_ne (by rwa [hnumber])]
    exact hP.quiet h (Link.shutdown_ne hne (hs.link_bound hk))

theorem lasts_shutdownAll (hs : hub.Sound) (hP : Link.Lasting j known P)
    (hj : j < hub.links.length → known) {ids : List Nat} (hids : ∀ k ∈ ids, k < hub.links.length)
    (h : P past (hub.link j)) :
    P (past ++ (hub.shutdownAll ids).events) ((hub.shutdownAll ids).value.link j) := by
  induction ids generalizing hub past with
  | nil => simpa [shutdownAll] using h
  | cons k rest ih =>
    have hk := hids k (List.mem_cons_self ..)
    have hlength : (hub.shutdown k).value.links.length = hub.links.length := by simp [shutdown_eq]
    have hfirst := lasts_shutdown hs hP hj hk h
    have hrest := ih (sound_shutdown hs hk) (by rwa [hlength])
      (fun i hi => by rw [hlength]; exact hids i (List.mem_cons_of_mem _ hi)) hfirst
    rw [List.append_assoc] at hrest
    exact hrest

theorem sound_shutdownAll (hs : hub.Sound) {ids : List Nat} (hids : ∀ k ∈ ids,
    k < hub.links.length) :
    (hub.shutdownAll ids).value.Sound := by
  induction ids generalizing hub with
  | nil => exact hs
  | cons k rest ih =>
    have hk := hids k (List.mem_cons_self ..)
    exact ih (sound_shutdown hs hk) fun i hi => by
      simpa [shutdown_eq] using hids i (List.mem_cons_of_mem _ hi)

namespace Course

/-- **What lasts of a connection lasts along the course of another's worker.** -/
theorem lasts (h : Course Own id hub events hub') (hown : ∀ e, Own e = true → e.isWork = true)
    (hs : hub.Sound) (hid : id < hub.links.length) (hne : id ≠ j) (hP : Link.Lasting j known P)
    (hj : j < hub.links.length → known) (hp : P past (hub.link j)) :
    P (past ++ events) (hub'.link j) := by
  induction h generalizing past with
  | nil => simpa using hp
  | @event e _ _ rest he _ ih =>
    have hone : ∀ e' ∈ [e], e'.isWork = true := by simpa using hown e he
    have := ih hs hid hj (hP.quiet hp (elsewhere_of_isWork hone))
    rwa [List.append_assoc] at this
  | @own l hub hub' _ _ hl _ ih =>
    have hnumber : l.id = id := hl.id_eq.trans (hs.link_id hid)
    have hbound := hs.link_bound hid
    have helsewhere := hl.elsewhere hown hbound (by rwa [hs.link_id hid])
    rw [← List.append_assoc]
    refine ih (sound_setLink hs (hl.bound hbound)) (by simpa using hid) (by simpa using hj) ?_
    rw [link_setLink_ne (by rwa [hnumber])]
    exact hP.quiet hp helsewhere
  | @ask hub _ _ k hk _ ih =>
    rw [← List.append_assoc]
    have hlength : (hub.shutdown k).value.links.length = hub.links.length := by simp [shutdown_eq]
    exact ih (sound_shutdown hs hk) (by rwa [hlength]) (by rwa [hlength])
      (lasts_shutdown hs hP hj hk hp)
  | stopping _ ih => exact ih (sound_stopping hs) hid hj hp

theorem capacity (h : Course Own id hub events hub') : hub'.capacity = hub.capacity := by
  induction h with
  | nil => rfl
  | event _ _ ih => exact ih
  | own _ _ ih => exact ih
  | ask j _ _ ih => rw [ih, shutdown_eq]; rfl
  | stopping _ ih => exact ih

end Course

/-! ### What leaves others where they were -/

/-- What happened leaves every connection but `own` where it was: what lasts of it has lasted, and
its key, if it has one, is still its own. -/
structure Apart (own : Option Nat) (hub : Hub) (events : List Event) (hub' : Hub) : Prop where
  lasts : ∀ {j known P past}, own ≠ some j → Link.Lasting j known P →
    (j < hub.links.length → known) →
    P past (hub.link j) → P (past ++ events) (hub'.link j)
  keys : ∀ {j}, own ≠ some j → ∀ key, hub.roster.get? key = some j ↔ hub'.roster.get? key = some j

/-- Nor do they leave the roster. -/
theorem Apart.members {own : Option Nat} (ha : Apart own hub events hub') (hne : own ≠ some j) :
    j ∈ hub.roster.toList ↔ j ∈ hub'.roster.toList := by
  rw [Slab.mem_toList, Slab.mem_toList]
  exact exists_congr fun key => ha.keys hne key

theorem Apart.told {own : Option Nat} (ha : Apart own hub events hub') (hne : own ≠ some j)
    {hook : Hook} (h : Link.Told j hook past (hub.link j)) :
    Link.Told j hook (past ++ events) (hub'.link j) :=
  ha.lasts hne (Link.lasting_told j hook True) (fun _ => trivial) h

theorem Apart.departed {own : Option Nat} (ha : Apart own hub events hub') (hne : own ≠ some j)
    (h : Link.Departed j past (hub.link j)) : Link.Departed j (past ++ events) (hub'.link j) :=
  ha.lasts hne (Link.lasting_departed j True) (fun _ => trivial) h

theorem Apart.held {own : Option Nat} (ha : Apart own hub events hub') (hne : own ≠ some j)
    (h : (hub.link j).held = true) : (hub'.link j).held = true :=
  @Apart.lasts _ _ _ _ ha j True _ [] hne (Link.lasting_held j True) (fun _ => trivial) h

theorem Apart.closing {own : Option Nat} (ha : Apart own hub events hub') (hne : own ≠ some j)
    (h : (hub.link j).status.isClosing = true) : (hub'.link j).status.isClosing = true :=
  @Apart.lasts _ _ _ _ ha j True _ [] hne (Link.lasting_closing j True) (fun _ => trivial) h

/-- What a worker does before the end concerns others by requests only. -/
theorem Course.apart (h : Course isWork id hub events hub') (hs : hub.Sound)
    (hid : id < hub.links.length) :
    Apart (some id) hub events hub' :=
  ⟨fun hne hP hj hp => h.lasts (fun _ he => he) hs hid (by simpa using hne) hP hj hp,
    fun _ key => by rw [h.members.2]⟩

theorem apart_shutdown (hs : hub.Sound) (hid : id < hub.links.length) :
    Apart none hub (hub.shutdown id).events (hub.shutdown id).value :=
  ⟨fun _ hP hj hp => lasts_shutdown hs hP hj hid hp, fun _ key => by rw [shutdown_eq]; rfl⟩

theorem apart_shutdownAll (hs : hub.Sound) {ids : List Nat} (hids : ∀ k ∈ ids,
    k < hub.links.length) :
    Apart none hub (hub.shutdownAll ids).events (hub.shutdownAll ids).value :=
  have hcourse : Course isWork 0 hub _ _ := course_shutdownAll 0 ids hub hids
  ⟨fun _ hP hj hp => lasts_shutdownAll hs hP hj hids hp, fun _ key => by rw [hcourse.members.2]⟩

/-- What is about no one leaves all where they were. -/
theorem apart_quiet (own : Option Nat) (hub : Hub) (he : ∀ j, Elsewhere j events) :
    Apart own hub events hub :=
  ⟨fun _ hP _ hp => hP.quiet hp (he _), fun _ _ => Iff.rfl⟩

theorem apart_stopping (hub : Hub) : Apart none hub [] { hub with stopping := true } :=
  ⟨fun _ hP _ hp => hP.quiet hp (elsewhere_nil _), fun _ _ => Iff.rfl⟩

/-- A connection's own link may become anything. -/
theorem apart_setLink (hub : Hub) {l : Link} (hl : l.id = id)
    (he : ∀ j, id ≠ j → Elsewhere j events) :
    Apart (some id) hub events (hub.setLink l) := by
  refine ⟨fun {j} _ _ _ hne hP _ hp => ?_, fun _ _ => Iff.rfl⟩
  have hne : id ≠ j := by simpa using hne
  rw [link_setLink_ne (by rwa [hl])]
  exact hP.quiet hp (he j hne)

/-- A connection that leaves takes its own key with it and no other. -/
theorem Apart.leave (ha : Apart (some id) hub events hub') {key : Nat}
    (hentry : hub'.roster.get? key = some id) :
    Apart (some id) hub events (hub'.deregister key) := by
  refine ⟨ha.lasts, fun {j} hne k => (ha.keys hne k).trans ?_⟩
  show _ ↔ (hub'.roster.erase key).get? k = some j
  by_cases hk : key = k
  · subst hk
    rw [hentry, Slab.get?_erase]
    simpa using hne
  · rw [Slab.get?_erase_ne _ hk]

/-- A connection that comes in takes a key that stood for nothing. -/
theorem apart_accept? (hs : hub.Sound) {l : Link} {key : Nat}
    (h : hub.accept? l = some (id, key, hub')) :
    Apart (some id) hub [] hub' := by
  obtain ⟨-, hnumber, -, rfl⟩ := admitted_of_accept? h
  refine ⟨fun {j} _ _ _ hne _ _ hp => ?_, fun {j} hne k => ?_⟩
  · have hlink : link { (hub.enter l).2 with roster := (hub.roster.insert id).2 } j =
      hub.link j := by
      have hj : hub.links.length ≠ j := by simpa [hnumber] using hne
      simp only [link, enter, List.getD_eq_getElem?_getD, List.getElem?_append]
      split
      · rfl
      · rw [List.getElem?_eq_none (by simp; omega), List.getElem?_eq_none (by omega)]
    rwa [hlink, List.append_nil]
  · show _ ↔ (hub.roster.insert id).2.get? k = some j
    by_cases hk : k = (hub.roster.insert id).1
    · subst hk
      rw [Slab.get?_vacant hs.roster, Slab.get?_insert hs.roster]
      simpa using hne
    · rw [Slab.get?_insert_ne _ _ hk]

/-! ### All connections -/

variable {α : Type} {L : Hub → List Event → Nat → α → Prop} {all all' : List α}

/-- How a connection stands does not change by what others do. -/
def Stable (L : Hub → List Event → Nat → α → Prop) : Prop :=
  ∀ {own hub events hub' past id a}, Apart own hub events hub' → own ≠ some id → hub'.Sound →
    id < hub'.links.length → L hub past id a → L hub' (past ++ events) id a

/-- Every connection stands as `L` says, and nothing is told of any other. -/
structure Muster (L : Hub → List Event → Nat → α → Prop) (hub : Hub) (past : List Event)
    (all : List α) : Prop where
  sound : hub.Sound
  places : hub.links.length = all.length
  lots : ∀ {id a}, all[id]? = some a → L hub past id a
  unknown : ∀ {id}, all.length ≤ id → Elsewhere id past

theorem muster_empty (capacity : Nat) : Muster L { capacity } [] [] :=
  ⟨sound_empty capacity, rfl, by simp, fun _ => elsewhere_nil _⟩

theorem Muster.lt (hm : Muster L hub past all) {a : α} (hid : all[id]? = some a) :
    id < hub.links.length := by
  rw [hm.places]
  exact (List.getElem?_eq_some_iff.1 hid).1

theorem Muster.of_known (hm : Muster L hub past all) (hid : id < hub.links.length) :
    ∃ a, all[id]? = some a ∧ L hub past id a := by
  rw [hm.places] at hid
  have ha := List.getElem?_eq_getElem hid
  exact ⟨_, ha, hm.lots ha⟩

/-- What one connection does keeps how all stand, if it leaves the others where they were and
its own stands again. -/
theorem Muster.next (hL : Stable L) (hm : Muster L hub past all) {own : Option Nat}
    (hapart : Apart own hub events hub') (hsound : hub'.Sound)
    (hplaces : hub'.links.length = all'.length)
    (hothers : ∀ id, own ≠ some id → all'[id]? = all[id]?)
    (hown : ∀ id, own = some id → ∃ a, all'[id]? = some a ∧ L hub' (past ++ events) id a) :
    Muster L hub' (past ++ events) all' := by
  refine ⟨hsound, hplaces, fun {id a} ha => ?_, fun {id} hnew => ?_⟩
  · by_cases hid : own = some id
    · obtain ⟨a', ha', hlot⟩ := hown id hid
      rw [ha, Option.some.injEq] at ha'
      exact ha' ▸ hlot
    · have hknown : id < hub'.links.length := by
        rw [hplaces]
        exact (List.getElem?_eq_some_iff.1 ha).1
      exact hL hapart hid hsound hknown (hm.lots (by rwa [← hothers id hid]))
  · have hnone : all'[id]? = none := List.getElem?_eq_none hnew
    have hid : own ≠ some id := fun hid => by
      obtain ⟨a, ha, -⟩ := hown id hid
      rw [hnone] at ha
      cases ha
    rw [hothers id hid, List.getElem?_eq_none_iff] at hnone
    exact hapart.lasts hid (Link.lasting_unknown id) (fun hlt => by rw [hm.places] at hlt; omega)
      (hm.unknown hnone)

end Hub
end NetShell
